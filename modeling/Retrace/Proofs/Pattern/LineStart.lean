import Retrace.Proofs.Pattern.First

/-!
# Expressions at line starts

An expression that fits at the start of a line only is looked for line by line:
it misses a text if it fits at the start of none of its lines.
-/

namespace Retrace.Expr

variable {a b e : Expr} {previous : Option Char} {line before rest : List Char}

/-- The expression misses a text if it misses both parts of it. -/
theorem misses_append {u v : List Char} :
    e.Misses previous (u ++ v) rest ↔
      e.Misses previous u (v ++ rest) ∧ e.Misses (lastOf previous u) v rest := by
  induction u generalizing previous with
  | nil => simp [misses_nil]
  | cons c u ih => simp [misses_cons, ih, and_assoc]

/-- The expression fits at the start of a line only. -/
def Anchored (e : Expr) : Prop :=
  ∀ c s, c ≠ '\n' → e.ways (some c) s = []

theorem anchored_lineStart : lineStart.Anchored := by
  intro c s hc
  simp [ways, hc]

theorem Anchored.seq (h : a.Anchored) : (a ++ b).Anchored := by
  intro c s hc
  rw [ways_seq, h c s hc, List.flatMap_nil]

/-- Within a line an anchored expression fits nowhere. -/
theorem Anchored.misses_within (h : e.Anchored) {c : Char} (hc : c ≠ '\n') (free : '\n' ∉ line)
    (rest : List Char) : e.Misses (some c) line rest := by
  induction line generalizing c with
  | nil => exact misses_nil
  | cons d line ih =>
    simp only [List.mem_cons, not_or] at free
    exact misses_cons.2 ⟨h c _ hc, ih (Ne.symm free.1) free.2⟩

theorem Anchored.misses_line (h : e.Anchored) (free : '\n' ∉ line)
    (here : e.ways previous (line ++ rest) = []) : e.Misses previous line rest := by
  cases line with
  | nil => exact misses_nil
  | cons c line =>
    simp only [List.mem_cons, not_or] at free
    exact misses_cons.2 ⟨here, h.misses_within (Ne.symm free.1) free.2 rest⟩

/-- A text is missed if its first line and all others are. -/
theorem Anchored.misses_cons_line (h : e.Anchored) (free : '\n' ∉ line)
    (here : e.ways previous (line ++ '\n' :: (before ++ rest)) = [])
    (later : e.Misses (some '\n') before rest) :
    e.Misses previous (line ++ '\n' :: before) rest := by
  refine misses_append.2 ⟨h.misses_line free here, misses_cons.2 ⟨?_, later⟩⟩
  cases line with
  | nil => exact here
  | cons c line =>
    obtain ⟨d, hd⟩ : ∃ d, (c :: line).getLast? = some d := ⟨_, List.getLast?_cons⟩
    have feed : d ≠ '\n' := fun hf => free (hf ▸ List.mem_of_getLast? hd)
    simp only [lastOf, hd]
    exact h d _ feed

-- ---------------------------------------------------------------------------
-- Behind a line feed
-- ---------------------------------------------------------------------------

/-- Whether an expression asks for the start of the text. -/
def asksStart : Expr → Bool
  | .seq a b | .alt a b => a.asksStart || b.asksStart
  | .plus e | .group _ e => e.asksStart
  | .textStart => true
  | _ => false

/-- What depends on the character before alike at the start of a text and behind a line feed does so
after any piece. -/
theorem lastOf_alike {α : Type} {f : Option Char → α} (alike : f none = f (some '\n'))
    (w : List Char) : f (lastOf none w) = f (lastOf (some '\n') w) := by
  cases w with
  | nil => exact alike
  | cons c w => simp

theorem repeatWays_behind_feed {body : Option Char → List Char → List Way}
    (alike : ∀ s, body none s = body (some '\n') s) (fuel : Nat) (s : List Char) :
    repeatWays body fuel none s = repeatWays body fuel (some '\n') s := by
  cases fuel with
  | zero => rfl
  | succ fuel =>
    rw [repeatWays, repeatWays, alike]
    congr 2
    funext x
    cases hx : x.text with
    | nil => rfl
    | cons c w => simp

/-- A text starts as a line does: unless an expression asks for the start of the text, it fits there
in the ways in which it fits behind a line feed. -/
theorem ways_behind_feed (free : e.asksStart = false) (s : List Char) :
    e.ways none s = e.ways (some '\n') s := by
  induction e generalizing s with
  | text w => rfl
  | one set => cases s <;> rfl
  | many set => rfl
  | seq a b iha ihb =>
    simp only [asksStart, Bool.or_eq_false_iff] at free
    rw [ways, ways, iha free.1]
    congr 1
    funext x
    rw [lastOf_alike (f := fun previous => b.ways previous x.rest) (ihb free.2 x.rest)]
  | alt a b iha ihb =>
    simp only [asksStart, Bool.or_eq_false_iff] at free
    rw [ways, ways, iha free.1, ihb free.2]
  | plus e ih =>
    rw [ways, ways, ih free]
    congr 1
    funext x
    rw [lastOf_alike (f := fun previous => repeatWays e.ways s.length previous x.rest)
      (repeatWays_behind_feed (fun s => ih free s) _ _)]
  | group n e ih => rw [ways, ways, ih free]
  | lineStart => simp [ways]
  | textStart => simp [asksStart] at free
  | textEnd => rfl

theorem misses_behind_feed (free : e.asksStart = false) (h : e.Misses none before rest) :
    e.Misses (some '\n') before rest := by
  cases before with
  | nil => exact misses_nil
  | cons c before =>
    obtain ⟨here, later⟩ := misses_cons.1 h
    exact misses_cons.2 ⟨by rw [← ways_behind_feed free]; exact here, later⟩

end Retrace.Expr

namespace Retrace.Pattern

open Retrace.Expr

variable {p : Pattern} {front t : List Char}

/-- Behind lines that have no match a search finds what it finds in the rest alone. -/
theorem find?_behind_lines (free : p.expr.asksStart = false)
    (ended : front.getLast? = some '\n') (misses : ∀ rest, p.expr.Misses none front rest) :
    (p.find? (front ++ t)).map Match.group? = (p.find? t).map Match.group? := by
  have alike (before s : List Char) :
      p.expr.ways (front ++ before).getLast? s = p.expr.ways before.getLast? s := by
    rw [List.getLast?_append, ended]
    cases before.getLast? with
    | none => exact (ways_behind_feed free s).symm
    | some c => rfl
  have missed {before rest : List Char} (later : p.expr.Misses none before rest) :
      p.expr.Misses none (front ++ before) rest := by
    refine misses_append.2 ⟨misses _, ?_⟩
    rw [lastOf_none, ended]
    exact misses_behind_feed free later
  cases found : p.find? t with
  | none =>
    obtain ⟨later, last⟩ := find?_eq_none_iff.1 found
    rw [find?_eq_none_iff.2 ⟨missed later, (alike t []).trans last⟩]
  | some m =>
    obtain ⟨before, x, picks, rfl⟩ := exists_picks_of_find? found
    have first : p.expr.first? (front ++ before).getLast? (x.text ++ x.rest) = some x := by
      rw [first?, alike]
      exact picks.first_eq
    have picks' : p.expr.Picks (front ++ t) (front ++ before) x :=
      ⟨by rw [List.append_assoc, picks.text_eq], first, missed picks.misses⟩
    rw [find?_of_picks picks']
    rfl

end Retrace.Pattern
