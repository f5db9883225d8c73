import Retrace.Channel.Buffer
import Retrace.Proofs.Pattern.Ways

/-!
# The leftmost place

A search answers with the first way at the leftmost place that has one. `Picks`
says so without the search: it names the text before the place and the way.
-/

namespace Retrace

namespace Expr

/-- The first way in which an expression fits. -/
def first? (e : Expr) (previous : Option Char) (s : List Char) : Option Way :=
  (e.ways previous s).head?

/-- The expression fits nowhere before the end of `before`, when `rest` follows it. -/
def Misses (e : Expr) (previous : Option Char) (before rest : List Char) : Prop :=
  ∀ a c b, before = a ++ c :: b → e.ways (lastOf previous a) (c :: (b ++ rest)) = []

/-- In a text the expression picks the way `x` after the text `before`. -/
structure Picks (e : Expr) (s before : List Char) (x : Way) : Prop where
  text_eq : before ++ (x.text ++ x.rest) = s
  first_eq : e.first? before.getLast? (x.text ++ x.rest) = some x
  misses : e.Misses none before (x.text ++ x.rest)

/-- A way as the match that a search reports. -/
def matchOf (x : Way) (cur : Cursor) : Match :=
  ⟨cur.position, x.text, x.stop cur, x.captures⟩

theorem matchAt?_eq (e : Expr) (cur : Cursor) :
    e.matchAt? cur = (e.first? cur.previous cur.rest).map (matchOf · cur) := by
  rw [matchAt?, go_eq, first?]
  cases h : e.ways cur.previous cur.rest with
  | nil => rfl
  | cons x l =>
    have covered : x.text ++ x.rest = cur.rest := ways_append (h ▸ List.mem_cons_self)
    simp [matchOf, Way.stop, ← covered]

theorem first?_eq_none_iff {e : Expr} {previous : Option Char} {s : List Char} :
    e.first? previous s = none ↔ e.ways previous s = [] :=
  List.head?_eq_none_iff

theorem misses_nil {e : Expr} {previous : Option Char} {rest : List Char} :
    e.Misses previous [] rest := by
  intro a c b h
  simp at h

theorem misses_cons {e : Expr} {previous : Option Char} {c : Char} {before rest : List Char} :
    e.Misses previous (c :: before) rest ↔
      e.ways previous (c :: (before ++ rest)) = [] ∧ e.Misses (some c) before rest := by
  constructor
  · intro h
    refine ⟨h [] c before rfl, fun a d b hb => ?_⟩
    simpa using h (c :: a) d b (by rw [hb]; rfl)
  · rintro ⟨here, later⟩ a d b hb
    cases a with
    | nil =>
      obtain ⟨rfl, rfl⟩ := List.cons.inj hb
      exact here
    | cons a₀ a =>
      obtain ⟨rfl, rest_eq⟩ := List.cons.inj hb
      simpa using later a d b rest_eq

/-- A search passes over the places where the expression does not fit. -/
theorem searchFrom_of_misses {e : Expr} {previous : Option Char} {before rest : List Char}
    (h : e.Misses previous before rest) (position : Nat) :
    e.searchFrom position previous (before ++ rest) =
      e.searchFrom (position + before.length) (lastOf previous before) rest := by
  induction before generalizing position previous with
  | nil => simp
  | cons c before ih =>
    obtain ⟨here, later⟩ := misses_cons.1 h
    have unmatched : e.matchAt? ⟨position, previous, c :: (before ++ rest)⟩ = none := by
      rw [matchAt?_eq, Option.map_eq_none_iff, first?_eq_none_iff]
      exact here
    rw [List.cons_append, searchFrom, unmatched, ih later]
    simp [Nat.add_assoc, Nat.add_comm 1]

theorem searchFrom_of_first? {e : Expr} {position : Nat} {previous : Option Char}
    {s : List Char} {x : Way} (h : e.first? previous s = some x) :
    e.searchFrom position previous s = some (matchOf x ⟨position, previous, s⟩) := by
  cases s <;> simp [searchFrom, matchAt?_eq, h]

/-- A search finds a place and the first way there, or there is no place. -/
theorem searchFrom_cases (e : Expr) (position : Nat) (previous : Option Char) (s : List Char) :
    (∃ before x, before ++ (x.text ++ x.rest) = s ∧
        e.first? (lastOf previous before) (x.text ++ x.rest) = some x ∧
        e.Misses previous before (x.text ++ x.rest)) ∨
      (e.Misses previous s [] ∧ e.ways (lastOf previous s) [] = [] ∧
        e.searchFrom position previous s = none) := by
  induction s generalizing position previous with
  | nil =>
    cases h : e.first? previous [] with
    | some x =>
      have covered : x.text ++ x.rest = [] := ways_append (List.mem_of_mem_head? h)
      exact .inl ⟨[], x, covered, by rw [covered]; exact h, misses_nil⟩
    | none => exact .inr ⟨misses_nil, first?_eq_none_iff.1 h, by simp [searchFrom, matchAt?_eq, h]⟩
  | cons c s ih =>
    cases h : e.first? previous (c :: s) with
    | some x =>
      have covered : x.text ++ x.rest = c :: s := ways_append (List.mem_of_mem_head? h)
      exact .inl ⟨[], x, covered, by rw [covered]; exact h, misses_nil⟩
    | none =>
      have here : e.ways previous (c :: s) = [] := first?_eq_none_iff.1 h
      rcases ih (position + 1) (some c) with ⟨before, x, rfl, hx, later⟩ | ⟨later, last, none⟩
      · refine .inl ⟨c :: before, x, rfl, by simpa using hx, misses_cons.2 ⟨?_, later⟩⟩
        exact here
      · refine .inr ⟨misses_cons.2 ⟨by simpa using here, later⟩, by simpa using last, ?_⟩
        simp [searchFrom, matchAt?_eq, h, none]

end Expr

namespace Pattern

variable {p : Pattern} {s before : List Char} {x : Way}

theorem find?_of_picks (h : p.expr.Picks s before x) :
    p.find? s = some (Expr.matchOf x ⟨before.length, before.getLast?, x.text ++ x.rest⟩) := by
  rw [find?, Expr.search, Cursor.start, ← h.text_eq, Expr.searchFrom_of_misses h.misses,
    Expr.searchFrom_of_first? (by simpa using h.first_eq)]
  simp

/-- A text without a match: the expression fits at no place, the end included. -/
theorem find?_eq_none_iff :
    p.find? s = none ↔ p.expr.Misses none s [] ∧ p.expr.ways s.getLast? [] = [] := by
  constructor
  · intro h
    rcases Expr.searchFrom_cases p.expr 0 none s with ⟨before, x, covered, hx, hm⟩ | ⟨hm, last, -⟩
    · have := find?_of_picks ⟨covered, by simpa using hx, hm⟩
      rw [h] at this
      simp at this
    · exact ⟨hm, by simpa using last⟩
  · rintro ⟨hm, last⟩
    have unmatched : p.expr.first? s.getLast? [] = none := Expr.first?_eq_none_iff.2 last
    have := Expr.searchFrom_of_misses hm 0
    rw [List.append_nil] at this
    rw [find?, Expr.search, Cursor.start, this]
    simp [Expr.searchFrom, Expr.matchAt?_eq, unmatched]

/-- A search that finds something finds what the expression picks. -/
theorem exists_picks_of_find? {m : Match} (h : p.find? s = some m) :
    ∃ before x, p.expr.Picks s before x ∧
      m = Expr.matchOf x ⟨before.length, before.getLast?, x.text ++ x.rest⟩ := by
  rcases Expr.searchFrom_cases p.expr 0 none s with ⟨before, x, covered, hx, hm⟩ | ⟨-, -, none⟩
  · have picks : p.expr.Picks s before x := ⟨covered, by simpa using hx, hm⟩
    refine ⟨before, x, picks, ?_⟩
    rw [find?_of_picks picks] at h
    exact (Option.some.inj h).symm
  · rw [find?, Expr.search, Cursor.start] at h
    simp only at h
    rw [none] at h
    simp at h

end Pattern

namespace Buffer

/-- What a buffer gives and keeps when a pattern picks something. -/
theorem take?_of_picks {b : Buffer} {p : Pattern} {before : List Char} {x : Way}
    (h : p.expr.Picks b.pending before x) :
    b.take? p = some (⟨String.ofList before, String.ofList x.text⟩, { b with pending := x.rest }) := by
  have taken : b.pending.take before.length = before := by simp [← h.text_eq]
  simp [take?, Pattern.find?_of_picks h, Expr.matchOf, taken, Match.rest]

theorem take?_eq_none_iff {b : Buffer} {p : Pattern} :
    b.take? p = none ↔ p.find? b.pending = none := by
  simp [take?]

variable {b b' : Buffer} {found : Expectation} {p : Pattern}

/-- What is taken is what the pattern picks in the output that waited. -/
theorem picks_of_take? (h : b.take? p = some (found, b')) :
    ∃ x, p.expr.Picks b.pending found.before.toList x ∧ found.matched.toList = x.text ∧
      b'.pending = x.rest := by
  obtain ⟨m, hm, -⟩ := Option.map_eq_some_iff.1 h
  obtain ⟨before, x, picks, -⟩ := Pattern.exists_picks_of_find? hm
  rw [take?_of_picks picks] at h
  obtain ⟨rfl, rfl⟩ := Prod.mk.inj (Option.some.inj h)
  exact ⟨x, by simpa using picks, by simp, rfl⟩

/-- What is taken and what is left make up the output that waited. -/
theorem text_of_take? (h : b.take? p = some (found, b')) :
    b.pending = found.before.toList ++ found.matched.toList ++ b'.pending := by
  obtain ⟨x, picks, matched, rest⟩ := picks_of_take? h
  rw [matched, rest, List.append_assoc, picks.text_eq]

end Buffer

end Retrace
