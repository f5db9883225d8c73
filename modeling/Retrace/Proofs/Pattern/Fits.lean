import Retrace.Proofs.Pattern.Leftmost

/-!
# What an expression fits

`Expr.Fits` says what piece of a text an expression fits, between the character
before the piece and the text after it, without saying how to look for it. An
expression has a way to cover a piece exactly if it fits it, so a search finds
something exactly if the expression fits somewhere, and never later than it could.
-/

namespace Retrace.Expr

variable {previous : Option Char} {s w rest : List Char}

/-- Pieces one after another, each of which fits; there may be none. -/
inductive Repeats (fits : Option Char → List Char → List Char → Prop) :
    Option Char → List Char → List Char → Prop where
  | none {previous : Option Char} {rest : List Char} : Repeats fits previous [] rest
  | next {previous : Option Char} {u v rest : List Char} (first : fits previous u (v ++ rest))
      (later : Repeats fits (lastOf previous u) v rest) : Repeats fits previous (u ++ v) rest

/-- An expression fits a piece of a text after a character and in front of the rest. -/
def Fits : Expr → Option Char → List Char → List Char → Prop
  | .text t, _, w, _ => w = t
  | .one set, _, w, _ => ∃ c, set c = true ∧ w = [c]
  | .many set, _, w, _ => ∀ c ∈ w, set c = true
  | .seq a b, previous, w, rest =>
    ∃ u v, w = u ++ v ∧ a.Fits previous u (v ++ rest) ∧ b.Fits (lastOf previous u) v rest
  | .alt a b, previous, w, rest => a.Fits previous w rest ∨ b.Fits previous w rest
  | .plus e, previous, w, rest =>
    ∃ u v, w = u ++ v ∧ e.Fits previous u (v ++ rest) ∧ Repeats e.Fits (lastOf previous u) v rest
  | .group _ e, previous, w, rest => e.Fits previous w rest
  | .lineStart, previous, w, _ => (previous = none ∨ previous = some '\n') ∧ w = []
  | .textStart, previous, w, _ => previous = none ∧ w = []
  | .textEnd, _, w, rest => w = [] ∧ rest = []

-- ---------------------------------------------------------------------------
-- Every way fits
-- ---------------------------------------------------------------------------

theorem repeats_of_mem_repeatWays {e : Expr}
    (fits : ∀ previous s x, x ∈ e.ways previous s → e.Fits previous x.text x.rest) {fuel : Nat}
    {x : Way} (h : x ∈ repeatWays e.ways fuel previous s) :
    Repeats e.Fits previous x.text x.rest := by
  induction fuel generalizing previous s x with
  | zero =>
    obtain rfl := List.mem_singleton.1 h
    exact .none
  | succ fuel ih =>
    rcases mem_repeatWays_succ_iff.1 h with ⟨y, hy, -, z, hz, rfl⟩ | rfl
    · have between : z.text ++ z.rest = y.rest :=
        repeatWays_append (fun _ _ _ => ways_append) hz
      exact .next (between ▸ fits _ _ _ hy) (ih hz)
    · exact .none

theorem fits_of_mem_ways {e : Expr} {x : Way} (h : x ∈ e.ways previous s) :
    e.Fits previous x.text x.rest := by
  induction e generalizing previous s x with
  | text t =>
    obtain ⟨rest, -, rfl⟩ := mem_ways_text_iff.1 h
    rfl
  | one set =>
    obtain ⟨c, rest, -, hc, rfl⟩ := mem_ways_one_iff.1 h
    exact ⟨c, hc, rfl⟩
  | many set =>
    obtain ⟨w, rest, -, all, rfl⟩ := mem_ways_many_iff.1 h
    exact all
  | seq a b iha ihb =>
    obtain ⟨y, hy, z, hz, rfl⟩ := mem_ways_seq_iff.1 h
    have between : z.text ++ z.rest = y.rest := ways_append hz
    exact ⟨y.text, z.text, rfl, between ▸ iha hy, ihb hz⟩
  | alt a b iha ihb => exact (mem_ways_alt_iff.1 h).imp iha ihb
  | plus e ih =>
    obtain ⟨y, hy, z, hz, rfl⟩ := mem_ways_plus_iff.1 h
    have between : z.text ++ z.rest = y.rest := repeatWays_append (fun _ _ _ => ways_append) hz
    exact ⟨y.text, z.text, rfl, between ▸ ih hy,
      repeats_of_mem_repeatWays (fun _ _ _ => ih) hz⟩
  | group n e ih =>
    obtain ⟨y, hy, rfl⟩ := mem_ways_group_iff.1 h
    have fits : e.Fits previous y.text y.rest := ih hy
    exact fits
  | lineStart =>
    obtain ⟨hp, rfl⟩ := mem_ways_lineStart_iff.1 h
    exact ⟨hp, rfl⟩
  | textStart =>
    obtain ⟨hp, rfl⟩ := mem_ways_textStart_iff.1 h
    exact ⟨hp, rfl⟩
  | textEnd =>
    obtain ⟨hs, rfl⟩ := mem_ways_textEnd_iff.1 h
    exact ⟨rfl, hs⟩

-- ---------------------------------------------------------------------------
-- What fits is a way
-- ---------------------------------------------------------------------------

/-- A repetition that covers nothing can be left out, so the length of the text is enough. -/
theorem exists_repeatWays_of_repeats {e : Expr}
    (way : ∀ previous w rest, e.Fits previous w rest →
      ∃ x ∈ e.ways previous (w ++ rest), x.text = w)
    (h : Repeats e.Fits previous w rest) {fuel : Nat} (enough : w.length ≤ fuel) :
    ∃ x ∈ repeatWays e.ways fuel previous (w ++ rest), x.text = w := by
  induction h generalizing fuel with
  | @none previous rest => exact ⟨.here rest, by cases fuel <;> simp [repeatWays], rfl⟩
  | @next previous u v rest first later ih =>
    by_cases hu : u = []
    · subst hu
      simpa using ih (by simpa using enough)
    · have := List.length_pos_iff.2 hu
      rw [List.length_append] at enough
      obtain ⟨fuel, rfl⟩ : ∃ less, fuel = less + 1 := Nat.exists_eq_succ_of_ne_zero (by omega)
      obtain ⟨x, hx, rfl⟩ := way _ _ _ first
      have rest_eq : x.rest = v ++ rest := by simpa using ways_append hx
      obtain ⟨y, hy, rfl⟩ := ih (show v.length ≤ fuel by omega)
      rw [List.append_assoc]
      exact ⟨x.andThen y,
        mem_repeatWays_succ_iff.2 (.inl ⟨x, hx, hu, y, rest_eq ▸ hy, rfl⟩), rfl⟩

theorem exists_way_of_fits {e : Expr} (h : e.Fits previous w rest) :
    ∃ x ∈ e.ways previous (w ++ rest), x.text = w := by
  induction e generalizing previous w rest with
  | text t =>
    obtain rfl : w = t := h
    exact ⟨_, mem_ways_text_iff.2 ⟨rest, rfl, rfl⟩, rfl⟩
  | one set =>
    obtain ⟨c, hc, rfl⟩ := h
    exact ⟨_, mem_ways_one_iff.2 ⟨c, rest, rfl, hc, rfl⟩, rfl⟩
  | many set => exact ⟨_, mem_ways_many_iff.2 ⟨w, rest, rfl, h, rfl⟩, rfl⟩
  | seq a b iha ihb =>
    obtain ⟨u, v, rfl, hu, hv⟩ := h
    obtain ⟨x, hx, rfl⟩ := iha hu
    obtain ⟨y, hy, rfl⟩ := ihb hv
    have rest_eq : x.rest = y.text ++ rest := by simpa using ways_append hx
    rw [List.append_assoc]
    exact ⟨x.andThen y, mem_ways_seq_iff.2 ⟨x, hx, y, rest_eq ▸ hy, rfl⟩, rfl⟩
  | alt a b iha ihb =>
    rcases h with h | h
    · obtain ⟨x, hx, hw⟩ := iha h
      exact ⟨x, mem_ways_alt_iff.2 (.inl hx), hw⟩
    · obtain ⟨x, hx, hw⟩ := ihb h
      exact ⟨x, mem_ways_alt_iff.2 (.inr hx), hw⟩
  | plus e ih =>
    obtain ⟨u, v, rfl, hu, hv⟩ := h
    obtain ⟨x, hx, rfl⟩ := ih hu
    have rest_eq : x.rest = v ++ rest := by simpa using ways_append hx
    obtain ⟨y, hy, rfl⟩ := exists_repeatWays_of_repeats (fun _ _ _ => ih) hv
      (show v.length ≤ (x.text ++ (v ++ rest)).length by simp; omega)
    rw [List.append_assoc]
    exact ⟨x.andThen y, mem_ways_plus_iff.2 ⟨x, hx, y, rest_eq ▸ hy, rfl⟩, rfl⟩
  | group n e ih =>
    obtain ⟨x, hx, rfl⟩ := ih h
    exact ⟨_, mem_ways_group_iff.2 ⟨x, hx, rfl⟩, rfl⟩
  | lineStart =>
    obtain ⟨hp, rfl⟩ := h
    exact ⟨_, mem_ways_lineStart_iff.2 ⟨hp, rfl⟩, rfl⟩
  | textStart =>
    obtain ⟨hp, rfl⟩ := h
    exact ⟨_, mem_ways_textStart_iff.2 ⟨hp, rfl⟩, rfl⟩
  | textEnd =>
    obtain ⟨rfl, rfl⟩ := h
    exact ⟨_, mem_ways_textEnd_iff.2 ⟨rfl, rfl⟩, rfl⟩

-- ---------------------------------------------------------------------------
-- Searching
-- ---------------------------------------------------------------------------

/-- There is a way at a place exactly if the expression fits some piece there. -/
theorem ways_eq_nil_iff {e : Expr} :
    e.ways previous s = [] ↔ ∀ w rest, w ++ rest = s → ¬ e.Fits previous w rest := by
  rw [List.eq_nil_iff_forall_not_mem]
  constructor
  · rintro none w rest rfl fits
    obtain ⟨x, hx, -⟩ := exists_way_of_fits fits
    exact none x hx
  · exact fun none x hx => none x.text x.rest (ways_append hx) (fits_of_mem_ways hx)

/-- The place where an expression picks a piece is the first one where it fits any. -/
theorem Picks.leftmost {e : Expr} {before : List Char} {x : Way} (picks : e.Picks s before x)
    {early : List Char} (covered : early ++ (w ++ rest) = s)
    (fits : e.Fits early.getLast? w rest) : before.length ≤ early.length := by
  by_contra shorter
  have whole : early ++ (w ++ rest) = before ++ (x.text ++ x.rest) := covered.trans picks.text_eq.symm
  obtain ⟨skipped, rfl, here⟩ : ∃ skipped, before = early ++ skipped ∧
      w ++ rest = skipped ++ (x.text ++ x.rest) := by
    rcases List.append_eq_append_iff.1 whole with ⟨skipped, cut⟩ | ⟨skipped, rfl, -⟩
    · exact ⟨skipped, cut⟩
    · simp at shorter
  obtain ⟨c, skipped, rfl⟩ : ∃ c t, skipped = c :: t :=
    List.exists_cons_of_ne_nil (by rintro rfl; simp at shorter)
  have none := picks.misses early c skipped rfl
  rw [lastOf_none] at none
  exact ways_eq_nil_iff.1 none w rest here fits

end Retrace.Expr

namespace Retrace.Pattern

variable {p : Pattern} {s : List Char}

/-- Nothing is found in a text exactly if the expression fits nowhere in it. -/
theorem find?_eq_none_iff_fits :
    p.find? s = none ↔ ∀ a w b, a ++ (w ++ b) = s → ¬ p.expr.Fits a.getLast? w b := by
  have places : p.find? s = none ↔ ∀ a b, a ++ b = s → p.expr.ways a.getLast? b = [] := by
    rw [find?_eq_none_iff]
    constructor
    · rintro ⟨misses, last⟩ a b rfl
      cases b with
      | nil => simpa using last
      | cons c b => simpa using misses a c b rfl
    · intro h
      exact ⟨fun a c b hs => by simpa using h a (c :: b) hs.symm, h s [] (List.append_nil s)⟩
  rw [places]
  simp only [Expr.ways_eq_nil_iff]
  constructor
  · exact fun h a w b hs => h a (w ++ b) hs w b rfl
  · rintro h a _ hs w b rfl
    exact h a w b hs

end Retrace.Pattern
