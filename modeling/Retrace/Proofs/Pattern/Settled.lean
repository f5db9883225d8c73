import Retrace.Proofs.Pattern.Fits

/-!
# Matches that later text cannot change

Output arrives in pieces, and a match is taken as soon as there is one. That is
what a search in the whole output finds if no match can end inside another one
that begins no later: more text then neither lengthens a match nor brings up one
further to the left.
-/

namespace Retrace.Expr

/-- Whether an expression fits a piece depends on the piece and the character before it only. -/
def isPlain : Expr → Bool
  | .seq a b | .alt a b => a.isPlain && b.isPlain
  | .group _ e => e.isPlain
  | .plus _ | .textStart | .textEnd => false
  | _ => true

/-- The pieces that a plain expression covers after a character. -/
def Covers : Expr → Option Char → List Char → Prop
  | .text t, _, w => w = t
  | .one set, _, w => ∃ c, set c = true ∧ w = [c]
  | .many set, _, w => ∀ c ∈ w, set c = true
  | .seq a b, previous, w =>
    ∃ u v, w = u ++ v ∧ a.Covers previous u ∧ b.Covers (lastOf previous u) v
  | .alt a b, previous, w => a.Covers previous w ∨ b.Covers previous w
  | .group _ e, previous, w => e.Covers previous w
  | .lineStart, previous, w => (previous = none ∨ previous = some '\n') ∧ w = []
  | .plus _, _, _ | .textStart, _, _ | .textEnd, _, _ => False

theorem covers_lit {t : String} {previous : Option Char} {w : List Char} :
    (lit t).Covers previous w ↔ w = t.toList :=
  Iff.rfl

theorem covers_seq {a b : Expr} {previous : Option Char} {w : List Char} :
    (a ++ b).Covers previous w ↔
      ∃ u v, w = u ++ v ∧ a.Covers previous u ∧ b.Covers (lastOf previous u) v :=
  Iff.rfl

theorem covers_alt {a b : Expr} {previous : Option Char} {w : List Char} :
    (alt a b).Covers previous w ↔ a.Covers previous w ∨ b.Covers previous w :=
  Iff.rfl

theorem covers_opt {e : Expr} {previous : Option Char} {w : List Char} :
    (opt e).Covers previous w ↔ e.Covers previous w ∨ w = [] :=
  Iff.rfl

theorem covers_group {n : Nat} {e : Expr} {previous : Option Char} {w : List Char} :
    (group n e).Covers previous w ↔ e.Covers previous w :=
  Iff.rfl

theorem covers_many1 {set : Char → Bool} {previous : Option Char} {w : List Char} :
    (many1 set).Covers previous w ↔ w ≠ [] ∧ ∀ c ∈ w, set c = true := by
  constructor
  · rintro ⟨u, v, rfl, ⟨c, hc, rfl⟩, hv⟩
    refine ⟨by simp, fun d hd => ?_⟩
    rcases List.mem_cons.1 hd with rfl | hd
    · exact hc
    · exact hv d hd
  · rintro ⟨nonempty, hw⟩
    obtain ⟨c, v, rfl⟩ := List.exists_cons_of_ne_nil nonempty
    exact ⟨[c], v, rfl, ⟨c, hw c (.head _), rfl⟩, fun d hd => hw d (.tail _ hd)⟩

theorem covers_of_fits {e : Expr} (plain : e.isPlain = true) {previous : Option Char}
    {w rest : List Char} (h : e.Fits previous w rest) : e.Covers previous w := by
  induction e generalizing previous w rest with
  | text t => exact h
  | one set => exact h
  | many set => exact h
  | seq a b iha ihb =>
    simp only [isPlain, Bool.and_eq_true] at plain
    obtain ⟨u, v, rfl, hu, hv⟩ := h
    exact ⟨u, v, rfl, iha plain.1 hu, ihb plain.2 hv⟩
  | alt a b iha ihb =>
    simp only [isPlain, Bool.and_eq_true] at plain
    exact h.imp (iha plain.1) (ihb plain.2)
  | plus e ih => simp [isPlain] at plain
  | group n e ih => exact ih plain h
  | lineStart => exact h
  | textStart => simp [isPlain] at plain
  | textEnd => simp [isPlain] at plain

theorem fits_of_covers {e : Expr} {previous : Option Char} {w : List Char}
    (h : e.Covers previous w) (rest : List Char) : e.Fits previous w rest := by
  induction e generalizing previous w rest with
  | text t => exact h
  | one set => exact h
  | many set => exact h
  | seq a b iha ihb =>
    obtain ⟨u, v, rfl, hu, hv⟩ := h
    exact ⟨u, v, rfl, iha hu (v ++ rest), ihb hv rest⟩
  | alt a b iha ihb => exact h.imp (iha · rest) (ihb · rest)
  | plus e ih => exact h.elim
  | group n e ih => exact ih h rest
  | lineStart => exact h
  | textStart => exact h.elim
  | textEnd => exact h.elim

theorem covers_of_mem_ways {e : Expr} (plain : e.isPlain = true) {previous : Option Char}
    {s : List Char} {x : Way} (h : x ∈ e.ways previous s) : e.Covers previous x.text :=
  covers_of_fits plain (fits_of_mem_ways h)

theorem exists_way_of_covers {e : Expr} {previous : Option Char} {w : List Char}
    (h : e.Covers previous w) (rest : List Char) :
    ∃ x ∈ e.ways previous (w ++ rest), x.text = w :=
  exists_way_of_fits (fits_of_covers h rest)

/-- A plain expression fits nowhere in a text that contains no piece it covers. -/
theorem find?_eq_none_iff_covers {p : Pattern} (plain : p.expr.isPlain = true) {s : List Char} :
    p.find? s = none ↔ ∀ a w b, s = a ++ w ++ b → ¬ p.expr.Covers a.getLast? w := by
  rw [Pattern.find?_eq_none_iff_fits]
  constructor
  · rintro h a w b rfl covered
    exact h a w b (by simp) (fits_of_covers covered b)
  · rintro h a w b rfl fits
    exact h a w b (by simp) (covers_of_fits plain fits)

/-- A match in a longer text ends behind a part that has none. -/
theorem Picks.ends_behind {p : Pattern} (plain : p.expr.isPlain = true) {s t before : List Char}
    {x : Way} (picks : p.expr.Picks (s ++ t) before x) (h : p.find? s = none) :
    ∃ used, before ++ x.text = s ++ used ∧ used ++ x.rest = t := by
  have whole : (before ++ x.text) ++ x.rest = s ++ t := by simpa using picks.text_eq
  rcases List.append_eq_append_iff.1 whole with ⟨v, rfl, -⟩ | ⟨used, behind, rest_eq⟩
  · have covered := covers_of_mem_ways plain (List.mem_of_mem_head? picks.first_eq)
    exact absurd covered ((find?_eq_none_iff_covers plain).1 h before x.text v rfl)
  · exact ⟨used, behind, rest_eq.symm⟩

-- ---------------------------------------------------------------------------
-- Settled expressions
-- ---------------------------------------------------------------------------

/-- No piece that is covered ends inside another one that begins no later. -/
def Settled (e : Expr) : Prop :=
  ∀ previous a w b, e.Covers previous (a ++ w ++ b) → e.Covers (lastOf previous a) w → b = []

theorem settled_lit (t : String) : (lit t).Settled := by
  intro previous a w b outer inner
  rw [covers_lit] at outer inner
  subst inner
  have lengths := congrArg List.length outer
  simp only [List.length_append] at lengths
  exact List.eq_nil_of_length_eq_zero (by omega)

/-- Two pieces that a settled expression covers at one place are the same. -/
theorem Settled.unique {e : Expr} (settled : e.Settled) {previous : Option Char}
    {v w : List Char} {s : List Char} (hv : e.Covers previous v) (hw : e.Covers previous w)
    (vs : v <+: s) (ws : w <+: s) : v = w := by
  rcases List.prefix_or_prefix_of_prefix vs ws with ⟨b, rfl⟩ | ⟨b, rfl⟩
  · have : b = [] := settled previous [] v b (by simpa using hw) (by simpa using hv)
    simp [this]
  · have : b = [] := settled previous [] w b (by simpa using hv) (by simpa using hw)
    simp [this]

/-- The first way in which a settled expression fits covers the only piece it can. -/
theorem Settled.first_of_covers {e : Expr} (plain : e.isPlain = true) (settled : e.Settled)
    {previous : Option Char} {w : List Char} (h : e.Covers previous w) (rest : List Char) :
    ∃ x, e.first? previous (w ++ rest) = some x ∧ x.text = w ∧ x.rest = rest := by
  obtain ⟨y, hy, -⟩ := exists_way_of_covers h rest
  obtain ⟨x, hx⟩ : ∃ x, e.first? previous (w ++ rest) = some x := by
    cases hf : e.first? previous (w ++ rest) with
    | some x => exact ⟨x, rfl⟩
    | none =>
      rw [first?_eq_none_iff.1 hf] at hy
      simp at hy
  have mem : x ∈ e.ways previous (w ++ rest) := List.mem_of_mem_head? hx
  have covered : x.text ++ x.rest = w ++ rest := ways_append mem
  have text_eq : x.text = w :=
    settled.unique (covers_of_mem_ways plain mem) h ⟨x.rest, covered⟩ (List.prefix_append ..)
  refine ⟨x, hx, text_eq, ?_⟩
  rw [text_eq] at covered
  exact List.append_cancel_left covered

/-- More text at the end does not change what a settled expression picks. -/
theorem Settled.picks_append {e : Expr} (plain : e.isPlain = true) (settled : e.Settled)
    {s before : List Char} {x : Way} (h : e.Picks s before x) (t : List Char) :
    ∃ y, e.Picks (s ++ t) before y ∧ y.text = x.text ∧ y.rest = x.rest ++ t := by
  have covered : e.Covers before.getLast? x.text :=
    covers_of_mem_ways plain (List.mem_of_mem_head? h.first_eq)
  obtain ⟨y, hy, text_eq, rest_eq⟩ := settled.first_of_covers plain covered (x.rest ++ t)
  refine ⟨y, ⟨?_, ?_, ?_⟩, text_eq, rest_eq⟩
  · rw [text_eq, rest_eq, ← h.text_eq]
    simp
  · rw [text_eq, rest_eq]
    exact hy
  · intro a c b hb
    rw [text_eq, rest_eq]
    by_contra found
    obtain ⟨z, hz⟩ := List.exists_mem_of_ne_nil _ found
    have z_covers := covers_of_mem_ways plain hz
    -- The piece cannot reach beyond the shorter text, since it would go around `x` then.
    have early : z.text <+: c :: (b ++ (x.text ++ x.rest)) := by
      have within : z.text <+: c :: (b ++ (x.text ++ x.rest)) ++ t :=
        ⟨z.rest, by simpa using ways_append hz⟩
      rcases List.prefix_or_prefix_of_prefix within (List.prefix_append ..) with early | ⟨u, hu⟩
      · exact early
      · have inner : e.Covers (lastOf (lastOf none a) (c :: b)) x.text := by
          rw [lastOf_append, lastOf_none, ← hb]
          exact covered
        have outer : e.Covers (lastOf none a) ((c :: b) ++ x.text ++ (x.rest ++ u)) := by
          simpa [← hu] using z_covers
        have nothing : x.rest ++ u = [] := settled _ _ _ _ outer inner
        simp [← hu, (List.append_eq_nil_iff.1 nothing).2]
    obtain ⟨rest, hrest⟩ := early
    obtain ⟨z', hz', -⟩ := exists_way_of_covers z_covers rest
    rw [hrest, h.misses a c b hb] at hz'
    simp at hz'

end Retrace.Expr

namespace Retrace.Buffer

/-- What is matched is a piece that the pattern covers where it stands. -/
theorem covers_of_take? {b b' : Buffer} {found : Expectation} {p : Pattern}
    (plain : p.expr.isPlain = true) (h : b.take? p = some (found, b')) :
    p.expr.Covers found.before.toList.getLast? found.matched.toList := by
  obtain ⟨x, picks, matched, -⟩ := picks_of_take? h
  rw [matched]
  exact Expr.covers_of_mem_ways plain (List.mem_of_mem_head? picks.first_eq)

end Retrace.Buffer
