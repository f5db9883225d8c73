import Mathlib.Data.List.Basic

/-!
# Occurrences

A text may occur in another one several times. Which occurrence is meant is told
by the text before it and the text after it, and it may be the first one, the
last one, or the only one.
-/

namespace Retrace.Text

variable {needle before rest s u v : List Char}

/-- No occurrence begins before this one. -/
def OccursFirst (needle before rest : List Char) : Prop :=
  ∀ u v, u ++ (needle ++ v) = before ++ (needle ++ rest) → before.length ≤ u.length

/-- No occurrence begins after this one. -/
def OccursLast (needle before rest : List Char) : Prop :=
  ∀ u v, u ++ (needle ++ v) = before ++ (needle ++ rest) → u.length ≤ before.length

/-- There is no other occurrence. -/
def OccursOnce (needle before rest : List Char) : Prop :=
  ∀ u v, u ++ (needle ++ v) = before ++ (needle ++ rest) → u = before

/-- Occurrences are looked for place by place. -/
theorem prefix_drop_iff {n : Nat} (within : n ≤ s.length) :
    needle <+: s.drop n ↔ ∃ u v, u.length = n ∧ u ++ (needle ++ v) = s := by
  constructor
  · rintro ⟨v, hv⟩
    refine ⟨s.take n, v, List.length_take_of_le within, ?_⟩
    rw [hv, List.take_append_drop]
  · rintro ⟨u, v, rfl, rfl⟩
    exact ⟨v, by simp⟩

instance : Decidable (OccursFirst needle before rest) :=
  decidable_of_iff (∀ n < before.length, ¬ needle <+: (before ++ (needle ++ rest)).drop n) (by
    constructor
    · intro absent u v h
      by_contra early
      refine absent u.length (Nat.lt_of_not_le early) ((prefix_drop_iff ?_).2 ⟨u, v, rfl, h⟩)
      simp [← h]
    · intro first n early found
      obtain ⟨u, v, rfl, h⟩ := (prefix_drop_iff (by simp; omega)).1 found
      exact absurd (first u v h) (Nat.not_le_of_lt early))

/-- A text that occurs has a first occurrence. -/
theorem exists_occursFirst (h : needle <:+: s) :
    ∃ before rest, before ++ (needle ++ rest) = s ∧ OccursFirst needle before rest := by
  induction s with
  | nil =>
    obtain rfl := List.eq_nil_of_infix_nil h
    exact ⟨[], [], rfl, fun _ _ _ => Nat.zero_le _⟩
  | cons c s ih =>
    by_cases here : needle <+: c :: s
    · obtain ⟨rest, hrest⟩ := here
      exact ⟨[], rest, hrest, fun _ _ _ => Nat.zero_le _⟩
    · obtain ⟨before, rest, rfl, first⟩ := ih ((List.infix_cons_iff.1 h).resolve_left here)
      refine ⟨c :: before, rest, rfl, ?_⟩
      intro u v cut
      cases u with
      | nil => exact absurd ⟨v, cut⟩ here
      | cons d u =>
        obtain ⟨-, cut⟩ := List.cons.inj cut
        simpa using first u v cut

-- ---------------------------------------------------------------------------
-- The last occurrence
-- ---------------------------------------------------------------------------

theorem OccursLast.of_cons {c : Char} (h : OccursLast needle (c :: before) rest) :
    OccursLast needle before rest := by
  intro u v cut
  have shifted := h (c :: u) v (by simp [cut])
  simpa using shifted

/-- Behind the place where a text occurs last it does not occur. -/
theorem OccursLast.not_infix_tail {c : Char} (h : OccursLast needle [] rest)
    (cut : needle ++ rest = c :: s) : ¬ needle <:+: s := by
  rintro ⟨u, v, rfl⟩
  have none_later := h (c :: u) v (by simp [cut])
  simp at none_later

/-- Where a text ends, another one ends with its last occurrence. -/
theorem occursLast_at_end (needle before : List Char) : OccursLast needle before [] := by
  intro u v cut
  have lengths := congrArg List.length cut
  simp only [List.length_append, List.length_nil] at lengths
  omega

/-- The same holds if one other character follows. -/
theorem occursLast_before {c d : Char} (last : needle.getLast? = some d) (other : d ≠ c)
    (before : List Char) : OccursLast needle before [c] := by
  intro u v cut
  by_contra later
  have lengths := congrArg List.length cut
  simp only [List.length_append, List.length_singleton] at lengths
  obtain rfl : v = [] := List.eq_nil_of_length_eq_zero (by omega)
  have ends := congrArg List.getLast? cut
  simp [List.getLast?_append, last] at ends
  exact other ends

/-- A text that occurs has a last occurrence. -/
theorem exists_occursLast (h : needle <:+: s) :
    ∃ before rest, before ++ (needle ++ rest) = s ∧ OccursLast needle before rest := by
  induction s with
  | nil =>
    obtain rfl := List.eq_nil_of_infix_nil h
    exact ⟨[], [], rfl, occursLast_at_end [] []⟩
  | cons c s ih =>
    by_cases later : needle <:+: s
    · obtain ⟨before, rest, rfl, last⟩ := ih later
      refine ⟨c :: before, rest, rfl, ?_⟩
      intro u v cut
      cases u with
      | nil => simp
      | cons d u =>
        obtain ⟨-, cut⟩ := List.cons.inj cut
        simpa using last u v cut
    · rcases List.infix_cons_iff.1 h with ⟨rest, hrest⟩ | inside
      · refine ⟨[], rest, hrest, ?_⟩
        intro u v cut
        cases u with
        | nil => simp
        | cons d u =>
          rw [List.nil_append, hrest] at cut
          obtain ⟨-, rfl⟩ := List.cons.inj cut
          exact absurd ⟨u, v, by simp⟩ later
      · exact absurd inside later

end Retrace.Text
