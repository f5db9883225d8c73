import Retrace.Text.Lines
import Mathlib.Data.List.Basic
import Mathlib.Algebra.BigOperators.Group.List.Basic
import Mathlib.Algebra.GroupWithZero.Nat

/-!
# Cutting text

A text is cut at a character in one way only if the character is missing on one
side of the cut. The pieces between the occurrences of a character are cut there.
-/

namespace Retrace.Text

variable {c sep : Char} {s u u' v v' : List Char}

-- ---------------------------------------------------------------------------
-- One cut
-- ---------------------------------------------------------------------------

theorem last_cut (hv : c ∉ v) (hv' : c ∉ v') (h : u ++ c :: v = u' ++ c :: v') :
    u = u' ∧ v = v' := by
  rcases List.append_eq_append_iff.1 h with ⟨t, rfl, ht⟩ | ⟨t, rfl, ht⟩
  · cases t with
    | nil => simpa using ht
    | cons d t => simp_all
  · cases t with
    | nil => simpa [eq_comm] using ht
    | cons d t => simp_all

theorem first_cut (hu : c ∉ u) (hu' : c ∉ u') (h : u ++ c :: v = u' ++ c :: v') :
    u = u' ∧ v = v' := by
  have reversed : v.reverse ++ c :: u.reverse = v'.reverse ++ c :: u'.reverse := by
    simpa using congrArg List.reverse h
  have := last_cut (by simpa using hu) (by simpa using hu') reversed
  simpa [and_comm] using this

/-- A text without the character at a cut does not reach beyond the cut. -/
theorem prefix_of_notMem (hu : c ∉ u) (h : u ++ v = u' ++ c :: v') : u <+: u' := by
  rcases List.append_eq_append_iff.1 h with ⟨t, ht, -⟩ | ⟨t, rfl, ht⟩
  · exact ⟨t, ht.symm⟩
  · cases t with
    | nil => exact ⟨[], by simp⟩
    | cons d t =>
      obtain ⟨rfl, -⟩ := List.cons.inj ht
      simp at hu

/-- The run of characters of a set at the start of a text ends at one place. -/
theorem run_cut {set : Char → Bool} {d : Char} (hu : ∀ x ∈ u, set x = true)
    (hu' : ∀ x ∈ u', set x = true) (hc : set c = false) (hd : set d = false)
    (h : u ++ c :: v = u' ++ d :: v') : u = u' ∧ c = d ∧ v = v' := by
  rcases List.append_eq_append_iff.1 h with ⟨t, rfl, ht⟩ | ⟨t, rfl, ht⟩
  · cases t with
    | nil => simpa using ht
    | cons x t =>
      obtain ⟨rfl, -⟩ := List.cons.inj ht
      simp [hu'] at hc
  · cases t with
    | nil => simpa [eq_comm] using ht
    | cons x t =>
      obtain ⟨rfl, -⟩ := List.cons.inj ht
      simp [hu] at hd

/-- A piece that a separator ends is the end of the first line, or lies behind that line. -/
theorem piece_cases {piece rest : List Char} (hp : sep ∉ piece) (hu : sep ∉ u)
    (h : s ++ (piece ++ sep :: rest) = u ++ sep :: v) :
    (s ++ piece = u ∧ rest = v) ∨ ∃ s', s' ++ (piece ++ sep :: rest) = v := by
  by_cases hs : sep ∈ s
  · obtain ⟨first, later, rfl, free⟩ := List.eq_append_cons_of_mem hs
    have cut : first ++ sep :: (later ++ (piece ++ sep :: rest)) = u ++ sep :: v := by simpa using h
    exact .inr ⟨later, (first_cut free hu cut).2⟩
  · have cut : (s ++ piece) ++ sep :: rest = u ++ sep :: v := by simpa using h
    exact .inl (first_cut (by simp [hs, hp]) hu cut)

/-- A phrase without the character at a cut lies on one side of the cut. -/
theorem infix_append_cons {phrase : List Char} (hc : c ∉ phrase) (h : phrase <:+: u ++ c :: v) :
    phrase <:+: u ∨ phrase <:+: v := by
  rcases List.infix_append_iff_ne_nil.1 h with h | h | ⟨p, q, -, nonempty, rfl, -, hq⟩
  · exact .inl h
  · rcases List.infix_cons_iff.1 h with h | h
    · rcases List.prefix_cons_iff.1 h with rfl | ⟨t, rfl, -⟩
      · exact .inl (List.nil_infix)
      · simp at hc
    · exact .inr h
  · rcases List.prefix_cons_iff.1 hq with rfl | ⟨t, rfl, -⟩
    · exact absurd rfl nonempty
    · simp at hc

theorem cutAt_append_of_notMem (h : sep ∉ s) (t : List Char) :
    cutAt sep (s ++ sep :: t) = some (s, t) := by
  induction s with
  | nil => simp [cutAt]
  | cons c s ih =>
    simp only [List.mem_cons, not_or] at h
    simp [cutAt, Ne.symm h.1, ih h.2]

theorem cutAt_of_notMem (h : sep ∉ s) : cutAt sep s = none := by
  induction s with
  | nil => rfl
  | cons c s ih =>
    simp only [List.mem_cons, not_or] at h
    simp [cutAt, Ne.symm h.1, ih h.2]

theorem cutAtLast_append_of_notMem (h : sep ∉ s) (t : List Char) :
    cutAtLast sep (t ++ sep :: s) = some (t, s) := by
  have reversed : (t ++ sep :: s).reverse = s.reverse ++ sep :: t.reverse := by simp
  rw [cutAtLast, reversed, cutAt_append_of_notMem (by simpa using h)]
  simp

-- ---------------------------------------------------------------------------
-- All cuts
-- ---------------------------------------------------------------------------

theorem splitOn_ne_nil (sep : Char) (s : List Char) : splitOn sep s ≠ [] := by
  cases s with
  | nil => simp [splitOn]
  | cons c s =>
    simp only [splitOn]
    split
    · simp
    · split <;> simp

theorem splitOn_cons_of_ne (h : c ≠ sep) (s : List Char) :
    ∃ piece pieces, splitOn sep s = piece :: pieces ∧
      splitOn sep (c :: s) = (c :: piece) :: pieces := by
  obtain ⟨piece, pieces, hs⟩ := List.exists_cons_of_ne_nil (splitOn_ne_nil sep s)
  exact ⟨piece, pieces, hs, by simp [splitOn, h, hs]⟩

/-- A text without the separator is one piece. -/
theorem splitOn_of_notMem (h : sep ∉ s) : splitOn sep s = [s] := by
  induction s with
  | nil => rfl
  | cons c s ih =>
    simp only [List.mem_cons, not_or] at h
    simp [splitOn, Ne.symm h.1, ih h.2]

theorem splitOn_append (sep : Char) (u v : List Char) :
    splitOn sep (u ++ sep :: v) = splitOn sep u ++ splitOn sep v := by
  induction u with
  | nil => simp [splitOn]
  | cons c u ih =>
    by_cases h : c = sep
    · simp [splitOn, h, ih]
    · obtain ⟨piece, pieces, hu, hcu⟩ := splitOn_cons_of_ne h u
      simp [splitOn, h, ih, hu]

theorem notMem_of_mem_splitOn {piece : List Char} (h : piece ∈ splitOn sep s) : sep ∉ piece := by
  induction s generalizing piece with
  | nil => simp_all [splitOn]
  | cons c s ih =>
    by_cases hc : c = sep
    · simp only [splitOn, hc, if_true, List.mem_cons] at h
      rcases h with rfl | h
      · simp
      · exact ih h
    · obtain ⟨first, others, hs, hcs⟩ := splitOn_cons_of_ne hc s
      rw [hcs] at h
      rw [hs] at ih
      rcases List.mem_cons.1 h with rfl | h
      · simp [Ne.symm hc, ih (.head _)]
      · exact ih (.tail _ h)

/-- The end of a text stands in a piece if it has no separator. -/
theorem exists_suffix_piece (h : sep ∉ v) (u : List Char) :
    ∃ piece ∈ splitOn sep (u ++ v), v <:+ piece := by
  induction u with
  | nil => exact ⟨v, by simp [splitOn_of_notMem h], List.suffix_refl v⟩
  | cons c u ih =>
    obtain ⟨piece, found, ends⟩ := ih
    by_cases hc : c = sep
    · exact ⟨piece, by simp [splitOn, hc, found], ends⟩
    · obtain ⟨first, others, hs, hcs⟩ := splitOn_cons_of_ne hc (u ++ v)
      rw [List.cons_append, hcs]
      rw [hs] at found
      rcases List.mem_cons.1 found with rfl | later
      · exact ⟨c :: piece, .head _, ends.trans (List.suffix_cons c piece)⟩
      · exact ⟨piece, .tail _ later, ends⟩

/-- A phrase with the separator inside stands across two pieces. -/
theorem exists_piece_of_infix (h : sep ∉ u) (within : u ++ sep :: v <:+: s) :
    ∃ piece ∈ (splitOn sep s).dropLast, u <:+ piece := by
  obtain ⟨before, rest, rfl⟩ := within
  have cut : before ++ (u ++ sep :: v) ++ rest = (before ++ u) ++ sep :: (v ++ rest) := by simp
  rw [cut, splitOn_append, List.dropLast_append_of_ne_nil (splitOn_ne_nil sep _)]
  obtain ⟨piece, found, ends⟩ := exists_suffix_piece h before
  exact ⟨piece, List.mem_append_left _ found, ends⟩

/-- The first piece, and each other piece after a separator, make up the text. -/
theorem splitOn_flatten {piece : List Char} {pieces : List (List Char)}
    (h : splitOn sep s = piece :: pieces) : piece ++ (pieces.map (sep :: ·)).flatten = s := by
  induction s generalizing piece pieces with
  | nil => simp_all [splitOn]
  | cons c s ih =>
    by_cases hc : c = sep
    · obtain ⟨first, others, hs⟩ := List.exists_cons_of_ne_nil (splitOn_ne_nil sep s)
      simp only [splitOn, hc, if_true, List.cons.injEq] at h
      obtain ⟨rfl, rfl⟩ := h
      simp [hs, ih hs, hc]
    · obtain ⟨first, others, hs, hcs⟩ := splitOn_cons_of_ne hc s
      rw [hcs] at h
      obtain ⟨rfl, rfl⟩ := List.cons.inj h
      simp [← ih hs]

/-- The pieces have the characters of the text. -/
theorem mem_of_mem_splitOn {piece : List Char} (hp : piece ∈ splitOn sep s) (hc : c ∈ piece) :
    c ∈ s := by
  obtain ⟨first, others, cut⟩ := List.exists_cons_of_ne_nil (splitOn_ne_nil sep s)
  rw [← splitOn_flatten cut]
  rw [cut] at hp
  rcases List.mem_cons.1 hp with rfl | later
  · exact List.mem_append_left _ hc
  · exact List.mem_append_right _
      (List.mem_flatten.2 ⟨sep :: piece, List.mem_map_of_mem later, .tail _ hc⟩)

/-- Cutting drops no character but the separator. -/
theorem sum_count_splitOn (h : sep ≠ c) (s : List Char) :
    ((splitOn sep s).map (·.count c)).sum = s.count c := by
  induction s with
  | nil => simp [splitOn]
  | cons d s ih =>
    by_cases hd : d = sep
    · simp [splitOn, hd, h, ih]
    · obtain ⟨piece, pieces, hs, hds⟩ := splitOn_cons_of_ne hd s
      rw [hs, List.map_cons, List.sum_cons] at ih
      rw [hds, List.map_cons, List.sum_cons, List.count_cons, List.count_cons, ← ih]
      omega

-- ---------------------------------------------------------------------------
-- Line endings
-- ---------------------------------------------------------------------------

/-- The second text is the first one with carriage returns in front of some line feeds. -/
inductive Returned : List Char → List Char → Prop where
  | nil : Returned [] []
  | cons {s t : List Char} (c : Char) (later : Returned s t) : Returned (c :: s) (c :: t)
  | ending {s t : List Char} (later : Returned s t) : Returned ('\n' :: s) ('\r' :: '\n' :: t)

theorem returned_unifyEndings (s : List Char) : Returned (unifyEndings s) s := by
  fun_induction unifyEndings s with
  | case1 => exact .nil
  | case2 rest ih => exact .ending ih
  | case3 c rest other ih => exact .cons c ih

end Retrace.Text
