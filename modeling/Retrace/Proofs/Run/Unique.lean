import Retrace.Proofs.Run.Observation
import Retrace.Proofs.Value.Agreement

/-!
# Distinct values

The distinct values of a variable are found among those that its history kept,
and they are the ones that would be found among all that was observed: what
agrees with the value before it agrees with one that was kept earlier. This needs
agreement to be symmetric and transitive, not reflexive.
-/

namespace Retrace.VariableHistory

variable {held kept values : List Value} {u v : Value}

-- ---------------------------------------------------------------------------
-- First appearances
-- ---------------------------------------------------------------------------

/-- What is kept of values, one after another, if each one that agrees with an earlier kept one is
left out. -/
inductive Firsts : List Value → List Value → Prop where
  | nil : Firsts [] []
  | first {values kept : List Value} {v : Value} (earlier : Firsts values kept)
      (unlike : ∀ u ∈ kept, u.agrees v = false) : Firsts (values ++ [v]) (kept ++ [v])
  | again {values kept : List Value} {u v : Value} (earlier : Firsts values kept) (known : u ∈ kept)
      (alike : u.agrees v = true) : Firsts (values ++ [v]) kept

/-- No two of the values that are kept agree. -/
theorem Firsts.pairwise (h : Firsts values kept) : kept.Pairwise (fun u v => u.agrees v = false) := by
  induction h with
  | nil => exact .nil
  | first earlier unlike ih =>
    refine List.pairwise_append.2 ⟨ih, List.pairwise_singleton .., fun u known w last => ?_⟩
    rw [List.mem_singleton.1 last]
    exact unlike u known
  | again earlier known alike ih => exact ih

/-- A value that agrees with itself agrees with one that is kept. -/
theorem Firsts.exists_agrees (h : Firsts values kept) (listed : v ∈ values)
    (self : v.agrees v = true) : ∃ u ∈ kept, u.agrees v = true := by
  induction h with
  | nil => simp at listed
  | first earlier unlike ih =>
    rcases List.mem_append.1 listed with before | last
    · obtain ⟨u, known, alike⟩ := ih before
      exact ⟨u, List.mem_append_left _ known, alike⟩
    · exact ⟨v, List.mem_append_right _ last, self⟩
  | again earlier known alike ih =>
    rcases List.mem_append.1 listed with before | last
    · exact ih before
    · rw [List.mem_singleton.1 last]
      exact ⟨_, known, alike⟩

/-- Of values no two of which agree, at most one agrees with a given one. -/
theorem countP_agrees_le_one (distinct : kept.Pairwise (fun u v => u.agrees v = false)) (v : Value) :
    kept.countP (·.agrees v) ≤ 1 := by
  induction kept with
  | nil => simp
  | cons u kept ih =>
    obtain ⟨others, distinct⟩ := List.pairwise_cons.1 distinct
    rw [List.countP_cons]
    split
    · next alike =>
      have none : kept.countP (·.agrees v) = 0 := by
        refine List.countP_eq_zero.2 fun w listed same => ?_
        have agrees : u.agrees w = true :=
          Value.agrees_trans u v w alike (Value.agrees_comm w v ▸ same)
        simp [others w listed] at agrees
      rw [none]
    · exact ih distinct

/-- A value that agrees with itself agrees with exactly one that is kept. -/
theorem Firsts.countP_agrees (h : Firsts values kept) (listed : v ∈ values)
    (self : v.agrees v = true) : kept.countP (·.agrees v) = 1 := by
  obtain ⟨u, known, alike⟩ := h.exists_agrees listed self
  exact Nat.le_antisymm (countP_agrees_le_one h.pairwise v) (List.countP_pos_iff.2 ⟨u, known, alike⟩)

-- ---------------------------------------------------------------------------
-- The distinct values of a list
-- ---------------------------------------------------------------------------

theorem distinct_concat (values : List Value) (v : Value) :
    distinct (values ++ [v]) =
      if (distinct values).any (·.agrees v) then distinct values else distinct values ++ [v] := by
  rw [distinct, List.foldl_append]
  rfl

theorem firsts_distinct (values : List Value) : Firsts values (distinct values) := by
  induction values using List.reverseRecOn with
  | nil => exact .nil
  | append_singleton values v ih =>
    rw [distinct_concat]
    split
    · next alike =>
      obtain ⟨u, known, alike⟩ := List.any_eq_true.1 alike
      exact .again ih known alike
    · next unlike => exact .first ih (by simpa using unlike)

/-- Values no two of which agree are all kept. -/
theorem distinct_of_pairwise (h : values.Pairwise (fun u v => u.agrees v = false)) :
    distinct values = values := by
  induction values using List.reverseRecOn with
  | nil => rfl
  | append_singleton values v ih =>
    obtain ⟨earlier, -, others⟩ := List.pairwise_append.1 h
    have unlike : values.any (·.agrees v) = false := by simpa using others
    rw [distinct_concat, ih earlier, if_neg (by simp [unlike])]

@[simp] theorem distinct_distinct (values : List Value) : distinct (distinct values) = distinct values :=
  distinct_of_pairwise (firsts_distinct values).pairwise

/-- What follows is told apart by the distinct values before it. -/
theorem distinct_append_congr (same : distinct held = distinct values) (later : List Value) :
    distinct (held ++ later) = distinct (values ++ later) := by
  unfold distinct at same ⊢
  rw [List.foldl_append, List.foldl_append, same]

/-- A value that agrees with the last one is known already. -/
theorem distinct_append (held : List Value) (v : Value) :
    distinct (append held v) = distinct (held ++ [v]) := by
  rw [append_eq]
  split
  · next alike =>
    obtain ⟨w, last, alike⟩ := (Option.any_eq_true _ _).1 alike
    have listed : w ∈ held := List.mem_of_getLast? last
    -- The last value agrees with itself, as it agrees with something, so it has a kept one.
    obtain ⟨u, known, same⟩ :=
      (firsts_distinct held).exists_agrees listed (Value.agrees_self_of_agrees alike)
    have agrees : (distinct held).any (·.agrees v) = true :=
      List.any_eq_true.2 ⟨u, known, Value.agrees_trans u w v same alike⟩
    rw [distinct_concat, if_pos agrees]
  · rfl

/-- The distinct values of a list that was recorded are those of all that was observed. -/
theorem distinct_foldl_append (held values : List Value) :
    distinct (values.foldl append held) = distinct (held ++ values) := by
  induction values generalizing held with
  | nil => rw [List.foldl_nil, List.append_nil]
  | cons v values ih =>
    calc distinct (values.foldl append (append held v))
        = distinct (append held v ++ values) := ih _
      _ = distinct (held ++ [v] ++ values) := distinct_append_congr (distinct_append held v) values
      _ = distinct (held ++ v :: values) := by rw [List.append_assoc, List.singleton_append]

-- ---------------------------------------------------------------------------
-- Histories
-- ---------------------------------------------------------------------------

theorem get?_unique (h : VariableHistory) (name : String) :
    h.unique.get? name = (h.get? name).map distinct :=
  NameMap.get?_map ..

/-- A history of distinct values stays as it is. -/
theorem unique_unique (h : VariableHistory) : h.unique.unique = h.unique := by
  refine ext_get? rfl fun name => ?_
  rw [get?_unique, get?_unique, Option.map_map]
  congr 1
  funext values
  exact distinct_distinct values

/-- The distinct values of a variable are the first appearances in all that was observed of it. No
two of them agree, each value that agrees with itself agrees with exactly one of them, and nothing
changes if they are taken again. -/
theorem unique_of_observed (observations : List (String × Value)) (name : String) :
    (if observed name observations = [] then
        (observeAll {} observations).unique.get? name = none
      else ∃ kept, (observeAll {} observations).unique.get? name = some kept ∧
        Firsts (observed name observations) kept ∧
        kept.Pairwise (fun u v => u.agrees v = false ∧ v.agrees u = false) ∧
        ∀ v ∈ observed name observations, v.agrees v = true → kept.countP (·.agrees v) = 1) ∧
    (observeAll {} observations).unique.unique = (observeAll {} observations).unique := by
  refine ⟨?_, unique_unique _⟩
  rw [get?_unique, get?_observeAll]
  split
  · rfl
  · have firsts := firsts_distinct (observed name observations)
    refine ⟨_, ?_, firsts, firsts.pairwise.imp fun {u v} unlike => ⟨unlike, ?_⟩,
      fun v listed self => firsts.countP_agrees listed self⟩
    · rw [Option.map_some, distinct_foldl_append]
      rfl
    · rwa [Value.agrees_comm]

/-- A number that is observed as zero with both signs, as a whole number, and as none at all. -/
def wavering : List (String × Value) :=
  [("x", .int 1), ("x", .int 1), ("x", .float (.zero false)), ("y", .null),
    ("x", .float (.zero true)), ("x", .float .nan), ("x", .float .nan), ("x", .int 1)]

/-- Both zeros count as one value, which is kept once, and each time that it is no number counts. -/
theorem unique_of_wavering :
    .float (.zero true) ∈ observed "x" wavering ∧
      (Value.float (.zero true)).agrees (.float (.zero true)) = true ∧
      ∃ kept, (observeAll {} wavering).unique.get? "x" = some kept ∧
        kept.countP (·.agrees (.float (.zero true))) = 1 ∧
        kept.length = 4 := by
  have listed : .float (.zero true) ∈ observed "x" wavering :=
    .tail _ (.tail _ (.tail _ (.head _)))
  have self : (Value.float (.zero true)).agrees (.float (.zero true)) = true := rfl
  obtain ⟨kept, recorded, -, -, exactly⟩ := (unique_of_observed wavering "x").1
  exact ⟨listed, self, kept, recorded, exactly _ listed self, by cases recorded; rfl⟩

end Retrace.VariableHistory
