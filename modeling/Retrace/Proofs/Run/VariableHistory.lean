import Mathlib.Data.List.Destutter
import Retrace.Proofs.NameMap
import Retrace.Run.VariableHistory

/-!
# What a history keeps

The values of a variable in a history are those that it had in the frames, in
their order, without those that equal the value that was kept before. Frames in
which the variable cannot be seen make no difference.
-/

namespace Retrace.VariableHistory

/-- The second of two values in a row says something new. -/
abbrev Changes (v w : Value) : Prop :=
  v.agrees w = false

variable {name : String} {held values : List Value} {observations : List (String × Value)}

-- ---------------------------------------------------------------------------
-- One variable
-- ---------------------------------------------------------------------------

/-- What is new in values that come after a last one: those that do not agree with the one that was
kept before them. -/
def news : Option Value → List Value → List Value
  | _, [] => []
  | last, v :: values =>
    if last.any (·.agrees v) then news last values else v :: news (some v) values

theorem append_eq (held : List Value) (v : Value) :
    append held v = if held.getLast?.any (·.agrees v) then held else held ++ [v] := by
  unfold append
  cases last : held.getLast? with
  | some w => rfl
  | none => simp [List.getLast?_eq_none_iff.1 last]

/-- A list goes on with what is new in the values that are added to it. -/
theorem foldl_append_eq (held values : List Value) :
    values.foldl append held = held ++ news held.getLast? values := by
  induction values generalizing held with
  | nil => simp [news]
  | cons v values ih =>
    rw [List.foldl_cons, ih, append_eq, news]
    split <;> simp

theorem cons_news (last : Value) (values : List Value) :
    last :: news (some last) values = values.destutter' Changes last := by
  induction values generalizing last with
  | nil => rfl
  | cons v values ih =>
    rw [news, List.destutter'_cons, ← ih last, ← ih v]
    by_cases agrees : last.agrees v = true <;> simp [agrees]

/-- Values that are added one by one are kept where they change. -/
theorem foldl_append (values : List Value) :
    values.foldl append [] = values.destutter Changes := by
  rw [foldl_append_eq]
  cases values with
  | nil => rfl
  | cons v values => exact cons_news v values

-- ---------------------------------------------------------------------------
-- Observing one value after another
-- ---------------------------------------------------------------------------

/-- Records values of variables, one after another. -/
def observeAll (h : VariableHistory) (observations : List (String × Value)) : VariableHistory :=
  observations.foldl (fun h (name, v) => h.observe name v) h

/-- What belongs to a variable among all that is observed. -/
def observed {α : Type} (name : String) (observations : List (String × α)) : List α :=
  (observations.filter (·.1 = name)).map (·.2)

theorem observed_append {α : Type} (name : String) (first later : List (String × α)) :
    observed name (first ++ later) = observed name first ++ observed name later := by
  simp [observed]

theorem observed_eq_nil_iff : observed name observations = [] ↔ name ∉ observations.map (·.1) := by
  rw [observed, List.map_eq_nil_iff, List.filter_eq_nil_iff, List.mem_map]
  simp only [decide_eq_true_eq, not_exists, not_and]

/-- Of a variable that is observed once at most, there is the one value, if any. -/
theorem observed_of_nodup {value : Option Value} (distinct : (observations.map (·.1)).Nodup)
    (listed : ∀ v, (name, v) ∈ observations ↔ value = some v) :
    observed name observations = value.toList := by
  cases value with
  | none =>
    refine observed_eq_nil_iff.2 fun shown => ?_
    obtain ⟨⟨_, v⟩, bound, rfl⟩ := List.mem_map.1 shown
    exact absurd ((listed v).1 bound) (by simp)
  | some v =>
    obtain ⟨before, after, rfl⟩ := List.append_of_mem ((listed v).2 rfl)
    rw [List.map_append, List.map_cons, List.nodup_middle, List.nodup_cons, List.mem_append,
      not_or] at distinct
    obtain ⟨⟨no_earlier, no_later⟩, -⟩ := distinct
    have here : (name, v) :: after = [(name, v)] ++ after := rfl
    rw [here, observed_append, observed_append, observed_eq_nil_iff.2 no_earlier,
      observed_eq_nil_iff.2 no_later]
    simp [observed]

theorem get?_observe (h : VariableHistory) (name other : String) (v : Value) :
    (h.observe name v).get? other =
      if name = other then some (append ((h.get? name).getD []) v) else h.get? other :=
  NameMap.get?_insert ..

/-- A variable is recorded if it is observed, and its list is extended by its own values only. -/
theorem get?_observeAll (h : VariableHistory) (observations : List (String × Value))
    (name : String) :
    (h.observeAll observations).get? name =
      if observed name observations = [] then h.get? name
      else some ((observed name observations).foldl append ((h.get? name).getD [])) := by
  induction observations generalizing h with
  | nil => rfl
  | cons entry observations ih =>
    obtain ⟨other, v⟩ := entry
    have next : h.observeAll ((other, v) :: observations) =
        (h.observe other v).observeAll observations := rfl
    rw [next, ih, get?_observe]
    by_cases same : other = name
    · have first : observed name ((other, v) :: observations) =
          v :: observed name observations := by simp [observed, same]
      rw [first, if_pos same, same]
      by_cases last : observed name observations = [] <;> simp [last]
    · have first : observed name ((other, v) :: observations) =
          observed name observations := by simp [observed, same]
      rw [first, if_neg same]

/-- A variable that is not recorded counts as one without values. -/
theorem getD_observeAll (h : VariableHistory) (observations : List (String × Value))
    (name : String) :
    ((h.observeAll observations).get? name).getD [] =
      (observed name observations).foldl append ((h.get? name).getD []) := by
  rw [get?_observeAll]
  split
  · next unseen => rw [unseen, List.foldl_nil]
  · rfl

theorem exceptionOccurred_observeAll (h : VariableHistory) (observations : List (String × Value)) :
    (h.observeAll observations).exceptionOccurred = h.exceptionOccurred := by
  induction observations generalizing h with
  | nil => rfl
  | cons entry observations ih => exact (ih _).trans rfl

-- ---------------------------------------------------------------------------
-- One frame
-- ---------------------------------------------------------------------------

/-- A frame adds a value to each variable that can be seen in it. -/
theorem get?_observeFrame (h : VariableHistory) (frame : Frame) (name : String) :
    (h.observeFrame frame).get? name =
      ((frame.visible.get? name).map (append ((h.get? name).getD []))).or (h.get? name) := by
  have shown : observed name frame.visible.toList = (frame.visible.get? name).toList :=
    observed_of_nodup frame.visible.nodup_names fun _ => NameMap.mem_entries_iff
  have frames : h.observeFrame frame = h.observeAll frame.visible.toList := rfl
  rw [frames, get?_observeAll, shown]
  cases frame.visible.get? name <;> rfl

theorem exceptionOccurred_observeFrame (h : VariableHistory) (frame : Frame) :
    (h.observeFrame frame).exceptionOccurred = h.exceptionOccurred :=
  exceptionOccurred_observeAll h _

-- ---------------------------------------------------------------------------
-- All frames
-- ---------------------------------------------------------------------------

/-- The values that a variable has in frames, in their order. -/
def seen (frames : List Frame) (name : String) : List Value :=
  frames.filterMap (·.visible.get? name)

theorem get?_foldl_observeFrame (h : VariableHistory) (frames : List Frame) (name : String) :
    (frames.foldl observeFrame h).get? name =
      if seen frames name = [] then h.get? name
      else some ((seen frames name).foldl append ((h.get? name).getD [])) := by
  induction frames generalizing h with
  | nil => rfl
  | cons frame frames ih =>
    rw [List.foldl_cons, ih, get?_observeFrame]
    cases hv : frame.visible.get? name with
    | none => simp [seen, hv]
    | some v =>
      by_cases later : seen frames name = []
      · rw [seen] at later
        simp [seen, hv, later]
      · rw [seen] at later
        simp [seen, hv, later]

/-- A history has a variable exactly if it was seen, and then the values that it had, without
repetitions. -/
theorem get?_of_frames (frames : List Frame) (name : String) :
    (frames.foldl observeFrame {}).get? name =
      if seen frames name = [] then none else some ((seen frames name).destutter Changes) := by
  rw [get?_foldl_observeFrame, ← foldl_append]
  rfl

end Retrace.VariableHistory
