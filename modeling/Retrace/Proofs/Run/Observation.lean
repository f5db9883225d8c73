import Retrace.Proofs.Run.VariableHistory

/-!
# Observations in any order

A frame has each of its variables once, so in which order they are observed makes
no difference to a history. The list of a variable goes on with the values that
the variable itself had, one for each frame in which it can be seen, and what
other variables do has no part in it.
-/

namespace Retrace

-- ---------------------------------------------------------------------------
-- The variables of a frame
-- ---------------------------------------------------------------------------

namespace Frame

variable {frame : Frame} {name : String} {v : Value}

/-- The value of a variable; a local variable hides an argument of the same name. -/
def value? (frame : Frame) (name : String) : Option Value :=
  (frame.locals.get? name).or (frame.arguments.get? name)

theorem get?_visible (frame : Frame) (name : String) :
    frame.visible.get? name = frame.value? name :=
  NameMap.get?_union ..

/-- The arguments that no local variable hides, and then the local variables. -/
def bindings (frame : Frame) : List (String × Value) :=
  (frame.arguments.filterNames fun name => !frame.locals.contains name).toList ++
    frame.locals.toList

theorem mem_bindings_iff : (name, v) ∈ frame.bindings ↔ frame.value? name = some v := by
  have argument : (name, v) ∈
      (frame.arguments.filterNames fun name => !frame.locals.contains name).toList ↔
        frame.locals.get? name = none ∧ frame.arguments.get? name = some v := by
    simp [NameMap.toList, NameMap.filterNames, NameMap.mem_entries_iff, NameMap.contains, and_comm]
  have unhidden : (name, v) ∈ frame.locals.toList ↔ frame.locals.get? name = some v :=
    NameMap.mem_entries_iff
  rw [bindings, List.mem_append, argument, unhidden, value?]
  cases frame.locals.get? name <;> simp

/-- Each variable has one binding. -/
theorem nodup_bindings (frame : Frame) : (frame.bindings.map (·.1)).Nodup := by
  rw [bindings, List.map_append]
  refine List.nodup_append.2 ⟨NameMap.nodup_names _, NameMap.nodup_names _, ?_⟩
  rintro name shown _ again rfl
  obtain ⟨argument, kept, rfl⟩ := List.mem_map.1 shown
  obtain ⟨binding, listed, same⟩ := List.mem_map.1 again
  have absent : frame.locals.get? argument.1 = none := by
    simpa [NameMap.contains] using (List.mem_filter.1 kept).2
  rw [← same, NameMap.mem_entries_iff.1 listed] at absent
  cases absent

/-- The table of all variables lists the bindings in one of their orders. -/
theorem perm_visible (frame : Frame) : frame.visible.toList.Perm frame.bindings := by
  refine (List.perm_ext_iff_of_nodup frame.visible.nodup_names.of_map frame.nodup_bindings.of_map).2
    fun (name, v) => ?_
  rw [mem_bindings_iff, ← get?_visible]
  exact NameMap.mem_entries_iff

end Frame

-- ---------------------------------------------------------------------------
-- Observing one value after another
-- ---------------------------------------------------------------------------

namespace VariableHistory

theorem foldl_observeAll (h : VariableHistory) (orders : List (List (String × Value))) :
    orders.foldl observeAll h = h.observeAll orders.flatten :=
  List.foldl_flatten.symm

/-- Histories with the same lists are equal. -/
theorem ext_get? {h h' : VariableHistory} (exception : h.exceptionOccurred = h'.exceptionOccurred)
    (lists : ∀ name, h.get? name = h'.get? name) : h = h' := by
  obtain ⟨occurred, values⟩ := h
  obtain ⟨occurred', values'⟩ := h'
  obtain rfl : occurred = occurred' := exception
  obtain rfl : values = values' := NameMap.ext_get? lists
  rfl

-- ---------------------------------------------------------------------------
-- Frames
-- ---------------------------------------------------------------------------

/-- Among the bindings of a frame, in whatever order, each variable has its value. -/
theorem observed_of_perm {frame : Frame} {order : List (String × Value)}
    (perm : order.Perm frame.bindings) (name : String) :
    observed name order = (frame.value? name).toList :=
  observed_of_nodup ((perm.map (·.1)).nodup_iff.2 frame.nodup_bindings) fun _ =>
    perm.mem_iff.trans Frame.mem_bindings_iff

/-- The bindings of these frames, one frame after another, in some order for each frame. -/
abbrev Ordered (orders : List (List (String × Value))) (frames : List Frame) : Prop :=
  List.Forall₂ (fun order frame => order.Perm frame.bindings) orders frames

theorem ordered_visible (frames : List Frame) : Ordered (frames.map (·.visible.toList)) frames :=
  List.forall₂_map_left_iff.2 (List.forall₂_same.2 fun frame _ => frame.perm_visible)

theorem observed_flatten {orders : List (List (String × Value))} {frames : List Frame}
    (each : Ordered orders frames) (name : String) :
    observed name orders.flatten = frames.filterMap (·.value? name) := by
  induction each with
  | nil => rfl
  | @cons order frame orders frames perm later ih =>
    rw [List.flatten_cons, observed_append, observed_of_perm perm, ih, List.filterMap_cons]
    cases frame.value? name <;> rfl

/-- The list of a variable after frames goes on with what is new in its values in them. -/
theorem get?_of_ordered {orders : List (List (String × Value))} {frames : List Frame}
    (each : Ordered orders frames) (h : VariableHistory) (name : String) :
    (orders.foldl observeAll h).get? name =
      if frames.filterMap (·.value? name) = [] then h.get? name
      else some ((h.get? name).getD [] ++
        news ((h.get? name).getD []).getLast? (frames.filterMap (·.value? name))) := by
  rw [foldl_observeAll, get?_observeAll, observed_flatten each, foldl_append_eq]

theorem exceptionOccurred_foldl_observeAll (orders : List (List (String × Value)))
    (h : VariableHistory) :
    (orders.foldl observeAll h).exceptionOccurred = h.exceptionOccurred := by
  rw [foldl_observeAll, exceptionOccurred_observeAll]

/-- A frame lists each of its variables once, with the local value if there is one. In whatever order
the variables of each frame are observed, the history is the same: the list of a variable goes on
with what is new in its own values, frame after frame. -/
theorem observed_in_any_order (h : VariableHistory) :
    (∀ frame : Frame, frame.visible.toList.Perm frame.bindings ∧
      (frame.bindings.map (·.1)).Nodup ∧
      ∀ name v, (name, v) ∈ frame.bindings ↔
        (frame.locals.get? name).or (frame.arguments.get? name) = some v) ∧
    ∀ orders frames, Ordered orders frames →
      orders.foldl observeAll h = frames.foldl observeFrame h ∧
      (orders.foldl observeAll h).exceptionOccurred = h.exceptionOccurred ∧
      ∀ name, (orders.foldl observeAll h).get? name =
        if frames.filterMap (·.value? name) = [] then h.get? name
        else some ((h.get? name).getD [] ++
          news ((h.get? name).getD []).getLast? (frames.filterMap (·.value? name))) := by
  refine ⟨fun frame => ⟨frame.perm_visible, frame.nodup_bindings, fun name v =>
      Frame.mem_bindings_iff⟩,
    fun orders frames each => ⟨?_, exceptionOccurred_foldl_observeAll orders h, get?_of_ordered each h⟩⟩
  have tables : frames.foldl observeFrame h =
      (frames.map (·.visible.toList)).foldl observeAll h := by
    rw [List.foldl_map]
    rfl
  rw [tables]
  refine ext_get? ?_ fun name => ?_
  · rw [exceptionOccurred_foldl_observeAll, exceptionOccurred_foldl_observeAll]
  · rw [get?_of_ordered each, get?_of_ordered (ordered_visible frames)]

/-- A frame in which a local variable hides an argument. -/
def shadowing : Frame where
  arguments := .ofList [("n", .int 1), ("x", .float .nan)]
  locals := .ofList [("n", .int 2)]

/-- The bindings of that frame, first against the order of the names and then along it. -/
def bothWays : List (List (String × Value)) :=
  [[("n", .int 2), ("x", .float .nan)], [("x", .float .nan), ("n", .int 2)]]

/-- Observed twice, the frame adds the local value once, and what is no number twice. -/
theorem observed_shadowing :
    Ordered bothWays [shadowing, shadowing] ∧
      ∃ h : VariableHistory, h.get? "n" = some [.int 1] ∧
        (bothWays.foldl observeAll h).get? "n" = some [.int 1, .int 2] ∧
        (bothWays.foldl observeAll h).get? "x" = some [.float .nan, .float .nan] := by
  have listed : shadowing.bindings = [("x", .float .nan), ("n", .int 2)] := rfl
  have each : Ordered bothWays [shadowing, shadowing] := by
    refine .cons ?_ (.cons ?_ .nil)
    · rw [listed]
      exact .swap ..
    · rw [listed]
  refine ⟨each, { values := .ofList [("n", [.int 1])] }, rfl, ?_, ?_⟩
  · rw [((observed_in_any_order _).2 _ _ each).2.2 "n"]
    rfl
  · rw [((observed_in_any_order _).2 _ _ each).2.2 "x"]
    rfl

end VariableHistory

end Retrace
