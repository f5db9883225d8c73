import Retrace.Proofs.Viewer.Window
import Mathlib.Tactic.IntervalCases

/-!
# Moving along a trace

Whatever keys are pressed, at whatever times, and however often the screen is drawn between them, the
viewer stands at a step of its trace. From there each key leads to the step that it stands for, and
no sum or difference on the way leaves a machine word.
-/

namespace Retrace.Viewer

variable {v : Viewer} {limit : Nat}

-- ---------------------------------------------------------------------------
-- Moves
-- ---------------------------------------------------------------------------

@[simp] theorem goTo_position (v : Viewer) (p : Nat) : (v.goTo p).position = p := rfl
@[simp] theorem goTo_steps (v : Viewer) (p : Nat) : (v.goTo p).steps = v.steps := rfl
@[simp] theorem goTo_goTo (v : Viewer) (p q : Nat) : (v.goTo p).goTo q = v.goTo q := rfl

@[simp] theorem halt_position (v : Viewer) (m : String) : (v.halt m).position = v.position := rfl
@[simp] theorem halt_steps (v : Viewer) (m : String) : (v.halt m).steps = v.steps := rfl

theorem forward?_of_lt (h : v.position + 1 < v.steps.size) :
    v.forward? = some (v.goTo (v.position + 1)) := by
  have more : atEndIn .exact v = pure false := congrArg pure (decide_eq_false (Nat.not_le_of_gt h))
  rw [forward?, forwardIn, more]
  rfl

theorem forward?_of_le (h : v.steps.size ≤ v.position + 1) : v.forward? = none := by
  have last : atEndIn .exact v = pure true := congrArg pure (decide_eq_true h)
  rw [forward?, forwardIn, last]
  rfl

theorem backward?_of_pos (h : 0 < v.position) : v.backward? = some (v.goTo (v.position - 1)) := by
  rw [backward?, backwardIn, if_neg (Nat.ne_of_gt h)]
  rfl

theorem backward?_of_zero (h : v.position = 0) : v.backward? = none := by
  rw [backward?, backwardIn, if_pos h]
  rfl

@[inherit_doc forwardByIn]
def forwardBy (n : Nat) (v : Viewer) : Nat × Viewer :=
  (forwardByIn .exact n v).run

theorem forwardBy_succ_of_some {next : Viewer} (h : v.forward? = some next) (n : Nat) :
    forwardBy (n + 1) v = ((forwardBy n next).1 + 1, (forwardBy n next).2) := by
  have first : forwardIn .exact v = pure (some next) := h
  rw [forwardBy, forwardByIn, first]
  rfl

theorem forwardBy_succ_of_none (h : v.forward? = none) (n : Nat) : forwardBy (n + 1) v = (0, v) := by
  have first : forwardIn .exact v = pure none := h
  rw [forwardBy, forwardByIn, first]
  rfl

/-- How many steps come after the one on the screen. -/
def ahead (v : Viewer) : Nat :=
  v.steps.size - (v.position + 1)

/-- Several steps forward are as many as there are, and lead that far. -/
theorem forwardBy_eq (n : Nat) (v : Viewer) :
    forwardBy n v = (min n v.ahead,
      if min n v.ahead = 0 then v else v.goTo (v.position + min n v.ahead)) := by
  induction n generalizing v with
  | zero => simp [forwardBy, forwardByIn]
  | succ n ih =>
    by_cases h : v.position + 1 < v.steps.size
    · obtain ⟨m, more⟩ : ∃ m, v.ahead = m + 1 := ⟨v.ahead - 1, by unfold ahead; omega⟩
      have next : (v.goTo (v.position + 1)).ahead = m := by
        unfold ahead at more ⊢
        rw [goTo_steps, goTo_position]
        omega
      have succ : min (n + 1) (m + 1) = min n m + 1 := by omega
      rw [forwardBy_succ_of_some (forward?_of_lt h), more, succ]
      simp only [ih, next, goTo_goTo, goTo_position]
      split
      · rename_i last
        simp [last]
      · simp [Nat.add_assoc, Nat.add_comm 1]
    · have last : v.ahead = 0 := by
        unfold ahead
        omega
      rw [forwardBy_succ_of_none (forward?_of_le (by omega)), last, Nat.min_zero]
      rfl

theorem position_forwardBy (n : Nat) (v : Viewer) :
    (forwardBy n v).2.position = v.position + min n v.ahead := by
  rw [forwardBy_eq]
  dsimp only
  split
  · omega
  · rfl

-- ---------------------------------------------------------------------------
-- What one key does
-- ---------------------------------------------------------------------------

/-- The position is that of a step, or the first one of a trace without steps. -/
def OnTrace (v : Viewer) : Prop :=
  v.position < v.steps.size ∨ v.steps.size = 0 ∧ v.position = 0

/-- All that a key can do: it shows a step from the top of its frame, or it leaves the step and the
window on the source where they are. -/
inductive Pressed (v : Viewer) : Viewer → Prop where
  | goes (p : Nat) (message : String) (there : v.OnTrace → (v.goTo p).OnTrace) :
      Pressed v ((v.goTo p).halt message)
  | stays {w : Viewer} (steps : w.steps = v.steps) (position : w.position = v.position)
      (offset : w.scroll.offset = v.scroll.offset) : Pressed v w

theorem pressed_move {target : Option Viewer} (moved stuck : String)
    (h : ∀ w, target = some w → ∃ p, w = v.goTo p ∧ (v.OnTrace → (v.goTo p).OnTrace)) :
    Pressed v (v.move target moved stuck) := by
  unfold move
  split
  · rename_i w
    obtain ⟨p, rfl, there⟩ := h w rfl
    exact .goes p moved there
  · exact .stays rfl rfl rfl

theorem pressed_left (v : Viewer) (now : Nat) : Pressed v (v.press now .left) := by
  change Pressed v (v.move v.backward? _ _)
  apply pressed_move
  intro w found
  rcases Nat.eq_zero_or_pos v.position with first | later
  · simp [backward?_of_zero first] at found
  · obtain rfl := Option.some.inj ((backward?_of_pos later).symm.trans found)
    refine ⟨_, rfl, fun there => ?_⟩
    unfold OnTrace at there ⊢
    rw [goTo_steps, goTo_position]
    omega

theorem pressed_right (v : Viewer) (now : Nat) : Pressed v (v.press now .right) := by
  change Pressed v (v.move v.forward? _ _)
  apply pressed_move
  intro w found
  rcases Nat.lt_or_ge (v.position + 1) v.steps.size with more | last
  · obtain rfl := Option.some.inj ((forward?_of_lt more).symm.trans found)
    exact ⟨_, rfl, fun _ => .inl more⟩
  · simp [forward?_of_le last] at found

@[inherit_doc skipIn]
def skip (v : Viewer) (n : Nat) : Viewer :=
  (v.skipIn .exact n).run

theorem skip_eq (v : Viewer) (n : Nat) : v.skip n =
    (forwardBy n v).2.halt ("Stepped forward " ++ toString (forwardBy n v).1 ++ " step(s)") :=
  rfl

theorem pressed_skip (v : Viewer) (n : Nat) : Pressed v (v.skip n) := by
  rw [skip_eq, forwardBy_eq]
  dsimp only
  split
  · exact .stays rfl rfl rfl
  · refine .goes _ _ fun there => ?_
    unfold OnTrace at there ⊢
    unfold ahead
    rw [goTo_steps, goTo_position]
    omega

theorem pressed_char (v : Viewer) (now : Nat) (c : Char) : Pressed v (v.press now (.char c)) := by
  rw [press, pressIn, pressCharIn]
  split
  · exact .stays rfl rfl rfl
  · split
    · exact v.pressed_skip (c.toNat - '0'.toNat)
    · split
      · change Pressed v (v.toggle now)
        unfold toggle
        split <;> exact .stays rfl rfl rfl
      · exact .stays rfl rfl rfl

theorem pressed_press (v : Viewer) (now : Nat) (key : Key) : Pressed v (v.press now key) := by
  cases key with
  | left => exact v.pressed_left now
  | right => exact v.pressed_right now
  | up =>
    change Pressed v v.scrollUp
    unfold scrollUp
    split <;> exact .stays rfl rfl rfl
  | down =>
    change Pressed v v.scrollDown
    unfold scrollDown
    split <;> exact .stays rfl rfl rfl
  | tab =>
    change Pressed v v.turn
    unfold turn
    split <;> exact .stays rfl rfl rfl
  | enter =>
    refine .goes _ _ fun _ => ?_
    unfold OnTrace
    rw [goTo_steps, goTo_position]
    omega
  | backspace =>
    refine .goes _ _ fun _ => ?_
    unfold OnTrace
    rw [goTo_steps, goTo_position]
    omega
  | escape => exact .stays rfl rfl rfl
  | char c => exact v.pressed_char now c
  | other => exact .stays rfl rfl rfl

theorem press_digit (v : Viewer) (now : Nat) {d : Nat} (low : 1 ≤ d) (high : d ≤ 9) :
    v.press now (.char (Nat.digitChar d)) = v.skip d := by
  interval_cases d <;> rfl

theorem press_right (now : Nat) (h : v.position + 1 < v.steps.size) :
    v.press now .right = (v.goTo (v.position + 1)).halt "Stepped forward" := by
  change v.move v.forward? _ _ = _
  rw [forward?_of_lt h, move]

theorem press_left (now : Nat) (h : 0 < v.position) :
    v.press now .left = (v.goTo (v.position - 1)).halt "Stepped backward" := by
  change v.move v.backward? _ _ = _
  rw [backward?_of_pos h, move]

-- ---------------------------------------------------------------------------
-- Staying on the trace
-- ---------------------------------------------------------------------------

theorem Pressed.onTrace {w : Viewer} (h : Pressed v w) (start : v.OnTrace) :
    w.OnTrace ∧ w.steps = v.steps := by
  cases h with
  | goes p message there => exact ⟨there start, rfl⟩
  | stays steps position _ =>
    refine ⟨?_, steps⟩
    unfold OnTrace at start ⊢
    rwa [steps, position]

/-- Drawing leaves the step on the screen. -/
theorem draw_stays (v : Viewer) (width height : Nat) :
    (v.draw width height).2.steps = v.steps ∧ (v.draw width height).2.position = v.position := by
  obtain ⟨sources, looked⟩ := v.exists_currentSource
  unfold draw sourceBox frameBox
  dsimp only
  rw [looked]
  exact ⟨rfl, rfl⟩

theorem onTrace_happen (start : v.OnTrace) (event : Event) :
    (v.happen event).OnTrace ∧ (v.happen event).steps = v.steps := by
  cases event with
  | press now key => exact (v.pressed_press now key).onTrace start
  | draw width height =>
    obtain ⟨steps, position⟩ := v.draw_stays width height
    refine ⟨?_, steps⟩
    unfold OnTrace at start ⊢
    rwa [happen_draw, steps, position]

theorem after_cons (v : Viewer) (event : Event) (events : List Event) :
    v.after (event :: events) = (v.happen event).after events :=
  rfl

theorem after_append (v : Viewer) (first second : List Event) :
    v.after (first ++ second) = (v.after first).after second :=
  List.foldl_append

/-- Through all events the viewer stays on its trace. -/
theorem onTrace_after (start : v.OnTrace) (events : List Event) :
    (v.after events).OnTrace ∧ (v.after events).steps = v.steps := by
  induction events generalizing v with
  | nil => exact ⟨start, rfl⟩
  | cons event events ih =>
    obtain ⟨first, steps⟩ := onTrace_happen start event
    obtain ⟨there, same⟩ := ih first
    rw [after_cons]
    exact ⟨there, same.trans steps⟩

theorem onTrace_ofTrace (trace : ProgramTrace) (sources : Sources) :
    (ofTrace trace sources).OnTrace := by
  unfold OnTrace
  have first : (ofTrace trace sources).position = 0 := rfl
  omega

-- ---------------------------------------------------------------------------
-- Machine words
-- ---------------------------------------------------------------------------

open Arithmetic

theorem forwardIn_checked (there : v.OnTrace) (fits : v.steps.size ≤ limit) (one : 1 ≤ limit) :
    forwardIn (.checked limit) v = some v.forward? := by
  have sum : (checked limit).add v.position 1 = some (v.position + 1) := by
    apply checked_add_of_le
    unfold OnTrace at there
    omega
  rcases Nat.lt_or_ge (v.position + 1) v.steps.size with more | last
  · simp [forwardIn, atEndIn, sum, forward?_of_lt more, more]
  · simp [forwardIn, atEndIn, sum, forward?_of_le last, last]

theorem backwardIn_checked (limit : Nat) (v : Viewer) :
    backwardIn (.checked limit) v = some v.backward? := by
  rcases Nat.eq_zero_or_pos v.position with first | later
  · simp [backwardIn, first, backward?_of_zero first]
  · have difference : (checked limit).sub v.position 1 = some (v.position - 1) :=
      checked_sub_of_le later
    simp [backwardIn, Nat.ne_of_gt later, difference, backward?_of_pos later]

theorem forwardByIn_checked (there : v.OnTrace) (fits : v.steps.size ≤ limit) (n : Nat)
    (small : n ≤ limit) : forwardByIn (.checked limit) n v = some (forwardBy n v) := by
  induction n generalizing v with
  | zero => rfl
  | succ n ih =>
    rw [forwardByIn, forwardIn_checked there fits (by omega)]
    rcases Nat.lt_or_ge (v.position + 1) v.steps.size with more | last
    · have later := ih (v := v.goTo (v.position + 1)) (.inl more) fits (by omega)
      have count : (checked limit).add (forwardBy n (v.goTo (v.position + 1))).1 1 =
          some ((forwardBy n (v.goTo (v.position + 1))).1 + 1) := by
        apply checked_add_of_le
        rw [forwardBy_eq]
        exact Nat.le_trans (Nat.add_le_add_right (Nat.min_le_left ..) 1) small
      simp [forwardBy_succ_of_some (forward?_of_lt more), forward?_of_lt more, later, count]
    · simp [forwardBy_succ_of_none (forward?_of_le last), forward?_of_le last]

theorem skipIn_checked (there : v.OnTrace) (fits : v.steps.size ≤ limit) {n : Nat}
    (small : n ≤ limit) : v.skipIn (.checked limit) n = some (v.skip n) := by
  rw [skipIn, forwardByIn_checked there fits n small]
  rfl

theorem pressCharIn_checked (there : v.OnTrace) (fits : v.steps.size ≤ limit) (digits : 9 ≤ limit)
    (now : Nat) (c : Char) :
    v.pressCharIn (.checked limit) now c = some (v.pressCharIn .exact now c).run := by
  unfold pressCharIn
  split
  · rfl
  · split
    · rename_i digit
      have low : '0'.toNat ≤ c.toNat := Nat.le_trans (by decide) digit.1
      have high : c.toNat ≤ '9'.toNat := digit.2
      have nine : '9'.toNat - '0'.toNat = 9 := by decide
      rw [checked_sub_of_le low]
      exact skipIn_checked there fits (by omega)
    · split <;> rfl

/-- On the trace no check fails. -/
theorem pressIn_checked (there : v.OnTrace) (fits : v.steps.size ≤ limit) (digits : 9 ≤ limit)
    (now : Nat) (key : Key) : v.pressIn (.checked limit) now key = some (v.press now key) := by
  cases key with
  | left =>
    rw [pressIn, backwardIn_checked]
    rfl
  | right =>
    rw [pressIn, forwardIn_checked there fits (by omega)]
    rfl
  | char c => exact pressCharIn_checked there fits digits now c
  | _ => rfl

theorem foldlM_happenIn_checked (there : v.OnTrace) (fits : v.steps.size ≤ limit)
    (digits : 9 ≤ limit) (events : List Event) :
    events.foldlM (happenIn (.checked limit)) v = some (v.after events) := by
  induction events generalizing v with
  | nil => rfl
  | cons event events ih =>
    obtain ⟨next, steps⟩ := onTrace_happen there event
    have first : v.happenIn (.checked limit) event = some (v.happen event) := by
      cases event with
      | press now key => exact pressIn_checked there fits digits now key
      | draw width height => rfl
    rw [List.foldlM_cons, first]
    exact ih next (by rwa [steps])

-- ---------------------------------------------------------------------------
-- Navigation
-- ---------------------------------------------------------------------------

/-- What the keys do to a viewer of these steps. -/
structure Navigates (v : Viewer) (steps : List StepRecord) : Prop where
  trace : v.steps = steps.toArray
  position : v.position < steps.length ∨ steps = [] ∧ v.position = 0
  current : v.current?.isSome ↔ steps ≠ []
  digit : ∀ now d, 1 ≤ d → d ≤ 9 → steps ≠ [] →
    (v.press now (.char (Nat.digitChar d))).position =
        min (v.position + d) (steps.length - 1) ∧
      (v.press now (.char (Nat.digitChar d))).message =
        "Stepped forward " ++
          toString ((v.press now (.char (Nat.digitChar d))).position - v.position) ++ " step(s)"
  right_left : ∀ now later, v.position + 1 < steps.length →
    ((v.press now .right).press later .left).position = v.position
  left_right : ∀ now later, 0 < v.position →
    ((v.press now .left).press later .right).position = v.position
  enter : ∀ now, (v.press now .enter).position = steps.length - 1
  backspace : ∀ now, (v.press now .backspace).position = 0
  top : ∀ now key, (v.press now key).position ≠ v.position → (v.press now key).frameScroll = 0

variable {steps : List StepRecord}

theorem size_of_trace (trace : v.steps = steps.toArray) : v.steps.size = steps.length := by
  rw [trace, List.size_toArray]

theorem OnTrace.position_lt (there : v.OnTrace) (trace : v.steps = steps.toArray) :
    v.position < steps.length ∨ steps = [] ∧ v.position = 0 := by
  simpa [OnTrace, size_of_trace trace] using there

theorem OnTrace.isSome_current? (there : v.OnTrace) (trace : v.steps = steps.toArray) :
    v.current?.isSome ↔ steps ≠ [] := by
  rw [current?, trace, List.getElem?_toArray]
  rcases there.position_lt trace with inside | ⟨rfl, -⟩
  · have nonempty : steps ≠ [] := List.ne_nil_of_length_pos (by omega)
    simp [inside, nonempty]
  · simp

/-- A digit leads that many steps ahead, or to the last step, and says how many these are. -/
theorem OnTrace.digit (there : v.OnTrace) (trace : v.steps = steps.toArray) (now : Nat) {d : Nat}
    (low : 1 ≤ d) (high : d ≤ 9) (nonempty : steps ≠ []) :
    (v.press now (.char (Nat.digitChar d))).position = min (v.position + d) (steps.length - 1) ∧
      (v.press now (.char (Nat.digitChar d))).message =
        "Stepped forward " ++
          toString ((v.press now (.char (Nat.digitChar d))).position - v.position) ++ " step(s)" := by
  have inside : v.position < steps.length :=
    (there.position_lt trace).resolve_right fun h => nonempty h.1
  have skipped : (v.skip d).position = v.position + min d v.ahead := position_forwardBy d v
  have target : v.position + min d v.ahead = min (v.position + d) (steps.length - 1) := by
    unfold ahead
    rw [size_of_trace trace]
    omega
  rw [press_digit v now low high]
  refine ⟨skipped.trans target, ?_⟩
  rw [skipped, Nat.add_sub_cancel_left, skip_eq, forwardBy_eq]
  rfl

theorem press_right_left (now later : Nat) (inside : v.position + 1 < v.steps.size) :
    ((v.press now .right).press later .left).position = v.position := by
  rw [press_right now inside, press_left later (by simp)]
  rfl

theorem press_left_right (now later : Nat) (behind : 0 < v.position)
    (inside : v.position < v.steps.size) :
    ((v.press now .left).press later .right).position = v.position := by
  have room : v.position - 1 + 1 < v.steps.size := by omega
  rw [press_left now behind, press_right later room]
  exact Nat.sub_add_cancel behind

/-- A key that leads to another step shows it from the top. -/
theorem Pressed.frameScroll_eq {w : Viewer} (h : Pressed v w) (moved : w.position ≠ v.position) :
    w.frameScroll = 0 := by
  cases h with
  | goes => rfl
  | stays _ position _ => exact absurd position moved

theorem OnTrace.navigates (there : v.OnTrace) (trace : v.steps = steps.toArray) :
    v.Navigates steps where
  trace := trace
  position := there.position_lt trace
  current := there.isSome_current? trace
  digit now _ low high nonempty := there.digit trace now low high nonempty
  right_left now later inside := press_right_left now later (by rwa [size_of_trace trace])
  left_right now later behind := by
    refine press_left_right now later behind ?_
    unfold OnTrace at there
    omega
  enter now := by
    rw [← size_of_trace trace]
    rfl
  backspace now := rfl
  top now key := (v.pressed_press now key).frameScroll_eq

/-- Keys in any order and at any times keep the viewer on its trace, lead where they say, and compute no
number that a machine word does not hold: with every sum and difference checked they do the same. -/
theorem navigates_after (trace : ProgramTrace) (sources : Sources) (events : List Event) :
    ((ofTrace trace sources).after events).Navigates trace.steps ∧
      ∀ limit, 9 ≤ limit → trace.steps.length ≤ limit →
        events.foldlM (happenIn (.checked limit)) (ofTrace trace sources) =
          some ((ofTrace trace sources).after events) := by
  have start := onTrace_ofTrace trace sources
  obtain ⟨there, same⟩ := onTrace_after start events
  exact ⟨there.navigates same, fun limit digits fits =>
    foldlM_happenIn_checked start (by simpa [ofTrace] using fits) digits events⟩

/-- A trace of five steps. -/
def fiveSteps : ProgramTrace where
  steps := [3, 4, 5, 4, 5].map fun line =>
    { event := { label := some "Loop.main()", line := some line } }

/-- Two steps forward, with a drawing between them. -/
def twice : List Event :=
  [.press 7 .right, .draw 20 9, .press 7 .right]

/-- From the third of five steps nine steps forward are two. -/
theorem navigates_fiveSteps :
    let v := (ofTrace fiveSteps {}).after twice
    v.position = 2 ∧ v.current?.isSome ∧
      (v.press 0 (.char '9')).position = 4 ∧
      (v.press 0 (.char '9')).message = "Stepped forward 2 step(s)" ∧
      ((v.press 0 .right).press 0 .left).position = 2 ∧
      ((v.press 0 .left).press 0 .right).position = 2 ∧
      (v.press 0 .enter).position = 4 ∧ (v.press 0 .enter).frameScroll = 0 ∧
      twice.foldlM (happenIn (.checked 9)) (ofTrace fiveSteps {}) = some v := by
  intro v
  obtain ⟨navigates, word⟩ := navigates_after fiveSteps {} twice
  have third : v.position = 2 := by decide +kernel
  have nonempty : fiveSteps.steps ≠ [] := by decide
  obtain ⟨position, message⟩ := navigates.digit 0 9 (by decide) (by decide) nonempty
  rw [position] at message
  have back := navigates.right_left 0 0 (by rw [third]; decide)
  have forth := navigates.left_right 0 0 (by rw [third]; decide)
  have last := navigates.enter 0
  have moved : (v.press 0 .enter).position ≠ v.position := by
    rw [last, third]
    decide
  rw [third] at position message back forth
  exact ⟨third, navigates.current.2 nonempty, position, message, back, forth, last,
    navigates.top 0 .enter moved, word 9 (by decide) (by decide)⟩

end Retrace.Viewer
