import Retrace.Proofs.Run.Rounds
import Retrace.Proofs.Run.Stage
import Retrace.Proofs.Run.Transcript
import Retrace.Proofs.Run.VariableHistory

/-!
# Histories of programs

The history of a program has the values that its variables had in the second
frame of each step, as long as the stops are accepted. With the first stop that
is not, the history ends, and its end looks like an exception.
-/

namespace Retrace

-- ---------------------------------------------------------------------------
-- Runs
-- ---------------------------------------------------------------------------

namespace Printed

/-- The value of a variable in a frame; a local variable hides an argument of the same name. -/
def Frame.value? (f : Frame) (name : String) : Option Value :=
  ((scope f.locals).get? name).or ((scope f.arguments).get? name)

theorem Frame.get?_visible (f : Frame) (name : String) :
    f.frame.visible.get? name = f.value? name :=
  NameMap.get?_union ..

/-- A step as the debugger prints it when only variables are asked for. -/
structure ObservedStep where
  stop : Stop
  /-- The variables that belong to the step. -/
  first : Frame
  /-- The variables that are observed after it. -/
  second : Frame

namespace ObservedStep

/-- The answers to a step and to the two requests for variables that follow it. -/
def replies (x : ObservedStep) : List Reply :=
  [x.stop.reply, x.first.reply, x.second.reply]

/-- The printed headers divide the variables of both frames. -/
def Divided (x : ObservedStep) : Prop :=
  x.first.Divided ∧ x.second.Divided

theorem replies_nonempty (x : ObservedStep) : 1 ≤ Reply.outputLength x.replies := by
  have text : 1 ≤ x.stop.reply.output.length := x.stop.reply_nonempty
  simp only [replies, Reply.outputLength]
  omega

/-- The values of a variable in the frames that are observed. -/
def values (steps : List ObservedStep) (name : String) : List Value :=
  steps.filterMap (·.second.value? name)

theorem seen_frames (steps : List ObservedStep) (name : String) :
    VariableHistory.seen (steps.map (·.second.frame)) name = values steps name := by
  rw [VariableHistory.seen, List.filterMap_map]
  exact List.filterMap_congr fun x _ => x.second.get?_visible name

end ObservedStep

/-- A run of a program of which the variables are observed. -/
structure ObservedRun where
  steps : List ObservedStep
  ending : Ending

/-- The answers of the debugger after the handshake. -/
def ObservedRun.script (run : ObservedRun) : List Reply :=
  run.steps.flatMap ObservedStep.replies ++ [run.ending.reply]

end Printed

open Printed

/-- A history tells of steps: it has the variables that were observed, each with its values without
repetitions, and it says whether there was an exception. -/
structure VariableHistory.Tells (h : VariableHistory) (steps : List ObservedStep) (exception : Bool) :
    Prop where
  ended : h.exceptionOccurred = exception
  get?_eq : ∀ name, h.get? name =
    if ObservedStep.values steps name = [] then none
    else some ((ObservedStep.values steps name).destutter Changes)

/-- The history that is recorded in steps. -/
def Printed.ObservedStep.history (steps : List ObservedStep) : VariableHistory :=
  (steps.map (·.second.frame)).foldl VariableHistory.observeFrame {}

theorem VariableHistory.tells_history (steps : List ObservedStep) (exception : Bool) :
    Tells { ObservedStep.history steps with exceptionOccurred := exception } steps exception where
  ended := rfl
  get?_eq name := by
    rw [← ObservedStep.seen_frames]
    exact get?_of_frames _ name

namespace Trace

open Session

section

variable {C L : Type} [Channel C] {s s' : Session C L}

theorem observeToEnd_of_error {e : SessionError} (h : step .into false s = .error e s') (fuel : Nat)
    (history : VariableHistory) :
    observeToEnd (fuel + 1) history s =
      endedBy e (fun exceptionOccurred => { history with exceptionOccurred }) s' := by
  have failed : nextFrame s = .error e s' := by rw [nextFrame, bind_of_error h]
  simp only [observeToEnd, failed]

end

variable {L : Type} {s : Session Scripted L} {c : Scripted} {script : List Reply}

-- ---------------------------------------------------------------------------
-- Steps
-- ---------------------------------------------------------------------------

/-- After a step that is accepted the second frame is observed, and then nothing waits. -/
theorem exists_nextFrame {x : ObservedStep} (h : c.Waits [] (x.replies ++ script))
    (accepted : x.stop.Accepted) (divided : x.Divided) :
    ∃ (s' : Session Scripted L) (c' : Scripted),
      nextFrame (s.withChannel c) = .ok (some x.second.frame) (s'.withChannel c') ∧
      c'.Waits [] script := by
  have waits : c.Waits [] (x.stop.reply :: x.first.reply :: x.second.reply :: script) := h
  obtain ⟨event, read⟩ := accepted.exists_stop? (pending_of_reply waits "step in")
  obtain ⟨s₁, c₁, stepped, waits₁, -⟩ := exists_step s waits read divided.1 false
  have quiet : Message.localsAnswer.find? [] = none := by decide
  obtain ⟨c₂, asked, waits₂⟩ := exists_locals s₁ waits₁ quiet divided.2
  refine ⟨s₁, c₂, ?_, waits₂⟩
  rw [nextFrame, bind_of_ok stepped]
  exact asked

/-- Steps that are accepted are observed one after another. -/
theorem observeToEnd_steps {steps : List ObservedStep}
    (h : c.Waits [] (steps.flatMap ObservedStep.replies ++ script))
    (accepted : ∀ x ∈ steps, x.stop.Accepted ∧ x.Divided) (fuel : Nat) (history : VariableHistory) :
    ∃ (s' : Session Scripted L) (c' : Scripted),
      observeToEnd (steps.length + fuel) history (s.withChannel c) =
        observeToEnd fuel ((steps.map (·.second.frame)).foldl VariableHistory.observeFrame history)
          (s'.withChannel c') ∧
      c'.Waits [] script := by
  induction steps generalizing s c history with
  | nil => exact ⟨s, c, by simp, h⟩
  | cons x steps ih =>
    obtain ⟨⟨readable, divided⟩, others⟩ := List.forall_mem_cons.1 accepted
    rw [List.flatMap_cons, List.append_assoc] at h
    obtain ⟨s₁, c₁, next, waits⟩ := exists_nextFrame (s := s) h readable divided
    obtain ⟨s', c', rest, waits'⟩ := ih (s := s₁) waits others (history.observeFrame x.second.frame)
    refine ⟨s', c', ?_, waits'⟩
    rw [List.map_cons, List.foldl_cons, ← rest, List.length_cons, Nat.add_right_comm]
    exact observeToEnd_of_frame next _ _

-- ---------------------------------------------------------------------------
-- Whole histories
-- ---------------------------------------------------------------------------

/-- The history of a session on which a script waits has a round for each character to come. -/
theorem allValues_eq (h : c.Waits [] script) :
    (allValues : Talk Scripted L VariableHistory) (s.withChannel c) =
      observeToEnd (Reply.outputLength script + 1) {}
        ((s.setTraceCapacity (some keptSteps)).withChannel c) := by
  rw [← rounds_withChannel (s.setTraceCapacity (some keptSteps)) h]
  rfl

/-- If all steps are accepted, then the history tells of them, and the ending is recognised. -/
theorem exists_history {run : ObservedRun} (h : c.Waits [] run.script)
    (accepted : ∀ x ∈ run.steps, x.stop.Accepted ∧ x.Divided) :
    ∃ (s' : Session Scripted L), allValues (s.withChannel c) = .ok
      { ObservedStep.history run.steps with exceptionOccurred := run.ending.isException } s' := by
  obtain ⟨more, bound⟩ := Nat.exists_eq_add_of_le
    (Reply.length_le_outputLength ObservedStep.replies_nonempty run.steps [run.ending.reply])
  obtain ⟨s₁, c₁, steps, waits⟩ := observeToEnd_steps (s := s.setTraceCapacity (some keptSteps)) h
    accepted (more + 1) {}
  obtain ⟨e, c₂, ended, ending⟩ := exists_ending s₁ run.ending waits false
  refine ⟨s₁.withChannel c₂, ?_⟩
  rw [allValues_eq h, ObservedRun.script, bound, Nat.add_assoc, steps, observeToEnd_of_error ended]
  exact endedBy_eq_ok_iff.2 ⟨_, ending, rfl, rfl⟩

/-- If a step is not accepted, then the history tells of the steps before it only, and of an
exception; there is none if no header is found in the answer to the step. -/
theorem history_of_refusal {run : ObservedRun} (h : c.Waits [] run.script)
    {before after : List ObservedStep} {x : ObservedStep} (steps : run.steps = before ++ x :: after)
    (accepted : ∀ y ∈ before, y.stop.Accepted ∧ y.Divided) (refused : ¬ x.stop.Accepted) :
    (allValues : Talk Scripted L VariableHistory).run' (s.withChannel c) =
      (Message.stepHeader.find? x.stop.text).map fun _ =>
        { ObservedStep.history before with exceptionOccurred := true } := by
  obtain ⟨more, bound⟩ := Nat.exists_eq_add_of_le
    (Reply.length_le_outputLength ObservedStep.replies_nonempty run.steps [run.ending.reply])
  have fuel : Reply.outputLength run.script + 1 = before.length + (after.length + more + 1 + 1) := by
    rw [ObservedRun.script, bound, steps, List.length_append, List.length_cons]
    omega
  have rounds := allValues_eq (s := s) h
  have script_eq : run.script = before.flatMap ObservedStep.replies ++
      (x.replies ++ (after.flatMap ObservedStep.replies ++ [run.ending.reply])) := by
    simp [ObservedRun.script, steps]
  rw [script_eq] at h
  obtain ⟨s₁, c₁, taken, waits⟩ := observeToEnd_steps (s := s.setTraceCapacity (some keptSteps)) h
    accepted (after.length + more + 1 + 1) {}
  have stopped : c₁.Waits [] (x.stop.reply :: _) := waits
  obtain ⟨e, c₂, failed, ending⟩ := exists_refusal s₁ stopped refused false
  unfold EStateM.run' EStateM.run
  rw [rounds, fuel, taken, observeToEnd_of_error failed, endedBy, ending]
  cases Message.stepHeader.find? x.stop.text <;> rfl

theorem run'_variableHistory (config : Config) (request : Request) (site : Site Scripted Rehearsal) :
    (variableHistory config request false).run' site = (run config request allValues).run' site := by
  unfold variableHistory EStateM.run' EStateM.run
  cases h : run config request allValues site with
  | ok history s => rw [bind_of_ok h]; rfl
  | error e s => rw [bind_of_error h]

/-- The history of a program tells of the steps that were printed if every stop is accepted, and a
stop is accepted if the value that a method returns has no comma and no exception is announced. With
the first stop that is not accepted the history ends, and it says that there was an exception; if no
header is found in its answer, there is no history. -/
theorem variableHistory_tells {config : Config} {request : Request} {site : Site Scripted Rehearsal}
    (run : ObservedRun) (stage : Stage config request site run.script) :
    (∀ x ∈ run.steps, x.stop.title.Plain →
      ¬ Message.exceptionMarker.toList <:+: x.stop.header → x.stop.Accepted) ∧
    ((∀ x ∈ run.steps, x.stop.Accepted ∧ x.Divided) →
      ∃ history, (variableHistory config request false).run' site = some history ∧
        history.Tells run.steps run.ending.isException) ∧
    (∀ before x after, run.steps = before ++ x :: after →
      (∀ y ∈ before, y.stop.Accepted ∧ y.Divided) → ¬ x.stop.Accepted →
      if Message.stepHeader.find? x.stop.text = none then
        (variableHistory config request false).run' site = none
      else ∃ history, (variableHistory config request false).run' site = some history ∧
        history.Tells before true) := by
  obtain ⟨s, c, waits, -, outcome⟩ := stage.exists_session
  rw [run'_variableHistory, outcome]
  refine ⟨fun x _ plain unexceptional => accepted_of_plain plain unexceptional, fun accepted => ?_,
    fun before x after steps accepted refused => ?_⟩
  · obtain ⟨s', result⟩ := exists_history (s := s) waits accepted
    have ends : allValues (s.withChannel c) = ending (.ok _) s' := result
    exact ⟨_, run'_of_ending ends, VariableHistory.tells_history run.steps run.ending.isException⟩
  · rw [history_of_refusal waits steps accepted refused]
    cases Message.stepHeader.find? x.stop.text with
    | none => rfl
    | some m => exact ⟨_, rfl, VariableHistory.tells_history before true⟩

/-- A program whose only step is the exit of a method that returns a text. -/
def observedJoining (value : String) (nonempty : value ≠ "")
    (line : ∀ c ∈ value.toList, Message.inLine c = true) : ObservedRun where
  steps := [⟨joinExit value nonempty line, firstFrame, firstFrame⟩]
  ending := .exit "\r\nThe application exited\r\n" Ending.headless_exited

/-- A comma in the value that a method returns ends the history. -/
theorem variableHistory_joining :
    (∃ history, (variableHistory { compile := false } { className := "Pair" } false).run'
        (.rehearsing { compile := false } { className := "Pair" }
          (observedJoining "\"ab\"" (by decide) (by decide)).script) = some history ∧
      history.Tells (observedJoining "\"ab\"" (by decide) (by decide)).steps false) ∧
    ∃ history, (variableHistory { compile := false } { className := "Pair" } false).run'
        (.rehearsing { compile := false } { className := "Pair" }
          (observedJoining "\"a, b\"" (by decide) (by decide)).script) = some history ∧
      history.Tells [] true := by
  have stage := @Stage.of_rehearsing { compile := false } { className := "Pair" } rfl rfl (by decide)
    (by decide) rfl
  have accepted : (joinExit "\"ab\"" (by decide) (by decide)).Accepted := by decide +kernel
  have refused : ¬ (joinExit "\"a, b\"" (by decide) (by decide)).Accepted := by decide +kernel
  constructor
  · refine (variableHistory_tells _ (stage _)).2.1 fun x hx => ?_
    rw [List.mem_singleton.1 hx]
    exact ⟨accepted, divided_firstFrame, divided_firstFrame⟩
  · have found : Message.stepHeader.find? (joinExit "\"a, b\"" (by decide) (by decide)).text ≠ none := by
      decide +kernel
    have told := (variableHistory_tells (observedJoining "\"a, b\"" (by decide) (by decide))
      (stage _)).2.2 [] ⟨_, firstFrame, firstFrame⟩ [] rfl (by simp) refused
    rwa [if_neg found] at told

end Trace

end Retrace
