import Retrace.Proofs.Debugger.Divided
import Retrace.Proofs.Debugger.Misread
import Retrace.Proofs.Run.Rounds
import Retrace.Proofs.Run.Stage
import Retrace.Proofs.Run.Transcript

/-!
# Full traces

A full trace has the steps that the debugger printed, one record for each, if
each of them is legible. Each step takes its answers whole, and its record goes
to the end of the trace.
-/

namespace Retrace

-- ---------------------------------------------------------------------------
-- Runs
-- ---------------------------------------------------------------------------

namespace Printed

/-- A step as the debugger prints it: a stop with the variables there. -/
structure Step where
  stop : Stop
  frame : Frame

namespace Step

/-- The answers to a step and to the request for variables that follows it. -/
def replies (x : Step) : List Reply :=
  [x.stop.reply, x.frame.reply]

/-- The record of the step. -/
def record (x : Step) : StepRecord where
  event := x.stop.event
  call := if x.stop.title.kind = .methodEntry then some (scope x.frame.arguments) else none
  locals := some (scope x.frame.locals)

theorem replies_nonempty (x : Step) : 1 ≤ Reply.outputLength x.replies := by
  have text : 1 ≤ x.stop.reply.output.length := x.stop.reply_nonempty
  simp only [replies, Reply.outputLength]
  omega

/-- The answers can be read. -/
def Legible (x : Step) : Prop :=
  x.stop.Legible ∧ x.frame.Divided

end Step

/-- A run of a program under the debugger. -/
structure Run where
  steps : List Step
  ending : Ending

namespace Run

/-- The answers of the debugger after the handshake. -/
def script (run : Run) : List Reply :=
  run.steps.flatMap Step.replies ++ [run.ending.reply]

/-- The trace of the run. -/
def trace (run : Run) : ProgramTrace where
  exceptionOccurred := run.ending.isException
  steps := run.steps.map Step.record

end Run

end Printed

-- ---------------------------------------------------------------------------
-- Traces without a limit
-- ---------------------------------------------------------------------------

namespace Trace

open Printed Session

section

variable {C L : Type} [Channel C] {s s' : Session C L} {fuel : Nat} {b : Bool}

/-- A round of a full trace adds the record of a step and goes on, or it adds none and is the last. -/
theorem stepToEnd_succ_eq_ok (h : stepToEnd (fuel + 1) s = .ok b s') :
    (∃ record s₁, Session.step .into true s = .ok (some record) s₁ ∧
      s₁.trace = s.trace.push record ∧ stepToEnd fuel s₁ = .ok b s') ∨ s'.trace = s.trace := by
  have adds := Session.adds_step (C := C) (L := L) .into true
  cases hs : Session.step .into true s with
  | ok answer s₁ =>
    have trace_eq := adds.ok hs
    cases answer with
    | some record =>
      rw [stepToEnd_of_step hs] at h
      exact .inl ⟨record, s₁, rfl, trace_eq, h⟩
    | none =>
      rw [stepToEnd_of_none hs] at h
      obtain ⟨-, rfl⟩ := EStateM.Result.ok.inj h
      exact .inr trace_eq
  | error e s₁ =>
    rw [stepToEnd_of_error hs] at h
    obtain ⟨_, -, -, rfl⟩ := endedBy_eq_ok_iff.1 h
    exact .inr (adds.error hs)

/-- Records are only added while the trace has no capacity. -/
theorem stepToEnd_extends (unbounded : s.trace.capacity = none)
    (h : stepToEnd fuel s = .ok b s') : ∃ later, s'.trace.toList = s.trace.toList ++ later := by
  induction fuel generalizing s with
  | zero =>
    obtain ⟨-, rfl⟩ := EStateM.Result.ok.inj h
    exact ⟨[], by simp⟩
  | succ fuel ih =>
    rcases stepToEnd_succ_eq_ok h with ⟨record, s₁, -, trace_eq, h⟩ | trace_eq
    · obtain ⟨later, hl⟩ := ih (by rw [trace_eq]; exact unbounded) h
      refine ⟨record :: later, ?_⟩
      rw [hl, trace_eq, History.toList_push_of_unbounded unbounded, List.append_assoc]
      rfl
    · exact ⟨[], by rw [trace_eq, List.append_nil]⟩

end

-- ---------------------------------------------------------------------------
-- Steps that can be read
-- ---------------------------------------------------------------------------

variable {L : Type} {s : Session Scripted L} {c : Scripted} {script : List Reply} {run : Run}

/-- Steps that can be read are taken one after another, and each adds its record. -/
theorem stepToEnd_steps {steps : List Step} (unbounded : s.trace.capacity = none)
    (h : c.Waits [] (steps.flatMap Step.replies ++ script)) (legible : ∀ x ∈ steps, x.Legible)
    (fuel : Nat) :
    ∃ (s' : Session Scripted L) (c' : Scripted),
      stepToEnd (steps.length + fuel) (s.withChannel c) = stepToEnd fuel (s'.withChannel c') ∧
      c'.Waits [] script ∧ s'.trace.capacity = none ∧
      s'.trace.toList = s.trace.toList ++ steps.map Step.record := by
  induction steps generalizing s c with
  | nil => exact ⟨s, c, by simp, h, unbounded, by simp⟩
  | cons x steps ih =>
    obtain ⟨⟨readable, divided⟩, others⟩ := List.forall_mem_cons.1 legible
    have first : c.Waits [] (x.stop.reply :: x.frame.reply ::
        (steps.flatMap Step.replies ++ script)) := by simpa [Step.replies] using h
    obtain ⟨s₁, c₁, stepped, waits, pushed⟩ :=
      exists_step s first (stop?_text readable (pending_of_reply first _)) divided true
    obtain ⟨s', c', rest, waits', unbounded', trace_eq⟩ :=
      ih (s := s₁) (by rw [pushed]; exact unbounded) waits others
    refine ⟨s', c', ?_, waits', unbounded', ?_⟩
    · rw [← rest, List.length_cons, Nat.add_right_comm]
      exact stepToEnd_of_step stepped _
    · rw [trace_eq, pushed, History.toList_push_of_unbounded unbounded, List.append_assoc]
      rfl

theorem run'_allSteps_eq_some_iff (h : c.Waits [] script) {trace : ProgramTrace} :
    (allSteps : Talk Scripted L ProgramTrace).run' (s.withChannel c) = some trace ↔
      ∃ exceptionOccurred s', stepToEnd (Reply.outputLength script + 1)
        ((s.setTraceCapacity none).withChannel c) = .ok exceptionOccurred s' ∧
        trace = { exceptionOccurred, steps := s'.trace.toList } := by
  have rounds_eq := rounds_withChannel (s.setTraceCapacity none) h
  have same : (s.withChannel c).setTraceCapacity none = (s.setTraceCapacity none).withChannel c := rfl
  unfold EStateM.run' EStateM.run allSteps
  dsimp only
  rw [same, rounds_eq]
  cases stepToEnd (Reply.outputLength script + 1) ((s.setTraceCapacity none).withChannel c) <;>
    simp [eq_comm]

theorem toList_setTraceCapacity_none (s : Session Scripted L) :
    (s.setTraceCapacity none).trace.toList = s.trace.toList :=
  History.toList_setCapacity s.trace none

/-- The trace of a run whose steps can all be read is the one that was printed. -/
theorem run'_allSteps_of_legible (h : c.Waits [] run.script) (empty : s.trace.toList = [])
    (legible : ∀ x ∈ run.steps, x.Legible) :
    (allSteps : Talk Scripted L ProgramTrace).run' (s.withChannel c) = some run.trace := by
  obtain ⟨more, bound⟩ := Nat.exists_eq_add_of_le
    (Reply.length_le_outputLength Step.replies_nonempty run.steps [run.ending.reply])
  obtain ⟨s₁, c₁, steps, waits, -, trace_eq⟩ := stepToEnd_steps (s := s.setTraceCapacity none) rfl h
    legible (more + 1)
  obtain ⟨e, c₂, ended, ending⟩ := Session.exists_ending s₁ run.ending waits true
  rw [toList_setTraceCapacity_none, empty, List.nil_append] at trace_eq
  refine (run'_allSteps_eq_some_iff h).2 ⟨run.ending.isException, s₁.withChannel c₂, ?_, ?_⟩
  · rw [Run.script, bound, Nat.add_assoc, steps, stepToEnd_of_error ended]
    exact endedBy_eq_ok_iff.2 ⟨_, ending, rfl, rfl⟩
  · rw [Run.trace, ← trace_eq]
    rfl

-- ---------------------------------------------------------------------------
-- Traces that are faithful
-- ---------------------------------------------------------------------------

/-- A step whose record is the one that was printed could be read. -/
theorem legible_of_step {x : Step} (h : c.Waits [] (x.replies ++ script)) {s' : Session Scripted L}
    (stepped : Session.step .into true (s.withChannel c) = .ok (some x.record) s') :
    x.stop.Legible ∧ (x.stop.title.kind = .methodEntry → (x.frame.arguments.map (·.name)).Nodup →
      x.frame.Divided) := by
  have waits : c.Waits [] (x.stop.reply :: x.frame.reply :: script) := h
  obtain ⟨event, b, answer, s₁, -, -, read, asked, record_eq, -⟩ :=
    takeStep_eq_ok_iff.1 (step_eq_ok_iff.1 stepped)
  have told := waits.told rfl StepModifier.into.command
  have pending := pending_of_reply waits StepModifier.into.command
  obtain rfl : x.stop.event = event := congrArg StepRecord.event record_eq
  have legible := legible_of_stop? calm_lead isPrompt_prompt pending read
  refine ⟨legible, fun entry distinct => ?_⟩
  obtain ⟨-, rfl⟩ := Prod.mk.inj (Option.some.inj (read.symm.trans (stop?_text legible pending)))
  have waits₁ := told.leaving { (c.told StepModifier.into.command).buffer with pending := [] }
  rcases locals_eq_ok_iff.1 asked with ⟨gone, -⟩ | ⟨frame, rfl, answered⟩
  · exact absurd waits₁.live gone
  · obtain ⟨b₂, -, -, frame_eq, -⟩ := askLocals_eq_ok_iff.1 answered
    have same := congrArg StepRecord.call record_eq
    simp only [Step.record, recordOf, Stop.event, entry, if_true, Option.some.injEq] at same
    exact divided_of_frame? distinct ((waits₁.told_pending _).trans String.toList_ofList) frame_eq
      same.symm

/-- If the trace is the one that was printed, then a step after steps that can be read was recorded
as it was printed. -/
theorem exists_recorded (h : c.Waits [] run.script) (empty : s.trace.toList = [])
    (answer : (allSteps : Talk Scripted L ProgramTrace).run' (s.withChannel c) = some run.trace)
    {before after : List Step} {x : Step} (steps : run.steps = before ++ x :: after)
    (legible : ∀ y ∈ before, y.Legible) :
    ∃ (s₁ s₂ : Session Scripted L) (c₁ : Scripted) (others : List Reply),
      c₁.Waits [] (x.replies ++ others) ∧
      step .into true (s₁.withChannel c₁) = .ok (some x.record) s₂ := by
  obtain ⟨e, s', ended, trace_eq⟩ := (run'_allSteps_eq_some_iff h).1 answer
  have script_eq : run.script = before.flatMap Step.replies ++
      (x.replies ++ (after.flatMap Step.replies ++ [run.ending.reply])) := by
    simp [Run.script, steps]
  obtain ⟨more, bound⟩ := Nat.exists_eq_add_of_le
    (Reply.length_le_outputLength Step.replies_nonempty run.steps [run.ending.reply])
  rw [script_eq] at h
  obtain ⟨s₁, c₁, taken, waits, unbounded, before_eq⟩ := stepToEnd_steps
    (s := s.setTraceCapacity none) rfl h legible (after.length + more + 1 + 1)
  rw [toList_setTraceCapacity_none, empty, List.nil_append] at before_eq
  have fuel : Reply.outputLength run.script + 1 = before.length + (after.length + more + 1 + 1) := by
    rw [Run.script, bound, steps, List.length_append, List.length_cons]
    omega
  have all : s'.trace.toList = before.map Step.record ++ x.record :: after.map Step.record := by
    have := congrArg ProgramTrace.steps trace_eq
    simpa [Run.trace, steps] using this.symm
  rw [fuel, taken] at ended
  rcases stepToEnd_succ_eq_ok ended with ⟨record, s₂, stepped, pushed, rest⟩ | same
  · obtain ⟨later, trace_eq⟩ := stepToEnd_extends (by rw [pushed]; exact unbounded) rest
    have pushed : s₂.trace = s₁.trace.push record := pushed
    rw [pushed, History.toList_push_of_unbounded unbounded, before_eq, all, List.append_assoc] at trace_eq
    have first : x.record :: after.map Step.record = record :: later := List.append_cancel_left trace_eq
    obtain ⟨rfl, -⟩ := List.cons.inj first
    exact ⟨s₁, s₂, c₁, _, waits, stepped⟩
  · have same : s'.trace = s₁.trace := same
    rw [same, before_eq] at all
    have := congrArg List.length all
    simp at this

/-- If the trace is the one that was printed, then all steps could be read, up to the first whose
arguments are not divided from its other variables by the printed header. -/
theorem legible_of_run'_allSteps (h : c.Waits [] run.script) (empty : s.trace.toList = [])
    (answer : (allSteps : Talk Scripted L ProgramTrace).run' (s.withChannel c) = some run.trace)
    {before after : List Step} {x : Step} (steps : run.steps = before ++ x :: after)
    (divided : ∀ y ∈ before, y.frame.Divided) :
    x.stop.Legible ∧ (x.stop.title.kind = .methodEntry → (x.frame.arguments.map (·.name)).Nodup →
      x.frame.Divided) := by
  suffices legible : ∀ y ∈ before, y.Legible by
    obtain ⟨s₁, s₂, c₁, others, waits, stepped⟩ := exists_recorded h empty answer steps legible
    exact legible_of_step waits stepped
  -- The steps before are gone through one by one, each after those that come before it.
  induction before using List.reverseRecOn generalizing x after with
  | nil => simp
  | append_singleton before y ih =>
    have earlier : run.steps = before ++ y :: x :: after := by simp [steps]
    obtain ⟨others, last⟩ := List.forall_mem_append.1 divided
    have legible := ih earlier others
    obtain ⟨s₁, s₂, c₁, _, waits, stepped⟩ := exists_recorded h empty answer earlier legible
    refine List.forall_mem_append.2 ⟨legible, fun z hz => ?_⟩
    obtain rfl := List.mem_singleton.1 hz
    exact ⟨(legible_of_step waits stepped).1, last z (.head _)⟩

-- ---------------------------------------------------------------------------
-- Programs
-- ---------------------------------------------------------------------------

/-- The full trace of a program is the one that was printed if every step can be read: the value
that a method returns has no comma, nothing in a header looks like the report of an exception or of
a method entry, and no value of an argument contains the header of the other variables. Where this
fails for a stop, or for the arguments of a method that is entered, the trace is another one. -/
theorem program_eq_printed {config : Config} {request : Request} {site : Site Scripted Rehearsal}
    (run : Run) (stage : Stage config request site run.script) :
    ((∀ x ∈ run.steps, x.Legible) → (program config request).run' site = some run.trace) ∧
    ((program config request).run' site = some run.trace →
      ∀ before x after, run.steps = before ++ x :: after → (∀ y ∈ before, y.frame.Divided) →
        x.stop.Legible ∧ (x.stop.title.kind = .methodEntry →
          (x.frame.arguments.map (·.name)).Nodup → x.frame.Divided)) := by
  obtain ⟨s, c, waits, empty, outcome⟩ := stage.exists_session
  rw [program, outcome]
  exact ⟨run'_allSteps_of_legible waits empty, fun answer before x after steps divided =>
    legible_of_run'_allSteps waits empty answer steps divided⟩

/-- A program whose only step is the exit of a method that returns a text. -/
def joining (value : String) (nonempty : value ≠ "")
    (line : ∀ c ∈ value.toList, Message.inLine c = true) : Run where
  steps := [⟨joinExit value nonempty line, firstFrame⟩]
  ending := .exit "\r\nThe application exited\r\n" Ending.headless_exited

/-- A comma in the value that a method returns makes the difference. -/
theorem program_joining :
    ((program { compile := false } { className := "Pair" }).run'
        (.rehearsing { compile := false } { className := "Pair" }
          (joining "\"ab\"" (by decide) (by decide)).script) =
      some (joining "\"ab\"" (by decide) (by decide)).trace) ∧
    (program { compile := false } { className := "Pair" }).run'
        (.rehearsing { compile := false } { className := "Pair" }
          (joining "\"a, b\"" (by decide) (by decide)).script) ≠
      some (joining "\"a, b\"" (by decide) (by decide)).trace := by
  have stage := @Stage.of_rehearsing { compile := false } { className := "Pair" } rfl rfl (by decide)
    (by decide) rfl
  refine ⟨(program_eq_printed _ (stage _)).1 fun x hx => ?_, fun same => ?_⟩
  · rw [List.mem_singleton.1 hx]
    refine ⟨⟨fun value hv => ?_, by decide +kernel, nofun⟩, divided_firstFrame⟩
    obtain rfl := Option.some.inj hv
    decide
  · have legible := ((program_eq_printed _ (stage _)).2 same [] _ [] rfl (by simp)).1
    exact absurd (legible.plain _ rfl) (by decide)

end Trace

end Retrace
