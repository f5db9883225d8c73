import Retrace.Proofs.Session.Launching

/-!
# What a session records

The trace of a session is what its calls and their answers make of an empty one: a step that
answers a record adds that record, a change of the capacity drops what has no room any more, and
nothing else touches the trace. In particular a step that fails adds nothing, however far it came.
-/

namespace Retrace

variable {C L : Type}

-- ---------------------------------------------------------------------------
-- One call
-- ---------------------------------------------------------------------------

/-- What a call does to the trace, by its answer. -/
def Call.record : Call L → Answer → History StepRecord → History StepRecord
  | .step .., .stepped (.ok (some record)), trace => trace.push record
  | .setTraceCapacity capacity, _, trace => trace.setCapacity capacity
  | _, _, trace => trace

theorem Call.record_of_quiet {call : Call L} {answer : Answer}
    (sized : ∀ capacity, call ≠ .setTraceCapacity capacity)
    (silent : ∀ record, answer ≠ .stepped (.ok (some record))) (trace : History StepRecord) :
    call.record answer trace = trace := by
  unfold record
  split
  · next record => exact absurd rfl (silent record)
  · next capacity => exact absurd rfl (sized capacity)
  · rfl

namespace Session

/-- An exchange that adds no record leaves the trace as it is, whatever it answers. -/
theorem Adds.trace_eq {α : Type} {x : Talk C L α} (h : Adds x fun _ => none) (s : Session C L) :
    (stateAfter (x s)).trace = s.trace := by
  cases ends : x s with
  | ok a s' => exact h.ok ends
  | error e s' => exact h.error ends

theorem adds_dump [Channel C] (name : String) :
    Adds (dump name : Talk C L (Option Value)) fun _ => none := by
  have asked : Adds (askDump name : Talk C L Value) fun _ => none :=
    (adds_send _).bind fun _ => (adds_expect _).bind fun _ =>
      (adds_send _).bind fun _ => (adds_expect _).bind fun _ => adds_pure _
  simpa [dump] using adds_whenActive asked

end Session

variable [Channel C] [Launcher L C]

/-- Every call but a spawn does to the trace what its answer says. -/
theorem Call.run_trace {call : Call L} (spawning : call.spawns = false) (s : Session C L) :
    (call.run s).2.trace = call.record (call.run s).1 s.trace := by
  cases call with
  | spawn args apart => simp [spawns] at spawning
  | step modifier includeLocals =>
    have adds := Session.adds_step (C := C) (L := L) modifier includeLocals
    simp only [run]
    cases ends : s.step modifier includeLocals with
    | ok record s' =>
      rw [Answer.answering, adds.ok ends]
      cases record <;> rfl
    | error e s' => exact adds.error ends
  | locals =>
    rw [run, Answer.answering_snd]
    exact Session.adds_locals.trace_eq s
  | dump name =>
    rw [run, Answer.answering_snd]
    exact (Session.adds_dump name).trace_eq s
  | sendTargetLine line =>
    obtain ⟨success, target, sent, -⟩ := s.sendTargetLine_eq line
    rw [run, sent]
    rfl
  | sendTargetFile contents =>
    obtain ⟨success, target, sent, -⟩ := s.sendTargetFile_eq contents
    rw [run, sent]
    rfl
  | _ => rfl

-- ---------------------------------------------------------------------------
-- All calls since a spawn
-- ---------------------------------------------------------------------------

/-- The trace after some calls with their answers. -/
def replay (calls : List (Call L)) (answers : List Answer) (trace : History StepRecord) :
    History StepRecord :=
  (calls.zip answers).foldl (fun trace (call, answer) => call.record answer trace) trace

namespace Session

theorem after_trace {calls : List (Call L)} (spawnless : ∀ call ∈ calls, call.spawns = false)
    (s : Session C L) : (after calls s).trace = replay calls (answers calls s) s.trace := by
  induction calls generalizing s with
  | nil => rfl
  | cons call later ih =>
    obtain ⟨first, rest⟩ := List.forall_mem_cons.1 spawnless
    exact (ih rest _).trans (by rw [Call.run_trace first]; rfl)

theorem Launching.trace_eq {s : Session C L} {args : List String} {apart : Bool}
    {ends : EStateM.Result SessionError (Session C L) Unit} (h : Launching s args apart ends) :
    (stateAfter ends).trace = s.trace := by
  cases h <;> rfl

/-- A spawn that succeeds begins the trace anew, with the capacity that it had. -/
theorem trace_of_spawn {s s₀ : Session C L} {args : List String} {apart : Bool}
    (h : spawn args apart s = .ok () s₀) : s₀.trace = s.trace.clear := by
  obtain ⟨s₁, debugger, launched, -, rfl⟩ := launched_of_spawn h
  exact congrArg History.clear launched.trace_eq

/-- After a spawn that succeeded the trace is what the calls since then made of an empty one: their
records in order, and their changes of the capacity. Any other call leaves the trace as it is, a
step that yields no record included. -/
theorem trace_eq_replay {s s₀ : Session C L} {args : List String} {apart : Bool}
    (spawned : spawn args apart s = .ok () s₀) {calls : List (Call L)}
    (spawnless : ∀ call ∈ calls, call.spawns = false) :
    (after calls s₀).trace = replay calls (answers calls s₀) ⟨#[], s.trace.capacity⟩ ∧
    ∀ call : Call L, call.spawns = false → (∀ capacity, call ≠ .setTraceCapacity capacity) →
      (∀ record, (call.run (after calls s₀)).1 ≠ .stepped (.ok (some record))) →
      (call.run (after calls s₀)).2.trace = (after calls s₀).trace := by
  constructor
  · rw [after_trace spawnless, trace_of_spawn spawned]
    rfl
  · intro call other sized silent
    rw [Call.run_trace other, Call.record_of_quiet sized silent]

/-- A session with room for one record. Its debugger answers three steps, the second one without a
header. -/
def paced : Session Scripted Rehearsal :=
  .new "Main" { traceCapacity := some 1 } ⟨[terse [
    ⟨"step", "Step completed: \"thread=main\", Main.main(), line=4 bci=2\r\n4    i++;\r\nmain[1] ", false⟩,
    ⟨"locals", "No local variables\r\nmain[1] ", false⟩,
    ⟨"step up", "main[1] ", false⟩,
    ⟨"step", "Step completed: \"thread=main\", Main.main(), line=5 bci=5\r\n5    i++;\r\nmain[1] ", false⟩,
    ⟨"locals", "No local variables\r\nmain[1] ", false⟩]], []⟩

/-- A step that fails between two that do not, and one after the end. -/
def pace : List (Call Rehearsal) :=
  [.step .plain true, .step .up true, .setTraceCapacity none, .sendTargetLine "1",
    .step .plain true, .close, .step .plain true]

/-- Only the two steps that succeed are recorded. -/
theorem trace_of_pace :
    ∃ s₀, spawn [] false paced = .ok () s₀ ∧ (∀ call ∈ pace, call.spawns = false) ∧
      (after pace s₀).trace = replay pace (answers pace s₀) ⟨#[], some 1⟩ ∧
      (after pace s₀).trace.size = 2 := by
  obtain ⟨s₀, spawned⟩ : ∃ s₀, spawn [] false paced = .ok () s₀ := ⟨_, rfl⟩
  have spawnless : ∀ call ∈ pace, call.spawns = false := by simp [pace, Call.spawns]
  have since : after pace s₀ = after (.spawn [] false :: pace) paced := by
    simp only [after, Call.run, spawned, Answer.answering]
  have recorded : (after (.spawn [] false :: pace) paced).trace.size = 2 := by decide +kernel
  refine ⟨s₀, spawned, spawnless, (trace_eq_replay spawned spawnless).1, ?_⟩
  rw [since, recorded]

end Session
end Retrace
