import Retrace.Proofs.Session.Recording

/-!
# Records of an earlier session

A spawn that succeeds begins the trace anew. One that fails does not touch it, wherever it fails: the
records of the session before are still there, and stay until a spawn succeeds.
-/

namespace Retrace

/-- The answer of a spawn that succeeded. -/
def Answer.begins : Answer → Bool
  | started (.ok _) => true
  | _ => false

namespace Session

variable {C L : Type} [Channel C] [Launcher L C] {s s' : Session C L} {args : List String}
  {apart : Bool} {e : SessionError}

/-- A spawn that fails leaves the trace as it is. -/
theorem trace_of_failed_spawn (h : spawn args apart s = .error e s') : s'.trace = s.trace := by
  rcases spawn_cases args apart s with
    ⟨e, s₁, launched, ends⟩ | ⟨s₁, debugger, launched, -, ⟨-, ends⟩ | ⟨e, -, ends⟩⟩
  · obtain ⟨-, rfl⟩ := EStateM.Result.error.inj (ends.symm.trans h)
    exact launched.trace_eq
  · simp [ends] at h
  · obtain ⟨-, rfl⟩ := EStateM.Result.error.inj (ends.symm.trans h)
    exact launched.trace_eq

end Session

section
variable {C L : Type} [Channel C] [Launcher L C]

/-- Every call but a spawn that succeeds does to the trace what its answer says. -/
theorem Call.run_trace_of_unbegun {call : Call L} {s : Session C L}
    (unbegun : (call.run s).1.begins = false) :
    (call.run s).2.trace = call.record (call.run s).1 s.trace := by
  cases spawning : call.spawns with
  | false => exact run_trace spawning s
  | true =>
    obtain ⟨args, apart, rfl⟩ := exists_of_spawns spawning
    rw [run] at unbegun ⊢
    cases spawned : s.spawn args apart with
    | ok a s' => simp [spawned, Answer.answering, Answer.begins] at unbegun
    | error e s' => exact Session.trace_of_failed_spawn spawned

/-- Until a spawn succeeds, the trace is what the calls make of the one before. -/
theorem Session.after_trace_of_unbegun {calls : List (Call L)} {s : Session C L}
    (unbegun : ∀ answer ∈ answers calls s, answer.begins = false) :
    (after calls s).trace = replay calls (answers calls s) s.trace := by
  induction calls generalizing s with
  | nil => rfl
  | cons call later ih =>
    obtain ⟨first, rest⟩ := List.forall_mem_cons.1 unbegun
    exact (ih rest).trans (by rw [Call.run_trace_of_unbegun first]; rfl)

end

namespace Session

variable {C L : Type} [Channel C] [Launcher L C]

/-- The trace is empty after a spawn if the spawn succeeded or the trace was empty before. If it
failed, the trace is the one before; and what was recorded since a spawn that succeeded stays
through all calls, spawns that fail included, until another spawn succeeds. -/
theorem trace_isEmpty_of_spawn (s : Session C L) (args : List String) (apart : Bool) :
    ((stateAfter (spawn args apart s)).trace.isEmpty = true ↔
      (∃ s', spawn args apart s = .ok () s') ∨ s.trace.isEmpty = true) ∧
    (∀ e s', spawn args apart s = .error e s' → s'.trace = s.trace) ∧
    ∀ s', spawn args apart s = .ok () s' → ∀ calls : List (Call L),
      (∀ answer ∈ answers calls s', answer.begins = false) →
      (after calls s').trace = replay calls (answers calls s') ⟨#[], s.trace.capacity⟩ := by
  refine ⟨?_, fun e s' => trace_of_failed_spawn, fun s' spawned calls unbegun => ?_⟩
  · cases spawned : spawn args apart s with
    | ok a s' => simp [stateAfter, trace_of_spawn spawned, History.isEmpty, History.clear]
    | error e s' => simp [stateAfter, trace_of_failed_spawn spawned]
  · rw [after_trace_of_unbegun unbegun, trace_of_spawn spawned]
    rfl

/-- A session with two debuggers. The first one answers a step, the second one says nothing. -/
def relaunched : Session Scripted Rehearsal :=
  .new "Main" {} ⟨[terse [
    ⟨"step", "Step completed: \"thread=main\", Main.main(), line=4 bci=2\r\n4    i++;\r\nmain[1] ", false⟩,
    ⟨"locals", "No local variables\r\nmain[1] ", false⟩], {}], []⟩

/-- A step, and then two spawns. One fails in the handshake, and for the other there is no process
left. -/
def relaunches : List (Call Rehearsal) :=
  [.step .plain true, .spawn [] false, .spawn [] true]

/-- The record of the step is there after both spawns. -/
theorem trace_of_relaunches :
    ∃ s', spawn [] false relaunched = .ok () s' ∧
      (∀ answer ∈ answers relaunches s', answer.begins = false) ∧
      (after relaunches s').trace = replay relaunches (answers relaunches s') ⟨#[], some 10000⟩ ∧
      (after relaunches s').trace.size = 1 := by
  have evaluated : (answers (.spawn [] false :: relaunches) relaunched).map Answer.begins =
        [true, false, false, false] ∧
      (after (.spawn [] false :: relaunches) relaunched).trace.size = 1 := by
    decide +kernel
  simp only [answers, after, Call.run] at evaluated
  cases spawned : spawn [] false relaunched with
  | error e s' => simp [spawned, Answer.answering, Answer.begins] at evaluated
  | ok a s' =>
    obtain ⟨begun, recorded⟩ := evaluated
    rw [spawned, List.map_cons, List.cons.injEq] at begun
    rw [spawned] at recorded
    have unbegun : ∀ answer ∈ answers relaunches s', answer.begins = false := by
      intro answer given
      have told : answer.begins ∈ [false, false, false] := begun.2 ▸ List.mem_map_of_mem given
      simpa using told
    obtain ⟨-, -, kept⟩ := trace_isEmpty_of_spawn relaunched [] false
    exact ⟨s', rfl, unbegun, kept s' spawned relaunches unbegun, recorded⟩

end Session
end Retrace
