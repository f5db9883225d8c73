import Retrace.Proofs.Debugger.Accepted
import Retrace.Proofs.Run.Opening
import Retrace.Proofs.Session.Returning

/-!
# Transcripts

The steps of a program as the debugger prints them, one answer with the stop and
one with the variables for each, and how the output ends. A step takes its
answers whole, so that the next one begins with nothing waiting.
-/

namespace Retrace.Printed

open Message

-- ---------------------------------------------------------------------------
-- Answers
-- ---------------------------------------------------------------------------

/-- The answer to a step. -/
def Stop.reply (s : Stop) : Reply :=
  ⟨"step in", .ofList s.text, false⟩

theorem Stop.reply_nonempty (s : Stop) : 1 ≤ s.reply.output.length := by
  have : s.text ≠ [] := by simp [text]
  simpa [reply, Nat.one_le_iff_ne_zero] using this

/-- The answer to a request for the variables. -/
def Frame.reply (f : Frame) : Reply :=
  ⟨"locals", .ofList f.text, false⟩

/-- How the output ends: with an answer that has no header, or with an exception, after which
anything may follow. -/
inductive Ending where
  | exit (output : String) (headless : stepHeader.find? output.toList = none)
  | exception (text rest : String) (exits : Bool) (nonempty : text ≠ "")
    (line : ∀ c ∈ text.toList, inLine c = true)

namespace Ending

def reply : Ending → Reply
  | exit output _ => ⟨"step in", output, true⟩
  | exception text rest exits _ _ =>
    ⟨"step in", "> \r\n" ++ ("Exception occurred:" ++ text ++ "\r\n") ++ rest, exits⟩

def isException : Ending → Bool
  | exit .. => false
  | exception .. => true

/-- The last words of a program that ends are no header. -/
theorem headless_exited :
    stepHeader.find? "\r\nThe application exited\r\n".toList = none := by
  decide +kernel

end Ending

end Retrace.Printed

namespace Retrace.Session

open Printed

variable {L : Type} {c : Scripted} {script : List Reply}

theorem pending_of_reply {stop : Stop} (h : c.Waits [] (stop.reply :: script)) (line : String) :
    (c.told line).buffer.pending = stop.text :=
  (h.told_pending line).trans String.toList_ofList

/-- A step that is taken whole adds its record, and then nothing waits. -/
theorem exists_step (s : Session Scripted L) {stop : Stop} {frame : Printed.Frame} {event : StepEvent}
    (h : c.Waits [] (stop.reply :: frame.reply :: script))
    (read : (c.told "step in").buffer.stop? =
      some (event, { (c.told "step in").buffer with pending := [] }))
    (divided : frame.Divided) (includeLocals : Bool) :
    ∃ (s' : Session Scripted L) (c' : Scripted), step .into includeLocals (s.withChannel c) =
        .ok (some (recordOf event frame.frame includeLocals)) (s'.withChannel c') ∧
      c'.Waits [] script ∧ s'.trace = s.trace.push (recordOf event frame.frame includeLocals) := by
  have waits : c.Waits [] (⟨StepModifier.into.command, .ofList stop.text, false⟩ ::
      ⟨"locals", .ofList (frame.answer.text Printed.prompt), false⟩ :: script) := by
    rw [frame.text_answer]
    exact h
  obtain ⟨c', stepped, -, later⟩ :=
    exists_recorded s waits read isPrompt_prompt divided.answer includeLocals
  rw [frame.frame_answer] at stepped
  exact ⟨_, c', stepped, later rfl, rfl⟩

/-- A step whose stop is not accepted fails. With a header it ends a trace as an exception does;
without one the time runs out. -/
theorem exists_refusal (s : Session Scripted L) {stop : Stop} (h : c.Waits [] (stop.reply :: script))
    (refused : ¬ stop.Accepted) (includeLocals : Bool) :
    ∃ (e : SessionError) (c' : Scripted), step .into includeLocals (s.withChannel c) =
        .error e (s.withChannel c') ∧
      Trace.ending? e = (Message.stepHeader.find? stop.text).map fun _ => true := by
  have pending := pending_of_reply h StepModifier.into.command
  rcases refused_of_not_accepted refused pending with missing | ⟨header, b, found, unlike⟩
  · have stays : (c.told "step in").ended = false := (h.told rfl "step in").live.2
    refine ⟨_, _, step_of_missing h.live h.accepts missing, ?_⟩
    rw [← pending, Buffer.take?_eq_none_iff.1 missing]
    simp [missingError, StepModifier.command, stays, Trace.ending?]
  · refine ⟨_, _, step_of_refused h.live h.accepts found unlike, ?_⟩
    obtain ⟨m, hm, -⟩ := Option.map_eq_some_iff.1 found
    rw [← pending, hm]
    rfl

/-- The last answer ends a trace. -/
theorem exists_ending (s : Session Scripted L) (ending : Ending)
    (h : c.Waits [] (ending.reply :: script)) (includeLocals : Bool) :
    ∃ (e : SessionError) (c' : Scripted), step .into includeLocals (s.withChannel c) =
        .error e (s.withChannel c') ∧ Trace.ending? e = some ending.isException := by
  cases ending with
  | exit output headless =>
    have pending : (c.told "step in").buffer.pending = output.toList := h.told_pending _
    have missing := Buffer.take?_eq_none_iff.2 (pending ▸ headless)
    have ended : (c.told "step in").ended = true := by
      simp [Scripted.told_ended, h.script_eq, Ending.reply]
    refine ⟨_, _, step_of_missing h.live h.accepts missing, ?_⟩
    simp [missingError, StepModifier.command, ended, Trace.ending?, Ending.isException]
  | exception text rest exits nonempty line =>
    have header : Message.IsHeader (Message.exceptionMarker.toList ++ (text.toList ++ "\r\n".toList)) := by
      rw [← List.append_assoc]
      exact ⟨_, text.toList, rfl, .exception, by simpa using nonempty, line⟩
    have pending : (c.told "step in").buffer.pending = "> \r\n".toList ++
        ((Message.exceptionMarker.toList ++ (text.toList ++ "\r\n".toList)) ++ rest.toList) := by
      rw [h.told_pending, List.nil_append]
      simp only [Ending.reply, String.toList_append, List.append_assoc]
      rfl
    have found := take?_of_isHeader calm_lead header pending
    have refused := isStop_exception (text.toList ++ "\r\n".toList)
    exact ⟨_, _, step_of_refused h.live h.accepts found (by rw [String.toList_ofList]; exact refused),
      rfl⟩

end Retrace.Session
