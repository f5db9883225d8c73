import Retrace.Proofs.Session.Dialogue

/-!
# The course of a dialogue

A dialogue with a rehearsed process, turn by turn: which lines were sent and what came in answer,
which patterns were found, and which one was missing in the end. The turns account for all that the
process was told and for all of its output; what no turn took is still waiting.
-/

namespace Retrace

-- ---------------------------------------------------------------------------
-- Lines that are sent
-- ---------------------------------------------------------------------------

namespace Scripted

variable {c : Scripted} {line : String}

/-- The process after a line that it does not accept. -/
def refusing (c : Scripted) (line : String) : Scripted :=
  { c with sent := c.sent ++ [line], script := c.script.tail }

/-- A line is accepted, or the process reads no lines any more, or its script has another one. -/
theorem send_cases (line : String) (c : Scripted) :
    (c.IsOpen ∧ c.Accepts line ∧ send line c = .ok () (c.told line)) ∨
    (¬ c.IsOpen ∧ send line c = .error (.io .exited) c) ∨
    (∃ reply, c.IsOpen ∧ c.script.head? = some reply ∧ reply.command ≠ line ∧
      send line c = .error (.io (.unscripted reply.command line)) (c.refusing line)) := by
  by_cases live : c.IsOpen
  · by_cases accepts : c.Accepts line
    · exact .inl ⟨live, accepts, send_of_accepts live accepts⟩
    · unfold Accepts at accepts
      push Not at accepts
      obtain ⟨reply, next, other⟩ := accepts
      obtain ⟨rest, script⟩ := List.head?_eq_some_iff.1 next
      refine .inr (.inr ⟨reply, live, next, other, ?_⟩)
      simp [send, live.1, live.2, script, other, refusing]
  · refine .inr (.inl ⟨live, ?_⟩)
    have gone : (c.closed || c.ended) = true := by
      unfold IsOpen at live
      cases hc : c.closed <;> simp_all
    simp [send, gone]

end Scripted

theorem Session.withDebugger_withChannel {L α : Type} {x : Exchange Scripted α} {c c' : Scripted}
    (result : Except SessionError α) (s : Session Scripted L) (h : x c = ending result c') :
    withDebugger x (s.withChannel c) = ending result (s.withChannel c') := by
  cases result <;> simp [withDebugger, h, ending, withChannel]

-- ---------------------------------------------------------------------------
-- Turns
-- ---------------------------------------------------------------------------

/-- One turn of a dialogue with a rehearsed process. -/
inductive Turn where
  /-- The line was sent, and this is the output that it brought. -/
  | said (line : String) (answer : List Char)
  /-- The pattern was found in the output. -/
  | heard (p : Pattern) (found : Expectation)
  /-- The pattern was not there. -/
  | missed (p : Pattern)

namespace Turn

/-- The line that was sent. -/
@[simp] def line? : Turn → Option String
  | said line _ => some line
  | _ => none

/-- The output that came. -/
@[simp] def arrived : Turn → List Char
  | said _ answer => answer
  | _ => []

/-- The output that was taken. -/
@[simp] def taken : Turn → List Char
  | heard _ found => found.before.toList ++ found.matched.toList
  | _ => []

end Turn

namespace Dialogue

variable {L α : Type} {limit : Duration} {d : Dialogue α} {c c' : Scripted} {turns : List Turn}
  {result : Except SessionError α}

/-- The turns of a dialogue with a rehearsed process, its result, and the process after it. -/
inductive Course (limit : Duration) :
    Dialogue α → Scripted → List Turn → Except SessionError α → Scripted → Prop where
  | done {a : α} {c : Scripted} : Course limit (.done a) c [] (.ok a) c
  | reject {output : String} {c : Scripted} :
    Course limit (.reject output) c [] (.error (.hostError output)) c
  | said {line : String} {next : Dialogue α} {c c' : Scripted} {turns : List Turn}
      {result : Except SessionError α} (live : c.IsOpen) (accepts : c.Accepts line)
      (later : Course limit next (c.told line) turns result c') :
    Course limit (.say line next) c (.said line c.answer :: turns) result c'
  | shut {line : String} {next : Dialogue α} {c : Scripted} (gone : ¬ c.IsOpen) :
    Course limit (.say line next) c [] (.error (.io .exited)) c
  | refused {line : String} {next : Dialogue α} {c : Scripted} {reply : Reply} (live : c.IsOpen)
      (script : c.script.head? = some reply) (other : reply.command ≠ line) :
    Course limit (.say line next) c [.said line []]
      (.error (.io (.unscripted reply.command line))) (c.refusing line)
  | heard {p : Pattern} {next : Expectation → Dialogue α} {c c' : Scripted} {found : Expectation}
      {b : Buffer} {turns : List Turn} {result : Except SessionError α}
      (got : c.buffer.take? p = some (found, b))
      (later : Course limit (next found) (c.leaving b) turns result c') :
    Course limit (.hear p next) c (.heard p found :: turns) result c'
  | ended {p : Pattern} {next : Expectation → Dialogue α} {c : Scripted}
      (missing : c.buffer.take? p = none) (finished : c.ended = true) :
    Course limit (.hear p next) c [.missed p] (.error .hostExited) c
  | late {p : Pattern} {next : Expectation → Dialogue α} {c : Scripted}
      (missing : c.buffer.take? p = none) (running : c.ended = false) :
    Course limit (.hear p next) c [.missed p] (.error (.timeout p.source limit)) c
  | looked {next : Bool → Dialogue α} {c c' : Scripted} {turns : List Turn}
      {result : Except SessionError α}
      (later : Course limit (next (!c.closed && !c.ended)) c turns result c') :
    Course limit (.look next) c turns result c'

/-- Every dialogue takes its course. -/
theorem exists_course (d : Dialogue α) (s : Session Scripted L) (c : Scripted) :
    ∃ turns result c', d.Course s.config.timeout c turns result c' ∧
      d.run (s.withChannel c) = ending result (s.withChannel c') := by
  induction d generalizing c with
  | done a => exact ⟨[], .ok a, c, .done, rfl⟩
  | reject output => exact ⟨[], .error (.hostError output), c, .reject, rfl⟩
  | say line next ih =>
    rcases Scripted.send_cases line c with
      ⟨live, accepts, sent⟩ | ⟨gone, sent⟩ | ⟨reply, live, script, other, sent⟩
    · obtain ⟨turns, result, c', later, same⟩ := ih (c.told line)
      have told := Session.withDebugger_withChannel (.ok ()) s sent
      exact ⟨_, result, c', .said live accepts later, (bind_of_ok told).trans same⟩
    · have failed := Session.withDebugger_withChannel (.error _) s sent
      exact ⟨_, _, c, .shut gone, bind_of_error failed⟩
    · have failed := Session.withDebugger_withChannel (.error _) s sent
      exact ⟨_, _, _, .refused live script other, bind_of_error failed⟩
  | hear p next ih =>
    cases taken : c.buffer.take? p with
    | some piece =>
      obtain ⟨found, b⟩ := piece
      obtain ⟨turns, result, c', later, same⟩ := ih found (c.leaving b)
      have got := Session.expect_eq_ok_iff (s := s).2 ⟨b, taken, rfl⟩
      exact ⟨_, result, c', .heard taken later, (bind_of_ok got).trans same⟩
    | none =>
      have missing := Session.expect_of_missing (s := s) taken
      cases ended : c.ended with
      | true =>
        rw [Session.missingError, if_pos ended] at missing
        exact ⟨_, _, c, .ended taken ended, bind_of_error missing⟩
      | false =>
        rw [Session.missingError, if_neg (by simp [ended])] at missing
        exact ⟨_, _, c, .late taken ended, bind_of_error missing⟩
  | look next ih =>
    obtain ⟨turns, result, c', later, same⟩ := ih (!c.closed && !c.ended) c
    exact ⟨turns, result, c', .looked later, same⟩

-- ---------------------------------------------------------------------------
-- What every course keeps
-- ---------------------------------------------------------------------------

theorem Course.closed_eq (h : d.Course limit c turns result c') : c'.closed = c.closed := by
  induction h with
  | said live accepts later ih => exact ih
  | heard got later ih => exact ih
  | looked later ih => exact ih
  | _ => rfl

/-- The lines that were said are the lines that the process was sent. -/
theorem Course.sent_eq (h : d.Course limit c turns result c') :
    c'.sent = c.sent ++ turns.filterMap Turn.line? := by
  induction h with
  | said live accepts later ih => simp [ih]
  | heard got later ih => simpa [List.filterMap_cons] using ih
  | looked later ih => exact ih
  | refused live script other => simp [Scripted.refusing]
  | _ => simp

/-- What waited before and what arrived is what was taken and what still waits. -/
theorem Course.text_eq (h : d.Course limit c turns result c') :
    c.buffer.pending ++ turns.flatMap Turn.arrived =
      turns.flatMap Turn.taken ++ c'.buffer.pending := by
  induction h with
  | said live accepts later ih => simpa using ih
  | heard got later ih =>
    rw [Scripted.leaving_buffer] at ih
    simp [Buffer.text_of_take? got, ih]
  | looked later ih => exact ih
  | refused live script other => simp [Scripted.refusing]
  | _ => simp

/-- A dialogue that meets the end of the output leaves a process that has ended. -/
theorem Course.ended_of_hostExited (h : d.Course limit c turns result c') :
    result = .error .hostExited → c'.ended = true := by
  induction h with
  | said live accepts later ih => exact ih
  | heard got later ih => exact ih
  | looked later ih => exact ih
  | ended missing finished => exact fun _ => finished
  | _ => simp

/-- A dialogue that runs out of time has missed a pattern just then. The process has not ended. -/
theorem Course.missed_of_timeout {source : String} {span : Duration}
    (h : d.Course limit c turns result c') :
    result = .error (.timeout source span) → c'.ended = false ∧
      ∃ earlier p, turns = earlier ++ [.missed p] ∧ p.source = source ∧
        c'.buffer.take? p = none := by
  induction h with
  | said live accepts later ih =>
    intro late
    obtain ⟨running, earlier, p, rfl, same, missing⟩ := ih late
    exact ⟨running, _ :: earlier, p, rfl, same, missing⟩
  | heard got later ih =>
    intro late
    obtain ⟨running, earlier, p, rfl, same, missing⟩ := ih late
    exact ⟨running, _ :: earlier, p, rfl, same, missing⟩
  | looked later ih => exact ih
  | @late p next c missing running =>
    intro late
    simp only [Except.error.injEq, SessionError.timeout.injEq] at late
    exact ⟨running, [], p, rfl, late.1, missing⟩
  | _ => simp

end Dialogue
end Retrace
