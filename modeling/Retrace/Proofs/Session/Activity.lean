import Retrace.Proofs.Session.Ownership

/-!
# When a session is active

Whether a session is active is read off its debugger each time, never stored. Still it follows
simple laws: a session becomes active by a spawn that succeeds and by no other call; while it is not
active, the calls for its debugger do nothing; and a call that fails tells by its error whether the
session is active after it.
-/

namespace Retrace

variable {C L α β : Type}

-- ---------------------------------------------------------------------------
-- Becoming active
-- ---------------------------------------------------------------------------

section
variable [Channel C] [Launcher L C] {call : Call L} {s : Session C L}

/-- No call but a spawn makes a session active. -/
theorem Call.inactive_run (spawning : call.spawns = false) (inactive : s.isActive = false) :
    (call.run s).2.isActive = false := by
  cases exchange : call.idle? with
  | some idle =>
    rw [run_of_inactive exchange inactive]
    exact inactive
  | none =>
    cases call with
    | spawn args apart => simp [spawns] at spawning
    | step | locals | dump => simp [idle?] at exchange
    | sendTargetLine line =>
      obtain ⟨success, target, sent, -⟩ := s.sendTargetLine_eq line
      rw [run, sent]
      exact inactive
    | sendTargetFile contents =>
      obtain ⟨success, target, sent, -⟩ := s.sendTargetFile_eq contents
      rw [run, sent]
      exact inactive
    | close => exact (Session.empty_close s).inactive
    | _ => exact inactive

/-- The call that makes a session active is a spawn that succeeds. -/
theorem Call.spawned_of_active (inactive : s.isActive = false)
    (active : (call.run s).2.isActive = true) :
    ∃ args apart, call = .spawn args apart ∧ (call.run s).1 = .started (.ok ()) := by
  cases spawning : call.spawns with
  | false => simp [inactive_run spawning inactive] at active
  | true =>
    obtain ⟨args, apart, rfl⟩ := exists_of_spawns spawning
    refine ⟨args, apart, rfl, ?_⟩
    rw [run] at active ⊢
    cases spawned : s.spawn args apart with
    | ok a s' => rfl
    | error e s' =>
      have empty := Session.empty_of_spawn spawned
      simp [spawned, Answer.answering, empty.inactive] at active

theorem Session.inactive_after {calls : List (Call L)}
    (spawnless : ∀ call ∈ calls, call.spawns = false) (inactive : s.isActive = false) :
    (after calls s).isActive = false :=
  after_keeps (·.isActive = false) (·.spawns = false) (fun _ _ => Call.inactive_run) spawnless
    inactive

end

-- ---------------------------------------------------------------------------
-- Calls for the debugger
-- ---------------------------------------------------------------------------

/-- The exchange of a call with the debugger of an active session, and its answer if it succeeds. -/
def Call.dialogue? : Call L → Option (Dialogue Answer)
  | .step modifier includeLocals =>
    some ((Dialogue.step modifier includeLocals).bind fun record => .done (.stepped (.ok (some record))))
  | .locals => some (Dialogue.locals.bind fun frame => .done (.frame (.ok (some frame))))
  | .dump name => some ((Dialogue.dump name).bind fun value => .done (.value (.ok (some value))))
  | _ => none

/-- A session that is not active answers such a call without an error. -/
theorem Call.idle_of_dialogue {call : Call L} {d : Dialogue Answer}
    (exchange : call.dialogue? = some d) : ∃ idle, call.idle? = some idle ∧ idle.error? = none := by
  cases call with
  | step modifier includeLocals => exact ⟨_, rfl, rfl⟩
  | locals => exact ⟨_, rfl, rfl⟩
  | dump name => exact ⟨_, rfl, rfl⟩
  | _ => simp [dialogue?] at exchange

section
variable [Channel C] {s : Session C L}

theorem Dialogue.run_answer {d : Dialogue α} {s' : Session C L} {result : Except SessionError α}
    (ends : d.run s = ending result s') (answer : α → β) :
    (d.bind fun a => .done (answer a)).run s = ending (result.map answer) s' := by
  rw [run_bind]
  cases result with
  | ok a => exact bind_of_ok ends
  | error e => exact bind_of_error ends

/-- What an active session answers to an exchange `x` that ends as the dialogue `d` does. -/
theorem Answer.answering_whenActive {d : Dialogue α} {x : Talk C L α}
    {answer : Except SessionError (Option α) → Answer}
    (errors : ∀ result, (answer result).error? = failure? result) (active : s.isActive = true)
    (agrees : ∀ result debugger, d.run s = ending result { s with debugger } →
      ∃ s', x s = ending result s' ∧ s'.debugger = debugger) :
    let answered := answering answer (Session.whenActive x s)
    ∃ result debugger,
      (d.bind fun a => .done (answer (.ok (some a)))).run s = ending result { s with debugger } ∧
      answered.2.debugger = debugger ∧ answered.1.error? = failure? result ∧
      ∀ a, result = .ok a → answered.1 = a := by
  obtain ⟨result, debugger, ends, -⟩ := d.run_ending s
  obtain ⟨s', same, held⟩ := agrees result debugger ends
  refine ⟨_, debugger, Dialogue.run_answer ends _, ?_⟩
  rw [Session.whenActive_of_active active]
  cases result with
  | ok a =>
    rw [bind_of_ok same]
    exact ⟨held, errors _, fun _ same => Except.ok.inj same⟩
  | error e =>
    rw [bind_of_error same]
    exact ⟨held, errors _, fun _ other => by cases other⟩

/-- A call for the debugger of an active session answers what its exchange answers, or the error of
its exchange, and leaves the debugger as the exchange does. -/
theorem Call.run_of_active [Launcher L C] {call : Call L} {d : Dialogue Answer}
    (exchange : call.dialogue? = some d) (active : s.isActive = true) :
    ∃ result debugger, d.run s = ending result { s with debugger } ∧
      (call.run s).2.debugger = debugger ∧ (call.run s).1.error? = failure? result ∧
      ∀ answer, result = .ok answer → (call.run s).1 = answer := by
  cases call with
  | step modifier includeLocals =>
    obtain rfl := Option.some.inj exchange
    refine Answer.answering_whenActive (fun _ => rfl) active fun result debugger ends => ?_
    rw [Dialogue.run_step]
    cases result with
    | ok record => exact ⟨_, bind_of_ok ends, rfl⟩
    | error e => exact ⟨_, bind_of_error ends, rfl⟩
  | locals =>
    obtain rfl := Option.some.inj exchange
    refine Answer.answering_whenActive (fun _ => rfl) active fun result debugger ends => ?_
    rw [Dialogue.run_locals] at ends
    exact ⟨_, ends, rfl⟩
  | dump name =>
    obtain rfl := Option.some.inj exchange
    refine Answer.answering_whenActive (fun _ => rfl) active fun result debugger ends => ?_
    exact ⟨_, ends, rfl⟩
  | _ => simp [dialogue?] at exchange

end

-- ---------------------------------------------------------------------------
-- What an error tells
-- ---------------------------------------------------------------------------

theorem failure?_eq_some_iff {ε : Type} {result : Except ε α} {e : ε} :
    failure? result = some e ↔ result = .error e := by
  cases result <;> simp [failure?]

namespace Session

variable [Launcher L Scripted] {call : Call L} {d : Dialogue Answer} {s : Session Scripted L}

/-- A call for the debugger of an active session takes the course of its exchange. -/
theorem course_of_active (exchange : call.dialogue? = some d) (active : s.isActive = true) :
    ∃ c turns result c', c.IsOpen ∧ s.debugger = some c ∧ (call.run s).2.debugger = some c' ∧
      d.Course s.config.timeout c turns result c' ∧ (call.run s).1.error? = failure? result := by
  obtain ⟨c, held, live⟩ := isOpen_of_isActive active
  obtain ⟨turns, result, c', course, ends⟩ := d.exists_course s c
  obtain ⟨result', debugger, ends', after, answer, -⟩ := Call.run_of_active exchange active
  -- Both say how the exchange ends, one by turns and one by what the call makes of it.
  rw [withChannel_eq held, ends'] at ends
  obtain ⟨rfl, same⟩ : result' = result ∧ debugger = some c' := by
    cases result <;> cases result' <;> simp_all [ending, withChannel]
  exact ⟨c, turns, result', c', live, held, after.trans same, course, answer⟩

/-- Only an active session can fail at a call for its debugger. -/
theorem active_of_error {e : SessionError} (exchange : call.dialogue? = some d)
    (failed : (call.run s).1.error? = some e) : s.isActive = true := by
  by_contra inactive
  obtain ⟨idle, silent, harmless⟩ := Call.idle_of_dialogue exchange
  rw [Call.run_of_inactive silent (Bool.not_eq_true _ ▸ inactive), harmless] at failed
  cases failed

/-- A call for the debugger that meets the end of the output leaves an inactive session. -/
theorem inactive_of_hostExited (exchange : call.dialogue? = some d)
    (failed : (call.run s).1.error? = some .hostExited) : (call.run s).2.isActive = false := by
  obtain ⟨c, turns, result, c', -, -, held, course, answer⟩ :=
    course_of_active exchange (active_of_error exchange failed)
  have finished := course.ended_of_hostExited (failure?_eq_some_iff.1 (answer.symm.trans failed))
  simp [isActive, held, Channel.ended, finished]

/-- The output that a call did not match in time, out of what waited for it and what came in its
course: all of that but the pieces that were matched. -/
structure Pending (s s' : Session Scripted L) (d : Dialogue Answer) (source : String)
    (span : Duration) (c c' : Scripted) (turns : List Turn) (p : Pattern) : Prop where
  before : s.debugger = some c
  after : s'.debugger = some c'
  course : d.Course s.config.timeout c (turns ++ [.missed p]) (.error (.timeout source span)) c'
  source_eq : p.source = source
  missing : p.find? c'.buffer.pending = none
  text_eq : c.buffer.pending ++ turns.flatMap Turn.arrived =
    turns.flatMap Turn.taken ++ c'.buffer.pending

/-- A call for the debugger that runs out of time leaves an active session, where all that it did not
match still waits. -/
theorem active_of_timeout {source : String} {span : Duration} (exchange : call.dialogue? = some d)
    (failed : (call.run s).1.error? = some (.timeout source span)) :
    (call.run s).2.isActive = true ∧
      ∃ c c' turns p, Pending s (call.run s).2 d source span c c' turns p := by
  obtain ⟨c, turns, result, c', live, before, after, course, answer⟩ :=
    course_of_active exchange (active_of_error exchange failed)
  obtain rfl := failure?_eq_some_iff.1 (answer.symm.trans failed)
  obtain ⟨running, earlier, p, rfl, same, missing⟩ := course.missed_of_timeout rfl
  refine ⟨?_, c, c', earlier, p, before, after, course, same, Option.map_eq_none_iff.1 missing, ?_⟩
  · simp [isActive, after, Channel.ended, Channel.closed, running, course.closed_eq, live.1]
  · simpa using course.text_eq

/-- Whatever came before: the call that makes a session active is a spawn that succeeds; a session
that is not active stays so until a spawn, and answers nothing to the calls for its debugger, which
leave it as it is; such a call that meets the end of the output leaves an inactive session, and one
that runs out of time an active session where the output that it did not match still waits. -/
theorem activity_of_calls (s : Session Scripted L) :
    (∀ call : Call L, s.isActive = false → (call.run s).2.isActive = true →
      ∃ args apart, call = .spawn args apart ∧ (call.run s).1 = .started (.ok ())) ∧
    (s.isActive = false → ∀ calls : List (Call L), (∀ call ∈ calls, call.spawns = false) →
      (after calls s).isActive = false ∧ ∀ (call : Call L) idle, call.idle? = some idle →
        call.run (after calls s) = (idle, after calls s)) ∧
    ∀ (call : Call L) d, call.dialogue? = some d →
      ((call.run s).1.error? = some .hostExited → (call.run s).2.isActive = false) ∧
      ∀ source span, (call.run s).1.error? = some (.timeout source span) →
        (call.run s).2.isActive = true ∧
          ∃ c c' turns p, Pending s (call.run s).2 d source span c c' turns p := by
  refine ⟨fun call => Call.spawned_of_active, fun inactive calls spawnless => ?_, fun call d exchange =>
    ⟨inactive_of_hostExited exchange, fun source span => active_of_timeout exchange⟩⟩
  have still := inactive_after spawnless inactive
  exact ⟨still, fun call idle exchange => Call.run_of_inactive exchange still⟩

/-- A session whose debugger says nothing to a step, and ends at the next one. -/
def hushed : Session Scripted Rehearsal :=
  after [.spawn [] false]
    (.new "Main" {} ⟨[terse [⟨"step", "", false⟩, ⟨"step in", "", true⟩]], []⟩)

/-- The first step runs out of time and the second one meets the end. After that the session answers
nothing. -/
theorem activity_of_hushed :
    ∃ s₁ s₂, ((Call.step .plain true).run hushed).2 = s₁ ∧ s₁.isActive = true ∧
      ((Call.step .into true).run s₁).2 = s₂ ∧ s₂.isActive = false ∧
      (Call.dump "i").run s₂ = (.value (.ok none), s₂) := by
  have late : ((Call.step .plain true).run hushed).1.error? =
      some (.timeout Message.stepHeader.source (.ofSeconds 30)) := by decide +kernel
  have finished : ((Call.step .into true).run ((Call.step .plain true).run hushed).2).1.error? =
      some .hostExited := by decide +kernel
  obtain ⟨-, -, first⟩ := activity_of_calls hushed
  have active := ((first (.step .plain true) _ rfl).2 _ _ late).1
  generalize ((Call.step .plain true).run hushed).2 = s₁ at active finished ⊢
  obtain ⟨-, -, second⟩ := activity_of_calls s₁
  have inactive := (second (.step .into true) _ rfl).1 finished
  generalize same : ((Call.step .into true).run s₁).2 = s₂ at inactive
  obtain ⟨-, idle, -⟩ := activity_of_calls s₂
  have silent := (idle inactive [] (by simp)).2 (.dump "i") _ rfl
  exact ⟨s₁, s₂, rfl, active, same, inactive, silent⟩

end Session
end Retrace
