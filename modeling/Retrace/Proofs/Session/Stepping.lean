import Retrace.Proofs.Session.Frame
import Retrace.Run.Trace

/-!
# Steps of a session

When a step with a rehearsed debugger succeeds, when it ends the trace, and what
any step adds to the trace, whether or not it went well.
-/

namespace Retrace

-- ---------------------------------------------------------------------------
-- What waits
-- ---------------------------------------------------------------------------

/-- The event that the output announces, and the output after it: there is a header of a stop, and a
prompt behind it. -/
def Buffer.stop? (b : Buffer) : Option (StepEvent × Buffer) := do
  let (header, b) ← b.take? Message.stepHeader
  if Session.isStop header.matched.toList then
    let (listing, b) ← b.take? Message.prompt
    return ((StepEvent.ofOutput? header.matched.toList listing.before.toList
      (Session.announcesEntry header.before.toList)).getD {}, b)
  else none

theorem Buffer.stop?_eq_some_iff {b b' : Buffer} {event : StepEvent} :
    b.stop? = some (event, b') ↔
      ∃ header b₁ listing, b.take? Message.stepHeader = some (header, b₁) ∧
        Session.isStop header.matched.toList = true ∧
        b₁.take? Message.prompt = some (listing, b') ∧
        event = (StepEvent.ofOutput? header.matched.toList listing.before.toList
          (Session.announcesEntry header.before.toList)).getD {} := by
  constructor
  · intro h
    obtain ⟨⟨header, b₁⟩, found, h⟩ := Option.bind_eq_some_iff.1 h
    dsimp only at h
    split at h
    · next accepted =>
      obtain ⟨⟨listing, b₂⟩, prompt, h⟩ := Option.bind_eq_some_iff.1 h
      obtain ⟨rfl, rfl⟩ := Prod.mk.inj (Option.some.inj h)
      exact ⟨header, b₁, listing, found, accepted, prompt, rfl⟩
    · simp at h
  · rintro ⟨header, b₁, listing, found, accepted, prompt, rfl⟩
    simp [stop?, found, accepted, prompt]

namespace Session

-- ---------------------------------------------------------------------------
-- Steps that succeed
-- ---------------------------------------------------------------------------

variable {L : Type} {s s' : Session Scripted L} {c : Scripted} {modifier : StepModifier}
  {includeLocals : Bool}

theorem takeStep_eq_ok_iff {record : StepRecord} :
    takeStep modifier includeLocals (s.withChannel c) = .ok record s' ↔
      ∃ event b answer s₁, c.IsOpen ∧ c.Accepts modifier.command ∧
        (c.told modifier.command).buffer.stop? = some (event, b) ∧
        locals (s.withChannel ((c.told modifier.command).leaving b)) = .ok answer s₁ ∧
        record = recordOf event (answer.getD {}) includeLocals ∧
        s' = { s₁ with trace := s₁.trace.push record } := by
  simp only [Buffer.stop?_eq_some_iff]
  constructor
  · intro h
    obtain ⟨live, accepts, h⟩ := send_bind_eq_ok_iff.1 h
    obtain ⟨header, b₁, taken, h⟩ := expect_bind_eq_ok_iff.1 h
    split at h
    · next accepted =>
      obtain ⟨listing, b₂, prompt, h⟩ := expect_bind_eq_ok_iff.1 h
      obtain ⟨answer, s₁, asked, h⟩ := bind_eq_ok.1 h
      obtain ⟨⟨⟩, _, pushed, h⟩ := bind_eq_ok.1 h
      obtain ⟨-, rfl⟩ := EStateM.Result.ok.inj pushed
      obtain ⟨rfl, rfl⟩ := EStateM.Result.ok.inj h
      exact ⟨_, b₂, answer, s₁, live, accepts, ⟨header, b₁, listing, taken, accepted, prompt, rfl⟩,
        asked, rfl, rfl⟩
    · cases h
  · rintro ⟨_, b₂, answer, s₁, live, accepts, ⟨header, b₁, listing, taken, accepted, prompt, rfl⟩,
      asked, rfl, rfl⟩
    refine send_bind_eq_ok_iff.2 ⟨live, accepts, ?_⟩
    refine expect_bind_eq_ok_iff.2 ⟨header, b₁, taken, ?_⟩
    rw [if_pos accepted]
    refine expect_bind_eq_ok_iff.2 ⟨listing, b₂, prompt, ?_⟩
    exact bind_eq_ok.2 ⟨answer, s₁, asked, rfl⟩

theorem step_eq_ok_iff {record : StepRecord} :
    step modifier includeLocals (s.withChannel c) = .ok (some record) s' ↔
      takeStep modifier includeLocals (s.withChannel c) = .ok record s' := by
  rw [step, whenActive_eq_ok_iff]
  constructor
  · rintro (⟨-, nothing, -⟩ | ⟨-, _, ⟨⟩, taken⟩)
    · cases nothing
    · exact taken
  · intro taken
    obtain ⟨_, _, _, _, live, -⟩ := takeStep_eq_ok_iff.1 taken
    exact .inr ⟨live, record, rfl, taken⟩

-- ---------------------------------------------------------------------------
-- Steps that fail
-- ---------------------------------------------------------------------------

theorem step_of_takeStep_error {e : SessionError} (live : c.IsOpen)
    (h : takeStep modifier includeLocals (s.withChannel c) = .error e s') :
    step modifier includeLocals (s.withChannel c) = .error e s' := by
  rw [step, whenActive_of_active (isActive_withChannel.2 live), bind_of_error h]

/-- What is said when a match is missing: the output is over, or it did not arrive in time. -/
def missingError (s : Session Scripted L) (c : Scripted) (p : Pattern) : SessionError :=
  if c.ended then .hostExited else .timeout p.source s.config.timeout

theorem expect_of_missing {p : Pattern} (missing : c.buffer.take? p = none) :
    expect p (s.withChannel c) = .error (missingError s c p) (s.withChannel c) := by
  cases ended : c.ended <;>
    simp [expect, withDebugger, Channel.expect, Scripted.expect, missing, ended, withChannel,
      missingError]

/-- A step fails if there is no header in the output. -/
theorem step_of_missing (live : c.IsOpen) (accepts : c.Accepts modifier.command)
    (missing : (c.told modifier.command).buffer.take? Message.stepHeader = none) :
    step modifier includeLocals (s.withChannel c) =
      .error (missingError s (c.told modifier.command) Message.stepHeader)
        (s.withChannel (c.told modifier.command)) := by
  refine step_of_takeStep_error live ?_
  rw [takeStep, bind_of_ok (send_eq_ok_iff.2 ⟨live, accepts, rfl⟩),
    bind_of_error (expect_of_missing missing)]

/-- A step fails if the header is not one of a stop. -/
theorem step_of_refused {header : Expectation} {b : Buffer} (live : c.IsOpen)
    (accepts : c.Accepts modifier.command)
    (found : (c.told modifier.command).buffer.take? Message.stepHeader = some (header, b))
    (refused : Session.isStop header.matched.toList = false) :
    step modifier includeLocals (s.withChannel c) =
      .error (.hostError header.matched)
        (s.withChannel ((c.told modifier.command).leaving b)) := by
  refine step_of_takeStep_error live ?_
  rw [takeStep, bind_of_ok (send_eq_ok_iff.2 ⟨live, accepts, rfl⟩),
    bind_of_ok (expect_eq_ok_iff.2 ⟨b, found, rfl⟩)]
  simp only [refused]
  rfl

-- ---------------------------------------------------------------------------
-- What is added to the trace
-- ---------------------------------------------------------------------------

variable {C : Type} {α β : Type}

/-- Which record an exchange adds to the trace. If it fails it adds none. -/
structure Adds (x : Talk C L α) (added : α → Option StepRecord) : Prop where
  ok : ∀ {s a s'}, x s = .ok a s' → s'.trace = (added a).elim s.trace s.trace.push
  error : ∀ {s e s'}, x s = .error e s' → s'.trace = s.trace

theorem Adds.bind {x : Talk C L α} {f : α → Talk C L β} {added : β → Option StepRecord}
    (hx : Adds x fun _ => none) (hf : ∀ a, Adds (f a) added) : Adds (x >>= f) added where
  ok {s b s'} h := by
    obtain ⟨a, s₁, first, second⟩ := bind_eq_ok.1 h
    have same : s₁.trace = s.trace := hx.ok first
    rw [(hf a).ok second, same]
  error {s e s'} h := by
    cases first : x s with
    | ok a s₁ =>
      rw [bind_of_ok first] at h
      rw [(hf a).error h]
      exact hx.ok first
    | error e₁ s₁ =>
      rw [bind_of_error first] at h
      obtain ⟨-, rfl⟩ := EStateM.Result.error.inj h
      exact hx.error first

theorem adds_pure (a : α) : Adds (pure a : Talk C L α) fun _ => none where
  ok h := by
    obtain ⟨-, rfl⟩ := EStateM.Result.ok.inj h
    rfl
  error h := by cases h

theorem adds_throw (e : SessionError) (added : α → Option StepRecord) :
    Adds (throw e : Talk C L α) added where
  ok h := by cases h
  error h := by
    obtain ⟨-, rfl⟩ := EStateM.Result.error.inj h
    rfl

/-- Adding a record to the trace is all that adds one. -/
theorem adds_push (record : StepRecord) :
    Adds (modify (fun s => { s with trace := s.trace.push record }) >>= fun _ => pure record :
      Talk C L StepRecord) some where
  ok h := by
    obtain ⟨rfl, rfl⟩ := EStateM.Result.ok.inj h
    rfl
  error h := by cases h

theorem adds_withDebugger (x : Exchange C α) : Adds (withDebugger x : Talk C L α) fun _ => none where
  ok {s a s'} h := by
    unfold withDebugger at h
    split at h
    · cases h
    · split at h <;> cases h
      rfl
  error {s e s'} h := by
    unfold withDebugger at h
    split at h
    · cases h
      rfl
    · split at h <;> cases h
      rfl

variable [Channel C]

theorem adds_send (line : String) : Adds (send line : Talk C L Unit) fun _ => none :=
  adds_withDebugger _

theorem adds_expect (p : Pattern) : Adds (expect p : Talk C L Expectation) fun _ => none where
  ok h := (adds_withDebugger _).ok h
  error h := (adds_withDebugger _).error h

theorem adds_whenActive {x : Talk C L α} {added : α → Option StepRecord} (h : Adds x added) :
    Adds (whenActive x) fun a => a.bind added where
  ok {s a s'} hx := by
    cases active : s.isActive with
    | false =>
      rw [whenActive_of_inactive active] at hx
      cases hx
      rfl
    | true =>
      rw [whenActive_of_active active] at hx
      obtain ⟨a, s₁, found, ends⟩ := bind_eq_ok.1 hx
      cases ends
      exact h.ok found
  error {s e s'} hx := by
    cases active : s.isActive with
    | false =>
      rw [whenActive_of_inactive active] at hx
      cases hx
    | true =>
      rw [whenActive_of_active active] at hx
      cases found : x s with
      | ok a s₁ =>
        rw [bind_of_ok found] at hx
        cases hx
      | error e₁ s₁ =>
        rw [bind_of_error found] at hx
        cases hx
        exact h.error found

theorem adds_locals : Adds (locals : Talk C L (Option Frame)) fun _ => none := by
  have asked : Adds (askLocals : Talk C L Frame) fun _ => none := by
    refine (adds_send _).bind fun _ => (adds_expect _).bind fun answer => ?_
    split
    · exact (adds_expect _).bind fun _ => (adds_expect _).bind fun _ => adds_pure _
    · exact (adds_expect _).bind fun _ => adds_pure _
  simpa [locals] using adds_whenActive asked

/-- A step adds its record. -/
theorem adds_step (modifier : StepModifier) (includeLocals : Bool) :
    Adds (step modifier includeLocals : Talk C L (Option StepRecord)) fun record => record := by
  have taken : Adds (takeStep modifier includeLocals : Talk C L StepRecord) some := by
    refine (adds_send _).bind fun _ => (adds_expect _).bind fun header => ?_
    split
    · exact (adds_expect _).bind fun _ => adds_locals.bind fun _ => adds_push _
    · exact adds_throw _ _
  simpa [step] using adds_whenActive taken

end Session

end Retrace
