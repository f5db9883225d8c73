import Retrace.Proofs.Session.Ordering

/-!
# Isolation from the output of the program

A program that was started apart is written to and never read. Two sessions whose programs differ in
the texts of their answers only are alike, and whatever is asked of both, they answer the same and
stay alike. So what the program writes can be seen nowhere but in the wait for it to listen, and the
output that waits then is dropped.
-/

namespace Retrace

/-- An exchange with another view of its states. -/
def mapState {ε σ τ α : Type} (view : σ → τ) : EStateM.Result ε σ α → EStateM.Result ε τ α
  | .ok a s => .ok a (view s)
  | .error e s => .error e (view s)

@[simp] theorem mapState_ending {ε σ τ α : Type} (view : σ → τ) (result : Except ε α) (s : σ) :
    mapState view (ending result s) = ending result (view s) := by
  cases result <;> rfl

-- ---------------------------------------------------------------------------
-- Processes without texts
-- ---------------------------------------------------------------------------

namespace Scripted

variable {c : Scripted}

/-- A process whose answers have no text, and of which nothing is heard when it is closed. -/
def muted (c : Scripted) : Scripted :=
  { c with
    script := c.script.map fun reply => { reply with output := "" }
    closeError := none }

@[simp] theorem muted_muted (c : Scripted) : c.muted.muted = c.muted := by
  simp [muted]

/-- A process whose output is dropped takes lines in the same way without its texts. -/
theorem send_muted (deaf : c.discarding = true) (line : String) :
    send line c.muted = mapState muted (send line c) := by
  unfold send
  cases gone : c.closed || c.ended with
  | true => simp [muted, gone, mapState]
  | false =>
    cases script : c.script with
    | nil => simp [muted, gone, script, mapState]
    | cons reply rest =>
      by_cases same : reply.command = line <;>
        simp [muted, gone, script, same, deaf, mapState]

theorem discarding_send (c : Scripted) (line : String) :
    (stateAfter (send line c)).discarding = c.discarding := by
  rcases send_cases line c with ⟨-, -, sent⟩ | ⟨-, sent⟩ | ⟨reply, -, -, -, sent⟩ <;>
    rw [sent] <;> rfl

theorem shut_muted (c : Scripted) : Session.shut c.muted = (Session.shut c).muted := by
  cases failing : c.closeError <;>
    simp [Session.shut, Channel.close, Scripted.close, muted, failing, stateAfter]

end Scripted

/-- A deed with a process whose answers have no text. -/
def Deed.muted : Deed Scripted → Deed Scripted
  | .closed c => .closed c.muted
  | deed => deed

@[simp] theorem Deed.muted_launched (command : Command) :
    (launched command : Deed Scripted).muted = launched command :=
  rfl

@[simp] theorem Deed.muted_closed (c : Scripted) : (closed c).muted = closed c.muted :=
  rfl

@[simp] theorem Deed.muted_muted (deed : Deed Scripted) : deed.muted.muted = deed.muted := by
  cases deed <;> simp [muted]

/-- The rehearsal with one more process, which is the next one. -/
def Rehearsal.leading (r : Rehearsal) (c : Scripted) : Rehearsal :=
  { r with waiting := c :: r.waiting }

namespace Session

variable {L α β : Type} {s s₁ s₂ : Session Scripted L}

/-- A session whose programs, and all that it let go of, have no texts in their answers. -/
def muted (s : Session Scripted L) : Session Scripted L :=
  { s with
    target := s.target.map Scripted.muted
    retired := s.retired.map Scripted.muted
    journal := s.journal.map Deed.muted }

/-- The sessions differ in the texts that their programs have still to write, and these are
dropped. -/
structure Alike (s₁ s₂ : Session Scripted L) : Prop where
  same : s₁.muted = s₂.muted
  deaf : ∀ c ∈ s₁.target, c.discarding = true

/-- Two exchanges end in the same way and leave sessions that are alike. -/
inductive AlikeEnds : EStateM.Result SessionError (Session Scripted L) α →
    EStateM.Result SessionError (Session Scripted L) α → Prop where
  | ok {s₁ s₂ : Session Scripted L} (a : α) (alike : Alike s₁ s₂) : AlikeEnds (.ok a s₁) (.ok a s₂)
  | error {s₁ s₂ : Session Scripted L} (e : SessionError) (alike : Alike s₁ s₂) :
    AlikeEnds (.error e s₁) (.error e s₂)

/-- An exchange that does not see what makes the difference between sessions that are alike. -/
def Blind (x : Talk Scripted L α) : Prop :=
  ∀ s₁ s₂, Alike s₁ s₂ → AlikeEnds (x s₁) (x s₂)

-- ---------------------------------------------------------------------------
-- Sessions that are alike
-- ---------------------------------------------------------------------------

/-- What does not depend on the programs is equal. -/
theorem Alike.eq_of (h : Alike s₁ s₂) {β : Type} (view : Session Scripted L → β)
    (blind : ∀ s, view s.muted = view s) : view s₁ = view s₂ := by
  rw [← blind s₁, h.same, blind]

theorem Alike.debugger_eq (h : Alike s₁ s₂) : s₁.debugger = s₂.debugger :=
  h.eq_of Session.debugger fun _ => rfl

theorem Alike.config_eq (h : Alike s₁ s₂) : s₁.config = s₂.config :=
  h.eq_of Session.config fun _ => rfl

theorem Alike.isActive_eq (h : Alike s₁ s₂) : s₁.isActive = s₂.isActive := by
  unfold isActive
  rw [h.debugger_eq]

theorem Alike.symm (h : Alike s₁ s₂) : Alike s₂ s₁ where
  same := h.same.symm
  deaf c held := by
    have drops : s₁.target.map (·.discarding) = s₂.target.map (·.discarding) :=
      h.eq_of (fun s => s.target.map (·.discarding)) fun s => by
        cases target : s.target <;> simp [muted, Scripted.muted, target]
    rw [Option.mem_def.1 held, Option.map_some] at drops
    obtain ⟨d, held₁, same⟩ := Option.map_eq_some_iff.1 drops
    exact same ▸ h.deaf d held₁

/-- What leaves the programs as they are keeps sessions alike. -/
theorem Alike.update (h : Alike s₁ s₂) (change : Session Scripted L → Session Scripted L)
    (mutes : ∀ s, (change s).muted = change s.muted)
    (keeps : ∀ s, (change s).target = s.target) : Alike (change s₁) (change s₂) where
  same := by rw [mutes, mutes, h.same]
  deaf c held := h.deaf c (keeps s₁ ▸ held)

/-- Letting go of all channels keeps sessions alike. -/
theorem Alike.close (h : Alike s₁ s₂) : Alike s₁.close s₂.close where
  same := by
    have mutes (s : Session Scripted L) : s.close.muted = s.muted.close.muted := by
      cases ht : s.target <;> simp [Session.close, muted, ht, Scripted.shut_muted, Function.comp_def]
    rw [mutes s₁, h.same, ← mutes s₂]
  deaf c held := by simp [Session.close] at held

-- ---------------------------------------------------------------------------
-- Exchanges that are blind
-- ---------------------------------------------------------------------------

theorem blind_pure (a : α) : Blind (pure a : Talk Scripted L α) :=
  fun _ _ h => .ok a h

theorem blind_throw (e : SessionError) : Blind (throw e : Talk Scripted L α) :=
  fun _ _ h => .error e h

theorem AlikeEnds.exists_ending {r₁ r₂ : EStateM.Result SessionError (Session Scripted L) α}
    (h : AlikeEnds r₁ r₂) :
    ∃ result s₁ s₂, r₁ = ending result s₁ ∧ r₂ = ending result s₂ ∧ Alike s₁ s₂ := by
  cases h with
  | @ok s₁ s₂ a alike => exact ⟨.ok a, s₁, s₂, rfl, rfl, alike⟩
  | @error s₁ s₂ e alike => exact ⟨.error e, s₁, s₂, rfl, rfl, alike⟩

/-- What comes after exchanges that end alike ends alike, if it is blind. -/
theorem AlikeEnds.bind {x y : Talk Scripted L α} {f : α → Talk Scripted L β}
    (ends : AlikeEnds (x s₁) (y s₂)) (later : ∀ a, Blind (f a)) :
    AlikeEnds ((x >>= f) s₁) ((y >>= f) s₂) := by
  change AlikeEnds (EStateM.bind x f s₁) (EStateM.bind y f s₂)
  unfold EStateM.bind
  generalize x s₁ = r₁ at ends ⊢
  generalize y s₂ = r₂ at ends ⊢
  cases ends with
  | ok a alike => exact later a _ _ alike
  | error e alike => exact .error e alike

theorem Blind.bind {x : Talk Scripted L α} {f : α → Talk Scripted L β} (first : Blind x)
    (later : ∀ a, Blind (f a)) : Blind (x >>= f) := by
  intro s₁ s₂ h
  exact (first s₁ s₂ h).bind later

/-- A change that leaves the programs as they are. -/
theorem blind_modify (change : Session Scripted L → Session Scripted L)
    (mutes : ∀ s, (change s).muted = change s.muted)
    (keeps : ∀ s, (change s).target = s.target) :
    Blind (modify change : Talk Scripted L Unit) :=
  fun _ _ h => .ok () (h.update change mutes keeps)

/-- What is read of a session is the same if it is not the texts of a program. -/
theorem blind_get_bind {f : Session Scripted L → Talk Scripted L α}
    (reads : ∀ {s₁ s₂}, Alike s₁ s₂ → f s₁ = f s₂) (each : ∀ s, Blind (f s)) :
    Blind (get >>= f) := by
  intro s₁ s₂ h
  rw [get_bind, get_bind, reads h]
  exact each s₂ s₁ s₂ h

theorem blind_withDebugger (x : Exchange Scripted α) :
    Blind (withDebugger x : Talk Scripted L α) := by
  intro s₁ s₂ h
  have held := h.debugger_eq
  have update (c : Scripted) : Alike { s₁ with debugger := some c } { s₂ with debugger := some c } :=
    h.update (fun s => { s with debugger := some c }) (fun _ => rfl) (fun _ => rfl)
  unfold withDebugger
  cases debugger : s₂.debugger with
  | none =>
    rw [held, debugger]
    exact .error _ h
  | some c =>
    rw [held, debugger]
    cases answer : x c with
    | ok a c' =>
      simp only [answer]
      exact .ok a (update c')
    | error e c' =>
      simp only [answer]
      exact .error e (update c')

theorem blind_send (line : String) : Blind (send line : Talk Scripted L Unit) :=
  blind_withDebugger _

theorem blind_expect (p : Pattern) : Blind (expect p : Talk Scripted L Expectation) := by
  intro s₁ s₂ h
  unfold expect
  rw [h.config_eq]
  exact blind_withDebugger _ s₁ s₂ h

/-- The dialogue with the debugger does not see the program. -/
theorem blind_run (d : Dialogue α) : Blind (d.run : Talk Scripted L α) := by
  induction d with
  | done a => exact blind_pure a
  | reject output => exact blind_throw _
  | say line next ih => exact (blind_send line).bind fun _ => ih
  | hear p next ih => exact (blind_expect p).bind ih
  | look next ih =>
    intro s₁ s₂ h
    change AlikeEnds ((next s₁.isActive).run s₁) ((next s₂.isActive).run s₂)
    rw [h.isActive_eq]
    exact ih _ s₁ s₂ h

theorem blind_whenActive {x : Talk Scripted L α} (blind : Blind x) : Blind (whenActive x) := by
  intro s₁ s₂ h
  cases active : s₂.isActive with
  | false =>
    rw [whenActive_of_inactive active, whenActive_of_inactive (h.isActive_eq.trans active)]
    exact .ok none h
  | true =>
    rw [whenActive_of_active active, whenActive_of_active (h.isActive_eq.trans active)]
    exact (blind.bind fun a => blind_pure (some a)) s₁ s₂ h

theorem blind_step (modifier : StepModifier) (includeLocals : Bool) :
    Blind (step modifier includeLocals : Talk Scripted L (Option StepRecord)) := by
  unfold step
  rw [Dialogue.run_step]
  apply blind_whenActive
  apply (blind_run _).bind
  intro record
  exact (blind_modify (fun s => { s with trace := s.trace.push record }) (fun _ => rfl)
    fun _ => rfl).bind fun _ => blind_pure record

theorem blind_locals : Blind (locals : Talk Scripted L (Option Frame)) := by
  rw [locals_eq_run]
  exact blind_run _

theorem blind_dump (name : String) : Blind (dump name : Talk Scripted L (Option Value)) := by
  rw [dump_eq_run]
  exact blind_run _

-- ---------------------------------------------------------------------------
-- Writing to the program
-- ---------------------------------------------------------------------------

/-- Programs whose output is dropped take a line in the same way. -/
theorem Alike.sendTargetLine (h : Alike s₁ s₂) (line : String) :
    (s₁.sendTargetLine line).1 = (s₂.sendTargetLine line).1 ∧
      Alike (s₁.sendTargetLine line).2 (s₂.sendTargetLine line).2 := by
  -- A session with a program whose output is dropped takes the line as without the texts.
  have mutes (s : Session Scripted L) (deaf : ∀ c ∈ s.target, c.discarding = true) :
      s.muted.sendTargetLine line = (s.sendTargetLine line).map id muted := by
    unfold Session.sendTargetLine
    cases target : s.target with
    | none => simp [muted, target]
    | some c =>
      have sent := Scripted.send_muted (deaf c target) line
      simp only [muted, target, Option.map_some, Channel.send, sent]
      cases answer : Scripted.send line c <;> simp [mapState, muted]
  have ends : (s₁.sendTargetLine line).map id muted = (s₂.sendTargetLine line).map id muted := by
    rw [← mutes s₁ h.deaf, h.same, mutes s₂ h.symm.deaf]
  obtain ⟨answer, same⟩ := Prod.mk.inj ends
  refine ⟨answer, same, ?_⟩
  rw [sendTargetLine_snd]
  intro c held
  obtain ⟨d, held₁, rfl⟩ := Option.map_eq_some_iff.1 held
  exact (d.discarding_send line).trans (h.deaf d held₁)

theorem Alike.sendTargetLines (h : Alike s₁ s₂) (lines : List String) :
    (s₁.sendTargetLines lines).1 = (s₂.sendTargetLines lines).1 ∧
      Alike (s₁.sendTargetLines lines).2 (s₂.sendTargetLines lines).2 := by
  induction lines generalizing s₁ s₂ with
  | nil => exact ⟨rfl, h⟩
  | cons line later ih =>
    obtain ⟨answer, alike⟩ := h.sendTargetLine line
    cases first : s₁.sendTargetLine line with
    | mk success₁ t₁ =>
      cases second : s₂.sendTargetLine line with
      | mk success₂ t₂ =>
        rw [first, second] at answer alike
        obtain rfl : success₁ = success₂ := answer
        simp only [Session.sendTargetLines, first, second]
        cases success₁ with
        | true => exact ih alike
        | false => exact ⟨rfl, alike⟩

theorem Alike.sendTargetFile (h : Alike s₁ s₂) (contents : Option (List UInt8)) :
    (s₁.sendTargetFile contents).1 = (s₂.sendTargetFile contents).1 ∧
      Alike (s₁.sendTargetFile contents).2 (s₂.sendTargetFile contents).2 := by
  have held : s₁.target.isNone = s₂.target.isNone :=
    h.eq_of (·.target.isNone) fun s => by simp [muted]
  unfold Session.sendTargetFile
  rw [held]
  split
  · exact ⟨rfl, h⟩
  · split
    · exact ⟨rfl, h⟩
    · exact h.sendTargetLines _

-- ---------------------------------------------------------------------------
-- Spawns
-- ---------------------------------------------------------------------------

section
variable [Launcher L Scripted]

theorem blind_launch (command : Command) : Blind (launch command : Talk Scripted L Scripted) := by
  intro s₁ s₂ h
  have same : s₁.launcher = s₂.launcher := h.eq_of Session.launcher fun _ => rfl
  have update (launcher : L) :
      Alike { s₁ with launcher, journal := s₁.journal ++ [.launched command] }
        { s₂ with launcher, journal := s₂.journal ++ [.launched command] } :=
    h.update (fun s => { s with launcher, journal := s.journal ++ [.launched command] })
      (fun s => by simp [muted]) fun _ => rfl
  unfold launch
  rw [same]
  cases Launcher.launch command s₂.launcher with
  | ok c launcher => exact .ok c (update launcher)
  | error e launcher => exact .error e (update launcher)

omit [Launcher L Scripted] in
/-- Sessions stay alike with programs that differ in the texts of their answers. -/
theorem Alike.join (h : Alike s₁ s₂) {t₁ t₂ : Scripted}
    (same : (Channel.discard t₁).muted = (Channel.discard t₂).muted) :
    Alike { s₁ with target := some (Channel.discard t₁) }
      { s₂ with target := some (Channel.discard t₂) } where
  same := by
    have mutes (s : Session Scripted L) (t : Scripted) :
        ({ s with target := some t }).muted = { s.muted with target := some t.muted } := rfl
    rw [mutes, mutes, h.same, same]
  deaf c held := by
    obtain rfl := Option.some.inj held
    rfl

omit [Launcher L Scripted] in
theorem Alike.retire (h : Alike s₁ s₂) (c : Scripted) :
    Alike { s₁ with retired := s₁.retired ++ [c], journal := s₁.journal ++ [.closed c] }
      { s₂ with retired := s₂.retired ++ [c], journal := s₂.journal ++ [.closed c] } where
  same := by
    have mutes (s : Session Scripted L) :
        ({ s with retired := s.retired ++ [c], journal := s.journal ++ [Deed.closed c] }).muted =
          { s.muted with
            retired := s.muted.retired ++ [c.muted]
            journal := s.muted.journal ++ [Deed.closed c.muted] } := by
      simp [muted]
    rw [mutes, mutes, h.same]
  deaf := h.deaf

omit [Launcher L Scripted] in
theorem blind_adopt (target : Scripted) : Blind (adopt target : Talk Scripted L Unit) := by
  intro s₁ s₂ h
  unfold adopt
  rw [show s₁.config.timeout = s₂.config.timeout from h.eq_of (·.config.timeout) fun _ => rfl]
  cases (Channel.expect Message.listening s₂.config.timeout : Exchange Scripted Expectation)
    target with
  | ok found listener => exact .ok () (h.join rfl)
  | error e target' => exact .error e (h.retire (shut target'))

omit [Launcher L Scripted] in
theorem blind_hold (debugger : Scripted) :
    Blind (modify fun s => { s with debugger := some debugger } : Talk Scripted L Unit) :=
  blind_modify _ (fun _ => rfl) fun _ => rfl

theorem blind_attach : Blind (attach : Talk Scripted L Unit) := by
  apply blind_get_bind
  · intro s₁ s₂ h
    rw [h.config_eq]
  · intro s
    exact (blind_launch _).bind blind_hold

theorem blind_launchProcesses (args : List String) (apart : Bool) :
    Blind (launchProcesses args apart : Talk Scripted L Unit) := by
  cases apart with
  | false =>
    apply blind_get_bind
    · intro s₁ s₂ h
      rw [show s₁.launchCommand args = s₂.launchCommand args from
        h.eq_of (·.launchCommand args) fun _ => rfl]
    · intro s
      exact (blind_launch _).bind blind_hold
  | true =>
    apply blind_get_bind
    · intro s₁ s₂ h
      rw [show s₁.targetCommand args = s₂.targetCommand args from
        h.eq_of (·.targetCommand args) fun _ => rfl]
    · intro s
      exact (blind_launch _).bind fun target => (blind_adopt target).bind fun _ => blind_attach

omit [Launcher L Scripted] in
theorem blind_prepare : Blind (prepare : Talk Scripted L Unit) := by
  intro s₁ s₂ h
  rw [Dialogue.run_prepare, Dialogue.run_prepare,
    show s₁.breakpointCommand = s₂.breakpointCommand from h.eq_of breakpointCommand fun _ => rfl,
    show s₁.excludeCommand = s₂.excludeCommand from h.eq_of excludeCommand fun _ => rfl]
  exact blind_run _ s₁ s₂ h

omit [Launcher L Scripted] in
/-- What comes after the processes are launched. -/
theorem blind_prepared : Blind ((do
      prepare
      modify fun s => { s with trace := s.trace.clear }) : Talk Scripted L Unit) :=
  blind_prepare.bind fun _ => blind_modify _ (fun _ => rfl) fun _ => rfl

/-- Starts that end alike make spawns that do. -/
theorem alikeEnds_spawn {args : List String} {apart : Bool}
    (started : AlikeEnds (start args apart s₁.close) (start args apart s₂.close)) :
    AlikeEnds (spawn args apart s₁) (spawn args apart s₂) := by
  unfold spawn
  generalize start args apart s₁.close = r₁ at started ⊢
  generalize start args apart s₂.close = r₂ at started ⊢
  cases started with
  | ok a alike => exact .ok () alike
  | error e alike => exact .error e alike.close

theorem blind_spawn (args : List String) (apart : Bool) :
    Blind (spawn args apart : Talk Scripted L Unit) := by
  intro s₁ s₂ h
  apply alikeEnds_spawn
  rw [start]
  exact ((blind_launchProcesses args apart).bind fun _ => blind_prepared) _ _ h.close

end

-- ---------------------------------------------------------------------------
-- Calls
-- ---------------------------------------------------------------------------

section
variable [Launcher L Scripted]

omit [Launcher L Scripted] in
theorem AlikeEnds.answering {r₁ r₂ : EStateM.Result SessionError (Session Scripted L) α}
    (h : AlikeEnds r₁ r₂) (answer : Except SessionError α → Answer) :
    (Answer.answering answer r₁).1 = (Answer.answering answer r₂).1 ∧
      Alike (Answer.answering answer r₁).2 (Answer.answering answer r₂).2 := by
  cases h with
  | ok a alike => exact ⟨rfl, alike⟩
  | error e alike => exact ⟨rfl, alike⟩

/-- Sessions that are alike answer every call in the same way, and stay alike. -/
theorem Alike.run (h : Alike s₁ s₂) (call : Call L) :
    (call.run s₁).1 = (call.run s₂).1 ∧ Alike (call.run s₁).2 (call.run s₂).2 := by
  cases call with
  | spawn args apart => exact (blind_spawn args apart s₁ s₂ h).answering _
  | step modifier includeLocals => exact (blind_step modifier includeLocals s₁ s₂ h).answering _
  | locals => exact (blind_locals s₁ s₂ h).answering _
  | dump name => exact (blind_dump name s₁ s₂ h).answering _
  | sendTargetLine line =>
    obtain ⟨answer, alike⟩ := h.sendTargetLine line
    exact ⟨congrArg Answer.written answer, alike⟩
  | sendTargetFile contents =>
    obtain ⟨answer, alike⟩ := h.sendTargetFile contents
    exact ⟨congrArg Answer.written answer, alike⟩
  | setTraceCapacity capacity =>
    exact ⟨rfl, h.update (·.setTraceCapacity capacity) (fun _ => rfl) fun _ => rfl⟩
  | close => exact ⟨rfl, h.close⟩
  | setLauncher launcher =>
    exact ⟨rfl, h.update (fun s => { s with launcher }) (fun _ => rfl) fun _ => rfl⟩
  | setClassPath path =>
    exact ⟨rfl, h.update (fun s => { s with classPath := some path }) (fun _ => rfl) fun _ => rfl⟩
  | setEntryMethod name =>
    exact ⟨rfl, h.update (fun s => { s with entryMethod := name }) (fun _ => rfl) fun _ => rfl⟩
  | exclude classes =>
    exact ⟨rfl, h.update (fun s => { s with excluded := s.excluded ++ [classes] }) (fun _ => rfl)
      fun _ => rfl⟩

/-- So they answer every history of calls in the same way. -/
theorem Alike.history (h : Alike s₁ s₂) (calls : List (Call L)) :
    answers calls s₁ = answers calls s₂ ∧ Alike (after calls s₁) (after calls s₂) := by
  induction calls generalizing s₁ s₂ with
  | nil => exact ⟨rfl, h⟩
  | cons call later ih =>
    obtain ⟨answer, alike⟩ := h.run call
    obtain ⟨others, ends⟩ := ih alike
    refine ⟨?_, ends⟩
    rw [answers, answers, answer, others]

end

-- ---------------------------------------------------------------------------
-- Two programs
-- ---------------------------------------------------------------------------

/-- Two programs that listen and accept the same lines. What they write, before they are adopted
and in answer to the lines, has nothing to do with each other. -/
structure Twins (t₁ t₂ : Scripted) : Prop where
  first_listens : (Message.listening.find? t₁.buffer.pending).isSome = true
  second_listens : (Message.listening.find? t₂.buffer.pending).isSome = true
  lines_eq : t₁.script.map (fun reply => (reply.command, reply.exits)) =
    t₂.script.map fun reply => (reply.command, reply.exits)
  sent_eq : t₁.sent = t₂.sent
  ended_eq : t₁.ended = t₂.ended
  closed_eq : t₁.closed = t₂.closed

/-- Without their texts they are one program. -/
theorem Twins.muted_eq {t₁ t₂ : Scripted} (twins : Twins t₁ t₂) :
    (Channel.discard t₁).muted = (Channel.discard t₂).muted := by
  have script (t : Scripted) : t.script.map (fun reply => { reply with output := "" }) =
      (t.script.map fun reply => (reply.command, reply.exits)).map
        fun line => ⟨line.1, "", line.2⟩ := by
    simp
  simp only [Channel.discard, Scripted.discard, Scripted.muted, script, twins.lines_eq, twins.sent_eq,
    twins.ended_eq, twins.closed_eq]

/-- A program that listens is adopted, and what waited is dropped. -/
theorem adopt_of_listens {t : Scripted}
    (listens : (Message.listening.find? t.buffer.pending).isSome = true) (s : Session Scripted L) :
    adopt t s = .ok () { s with target := some (Channel.discard t) } := by
  obtain ⟨m, found⟩ := Option.isSome_iff_exists.1 listens
  simp [adopt, Channel.expect, Scripted.expect, Buffer.take?, found, Channel.discard,
    Scripted.discard]

/-- A program that listens is launched and adopted, and then the debugger is launched. -/
theorem launchApart_of_listens {t : Scripted}
    (listens : (Message.listening.find? t.buffer.pending).isSome = true)
    (s : Session Scripted Rehearsal) (args : List String) :
    launchApart args { s with launcher := s.launcher.leading t } = attach { s with
      target := some (Channel.discard t)
      launcher := stateAfter (Launcher.launch (s.targetCommand args) (s.launcher.leading t))
      journal := s.journal ++ [.launched (s.targetCommand args)] } := by
  have launched : (launch (s.targetCommand args) : Talk Scripted Rehearsal Scripted)
      { s with launcher := s.launcher.leading t } = .ok t { s with
        launcher := stateAfter (Launcher.launch (s.targetCommand args) (s.launcher.leading t))
        journal := s.journal ++ [.launched (s.targetCommand args)] } :=
    launch_eq_ok.2 ⟨_, rfl, rfl⟩
  rw [launchApart, get_bind]
  exact (bind_of_ok launched).trans (bind_of_ok (adopt_of_listens listens _))

/-- Spawns with either of two such programs end alike. -/
theorem Twins.spawn {t₁ t₂ : Scripted} (twins : Twins t₁ t₂) (s : Session Scripted Rehearsal)
    (args : List String) :
    AlikeEnds (spawn args true { s with launcher := s.launcher.leading t₁ })
      (spawn args true { s with launcher := s.launcher.leading t₂ }) := by
  apply alikeEnds_spawn
  rw [start]
  apply AlikeEnds.bind _ fun _ => blind_prepared
  have closed : Alike s.close s.close := ⟨rfl, by simp [close]⟩
  change AlikeEnds (launchApart args { s.close with launcher := s.close.launcher.leading t₁ })
    (launchApart args { s.close with launcher := s.close.launcher.leading t₂ })
  rw [launchApart_of_listens twins.first_listens, launchApart_of_listens twins.second_listens]
  exact blind_attach _ _ ((closed.update
    (fun s => { s with
      launcher := { s.launcher with launched := s.launcher.launched ++ [s.targetCommand args] }
      journal := s.journal ++ [.launched (s.targetCommand args)] })
    (fun s => by simp [muted, targetCommand]) fun _ => rfl).join twins.muted_eq)

-- ---------------------------------------------------------------------------
-- What can be seen
-- ---------------------------------------------------------------------------

/-- What can be seen of a session: whether it is active and whether it has a program, what was sent to
each of its channels, what was launched, and its trace. -/
structure SameView (s₁ s₂ : Session Scripted L) : Prop where
  isActive_eq : s₁.isActive = s₂.isActive
  hasTarget_eq : s₁.hasTarget = s₂.hasTarget
  logs_eq : s₁.logs = s₂.logs
  launcher_eq : s₁.launcher = s₂.launcher
  trace_eq : s₁.trace = s₂.trace

theorem logs_muted (s : Session Scripted L) : s.muted.logs = s.logs := by
  cases target : s.target <;>
    simp [logs, channels, muted, target, Scripted.muted, Function.comp_def]

/-- Sessions that are alike look the same. -/
theorem Alike.view (h : Alike s₁ s₂) : SameView s₁ s₂ where
  isActive_eq := h.isActive_eq
  hasTarget_eq := h.eq_of hasTarget fun s => by simp [hasTarget, muted]
  logs_eq := h.eq_of logs logs_muted
  launcher_eq := h.eq_of Session.launcher fun _ => rfl
  trace_eq := h.eq_of Session.trace fun _ => rfl

/-- From a spawn with either of two such programs on, all calls are answered in the same way. -/
theorem Twins.history {t₁ t₂ : Scripted} (twins : Twins t₁ t₂) (s : Session Scripted Rehearsal)
    (args : List String) (calls : List (Call Rehearsal)) :
    answers (.spawn args true :: calls) { s with launcher := s.launcher.leading t₁ } =
        answers (.spawn args true :: calls) { s with launcher := s.launcher.leading t₂ } ∧
      Alike (after (.spawn args true :: calls) { s with launcher := s.launcher.leading t₁ })
        (after (.spawn args true :: calls) { s with launcher := s.launcher.leading t₂ }) := by
  obtain ⟨answer, alike⟩ := (twins.spawn s args).answering .started
  obtain ⟨others, ends⟩ := alike.history calls
  refine ⟨?_, ends⟩
  rw [answers, answers, Call.run, Call.run, answer, others]

end Session
end Retrace
