import Retrace.Proofs.Session.Course
import Retrace.Session.Target

/-!
# Calls

What a user can ask of a session, one call after another. A history of a session is a list of
calls; what every single call keeps, every history keeps.
-/

namespace Retrace

/-- A call of a session. -/
inductive Call (L : Type) where
  | spawn (args : List String) (apart : Bool)
  | step (modifier : StepModifier) (includeLocals : Bool)
  | locals
  | dump (name : String)
  | sendTargetLine (line : String)
  | sendTargetFile (contents : Option (List UInt8))
  | setTraceCapacity (capacity : Option Nat)
  | close
  | setLauncher (launcher : L)
  | setClassPath (path : ClassPath)
  | setEntryMethod (name : String)
  /-- Steps over some more classes. -/
  | exclude (classes : String)

/-- What a call answers. -/
inductive Answer where
  | started (result : Except SessionError Unit)
  | stepped (result : Except SessionError (Option StepRecord))
  | frame (result : Except SessionError (Option Frame))
  | value (result : Except SessionError (Option Value))
  /-- Whether the program was sent what it should be sent. -/
  | written (success : Bool)
  | nothing

/-- Why something failed, if it did. -/
def failure? {ε α : Type} : Except ε α → Option ε
  | .ok _ => none
  | .error e => some e

namespace Answer

/-- The error that a call answers. -/
def error? : Answer → Option SessionError
  | started result => failure? result
  | stepped result => failure? result
  | frame result => failure? result
  | value result => failure? result
  | written _ => none
  | nothing => none

variable {C L α : Type}

/-- The answer to an exchange, with the session after it. -/
def answering (answer : Except SessionError α → Answer) :
    EStateM.Result SessionError (Session C L) α → Answer × Session C L
  | .ok a s => (answer (.ok a), s)
  | .error e s => (answer (.error e), s)

@[simp] theorem answering_ending (answer : Except SessionError α → Answer)
    (result : Except SessionError α) (s : Session C L) :
    answering answer (ending result s) = (answer result, s) := by
  cases result <;> rfl

@[simp] theorem answering_snd (answer : Except SessionError α → Answer)
    (r : EStateM.Result SessionError (Session C L) α) : (answering answer r).2 = stateAfter r := by
  cases r <;> rfl

end Answer

namespace Call

variable {C L : Type} [Channel C] [Launcher L C]

/-- Makes a call. -/
def run : Call L → Session C L → Answer × Session C L
  | .spawn args apart, s => Answer.answering .started (s.spawn args apart)
  | .step modifier includeLocals, s => Answer.answering .stepped (s.step modifier includeLocals)
  | .locals, s => Answer.answering .frame s.locals
  | .dump name, s => Answer.answering .value (s.dump name)
  | .sendTargetLine line, s => ((s.sendTargetLine line).map .written id)
  | .sendTargetFile contents, s => ((s.sendTargetFile contents).map .written id)
  | .setTraceCapacity capacity, s => (.nothing, s.setTraceCapacity capacity)
  | .close, s => (.nothing, s.close)
  | .setLauncher launcher, s => (.nothing, { s with launcher })
  | .setClassPath path, s => (.nothing, { s with classPath := some path })
  | .setEntryMethod name, s => (.nothing, { s with entryMethod := name })
  | .exclude classes, s => (.nothing, { s with excluded := s.excluded ++ [classes] })

-- ---------------------------------------------------------------------------
-- Kinds of calls
-- ---------------------------------------------------------------------------

/-- The call starts the session anew. -/
def spawns : Call L → Bool
  | .spawn .. => true
  | _ => false

theorem exists_of_spawns {call : Call L} (h : call.spawns = true) :
    ∃ args apart, call = .spawn args apart := by
  cases call <;> simp [spawns] at h ⊢

/-- The answer of a session that is not active to a call for its debugger. -/
def idle? : Call L → Option Answer
  | .step .. => some (.stepped (.ok none))
  | .locals => some (.frame (.ok none))
  | .dump _ => some (.value (.ok none))
  | _ => none

end Call

-- ---------------------------------------------------------------------------
-- What calls leave as it is
-- ---------------------------------------------------------------------------

namespace Session

variable {C L : Type} [Channel C]

/-- A session after a step: the record, if there is one, is in the trace. -/
def recorded (result : Except SessionError StepRecord) (s : Session C L) : Session C L :=
  match result with
  | .ok record => { s with trace := s.trace.push record }
  | .error _ => s

/-- A step of an active session ends as its dialogue does, and then the record is added. -/
theorem step_of_active {modifier : StepModifier} {includeLocals : Bool} {s s' : Session C L}
    {result : Except SessionError StepRecord} (active : s.isActive = true)
    (ends : (Dialogue.step modifier includeLocals).run s = ending result s') :
    step modifier includeLocals s = ending (result.map some) (recorded result s') := by
  rw [step, whenActive_of_active active, Dialogue.run_step, bind_assoc]
  cases result with
  | ok record => exact bind_of_ok ends
  | error e => exact bind_of_error ends

/-- A step changes the debugger and the trace only, and does not let go of the debugger. -/
theorem step_ending (modifier : StepModifier) (includeLocals : Bool) (s : Session C L) :
    ∃ result debugger trace, step modifier includeLocals s =
        ending result { s with debugger, trace } ∧ debugger.isSome = s.debugger.isSome := by
  cases active : s.isActive with
  | false => exact ⟨.ok none, s.debugger, s.trace, whenActive_of_inactive active _, rfl⟩
  | true =>
    obtain ⟨result, debugger, ends, held⟩ := (Dialogue.step modifier includeLocals).run_ending s
    rw [step_of_active active ends]
    cases result with
    | ok record => exact ⟨.ok (some record), debugger, s.trace.push record, rfl, held⟩
    | error e => exact ⟨.error e, debugger, s.trace, rfl, held⟩

theorem locals_eq_run : (locals : Talk C L (Option Frame)) = Dialogue.locals.whenActive.run := by
  rw [Dialogue.run_whenActive, Dialogue.run_locals]
  rfl

theorem dump_eq_run (name : String) :
    (dump name : Talk C L (Option Value)) = (Dialogue.dump name).whenActive.run := by
  rw [Dialogue.run_whenActive, Dialogue.run_dump]
  rfl

theorem sendTargetLine_eq (line : String) (s : Session C L) :
    ∃ success target, s.sendTargetLine line = (success, { s with target }) ∧
      target.isSome = s.target.isSome := by
  unfold sendTargetLine
  cases held : s.target with
  | none =>
    refine ⟨false, none, ?_, rfl⟩
    cases s
    subst held
    rfl
  | some c =>
    cases answer : (Channel.send line : Exchange C Unit) c with
    | ok a c' => exact ⟨true, some c', by simp [answer], rfl⟩
    | error e c' => exact ⟨false, some c', by simp [answer], rfl⟩

theorem sendTargetLine_snd (line : String) (s : Session C L) :
    (s.sendTargetLine line).2 = { s with
      target := s.target.map fun c => stateAfter ((Channel.send line : Exchange C Unit) c) } := by
  unfold sendTargetLine
  cases held : s.target with
  | none =>
    cases s
    subst held
    rfl
  | some c => cases answer : (Channel.send line : Exchange C Unit) c <;> simp [answer, stateAfter]

theorem sendTargetLines_eq (lines : List String) (s : Session C L) :
    ∃ success target, s.sendTargetLines lines = (success, { s with target }) ∧
      target.isSome = s.target.isSome := by
  induction lines generalizing s with
  | nil => exact ⟨true, s.target, rfl, rfl⟩
  | cons line later ih =>
    obtain ⟨success, target, sent, held⟩ := sendTargetLine_eq line s
    cases success with
    | false => exact ⟨false, target, by simp [sendTargetLines, sent], held⟩
    | true =>
      obtain ⟨success, target', rest, held'⟩ := ih { s with target }
      exact ⟨success, target', by simp [sendTargetLines, sent, rest], held'.trans held⟩

theorem sendTargetFile_eq (contents : Option (List UInt8)) (s : Session C L) :
    ∃ success target, s.sendTargetFile contents = (success, { s with target }) ∧
      target.isSome = s.target.isSome := by
  unfold sendTargetFile
  split
  · exact ⟨false, s.target, rfl, rfl⟩
  · split
    · exact ⟨false, s.target, rfl, rfl⟩
    · exact sendTargetLines_eq _ s

end Session

namespace Call

variable {C L : Type} [Channel C] [Launcher L C] {call : Call L}

/-- A session that is not active stays as it is when a call is for its debugger. -/
theorem run_of_inactive {idle : Answer} (exchange : call.idle? = some idle) {s : Session C L}
    (inactive : s.isActive = false) : call.run s = (idle, s) := by
  cases call with
  | step modifier includeLocals =>
    obtain rfl := Option.some.inj exchange
    rw [run, Session.step, Session.whenActive_of_inactive inactive]
    rfl
  | locals =>
    obtain rfl := Option.some.inj exchange
    rw [run, Session.locals, Session.whenActive_of_inactive inactive]
    rfl
  | dump name =>
    obtain rfl := Option.some.inj exchange
    rw [run, Session.dump, Session.whenActive_of_inactive inactive]
    rfl
  | _ => simp [idle?] at exchange

/-- Only spawning and closing open channels or let go of them, and are noted. -/
theorem run_holds (spawning : call.spawns = false) (closing : call ≠ .close) (s : Session C L) :
    (call.run s).2.retired = s.retired ∧
      (call.run s).2.journal = s.journal ∧
      (call.run s).2.debugger.isSome = s.debugger.isSome ∧
      (call.run s).2.target.isSome = s.target.isSome := by
  cases call with
  | spawn args apart => simp [spawns] at spawning
  | close => exact absurd rfl closing
  | step modifier includeLocals =>
    obtain ⟨result, debugger, trace, ends, held⟩ := s.step_ending modifier includeLocals
    simp [run, ends, held]
  | locals =>
    obtain ⟨result, debugger, ends, held⟩ := Dialogue.locals.whenActive.run_ending s
    simp [run, Session.locals_eq_run, ends, held]
  | dump name =>
    obtain ⟨result, debugger, ends, held⟩ := (Dialogue.dump name).whenActive.run_ending s
    simp [run, Session.dump_eq_run, ends, held]
  | sendTargetLine line =>
    obtain ⟨success, target, sent, held⟩ := s.sendTargetLine_eq line
    simp [run, sent, held]
  | sendTargetFile contents =>
    obtain ⟨success, target, sent, held⟩ := s.sendTargetFile_eq contents
    simp [run, sent, held]
  | _ => exact ⟨rfl, rfl, rfl, rfl⟩

end Call

-- ---------------------------------------------------------------------------
-- Histories
-- ---------------------------------------------------------------------------

namespace Session

variable {C L : Type} [Channel C] [Launcher L C]

/-- The session after some calls. -/
def after : List (Call L) → Session C L → Session C L
  | [], s => s
  | call :: later, s => after later (call.run s).2

/-- The answers to some calls. -/
def answers : List (Call L) → Session C L → List Answer
  | [], _ => []
  | call :: later, s => (call.run s).1 :: answers later (call.run s).2

/-- What every call of a kind keeps, every history of such calls keeps. -/
theorem after_keeps (kept : Session C L → Prop) (kind : Call L → Prop)
    (step : ∀ call s, kind call → kept s → kept (call.run s).2) {calls : List (Call L)}
    (calls_kind : ∀ call ∈ calls, kind call) {s : Session C L} (start : kept s) :
    kept (after calls s) := by
  induction calls generalizing s with
  | nil => exact start
  | cons call later ih =>
    obtain ⟨first, rest⟩ := List.forall_mem_cons.1 calls_kind
    exact ih rest (step call s first start)

end Session
end Retrace
