import Retrace.Proofs.Session.Handshake
import Retrace.Proofs.Session.Stepping

/-!
# Dialogues

An exchange with the debugger as a tree: a node says a line, waits for a pattern or looks whether
the session is still active, and what was found decides how it goes on. Every exchange of a session
is the run of such a tree, so a property that each kind of node keeps belongs to all of them.
-/

namespace Retrace

/-- An exchange that ends with a result in a state. -/
def ending {ε σ α : Type} (result : Except ε α) (s : σ) : EStateM.Result ε σ α :=
  match result with
  | .ok a => .ok a s
  | .error e => .error e s

@[simp] theorem stateAfter_ending {ε σ α : Type} (result : Except ε α) (s : σ) :
    stateAfter (ending result s) = s := by
  cases result <;> rfl

/-- What an exchange keeps, and what comes after it keeps, both together keep. -/
theorem invariant_bind {ε σ α β : Type} {P : σ → Prop} {x : EStateM ε σ α} {f : α → EStateM ε σ β}
    {s : σ} (first : P (stateAfter (x s))) (later : ∀ a t, P t → P (stateAfter (f a t))) :
    P (stateAfter ((x >>= f) s)) := by
  cases ends : x s with
  | ok a t =>
    rw [ends] at first
    rw [bind_of_ok ends]
    exact later a t first
  | error e t =>
    rw [ends] at first
    rw [bind_of_error ends]
    exact first

theorem ending_inj {ε σ α : Type} {result₁ result₂ : Except ε α} {s₁ s₂ : σ}
    (h : ending result₁ s₁ = ending result₂ s₂) : result₁ = result₂ ∧ s₁ = s₂ := by
  cases result₁ <;> cases result₂ <;> simp_all [ending]

theorem Session.withDebugger_ending {C L α : Type} (x : Exchange C α) (s : Session C L) :
    ∃ result debugger, withDebugger x s = ending result { s with debugger } ∧
      debugger.isSome = s.debugger.isSome := by
  unfold withDebugger
  cases held : s.debugger with
  | none =>
    refine ⟨.error (.io .notRunning), none, ?_, rfl⟩
    cases s
    subst held
    rfl
  | some c =>
    cases answer : x c with
    | ok a c' => exact ⟨.ok a, some c', by simp [answer, ending], rfl⟩
    | error e c' => exact ⟨.error e, some c', by simp [answer, ending], rfl⟩

theorem bind_congr_of_eq {ε σ α β : Type} {x y : EStateM ε σ α} {f g : α → EStateM ε σ β} {s : σ}
    (first : x s = y s) (later : ∀ a t, y s = .ok a t → f a t = g a t) :
    (x >>= f) s = (y >>= g) s := by
  cases ends : y s with
  | ok a t => rw [bind_of_ok (first.trans ends), bind_of_ok ends, later a t ends]
  | error e t => rw [bind_of_error (first.trans ends), bind_of_error ends]

/-- What follows an exchange with the debugger needs to agree on the debugger's states only. -/
theorem Session.withDebugger_bind_congr {C L α β : Type} (x : Exchange C α)
    {f g : α → Talk C L β} (s : Session C L)
    (h : ∀ a debugger, f a { s with debugger } = g a { s with debugger }) :
    (withDebugger x >>= f) s = (withDebugger x >>= g) s := by
  refine bind_congr_of_eq rfl fun a s' ends => ?_
  obtain ⟨result, debugger, same, -⟩ := withDebugger_ending x s
  rw [same] at ends
  cases result with
  | ok a' =>
    obtain ⟨rfl, rfl⟩ := EStateM.Result.ok.inj ends
    exact h a' debugger
  | error e => cases ends

/-- What a session says to its debugger and what it waits for. -/
inductive Dialogue (α : Type) where
  /-- The exchange is over. -/
  | done (result : α)
  /-- The output is no answer. -/
  | reject (output : String)
  | say (line : String) (next : Dialogue α)
  | hear (p : Pattern) (next : Expectation → Dialogue α)
  /-- Looks whether the session is active. -/
  | look (next : Bool → Dialogue α)

namespace Dialogue

variable {C L α β : Type}

/-- One exchange after another. -/
def bind : Dialogue α → (α → Dialogue β) → Dialogue β
  | .done a, f => f a
  | .reject output, _ => .reject output
  | .say line next, f => .say line (next.bind f)
  | .hear p next, f => .hear p fun found => (next found).bind f
  | .look next, f => .look fun active => (next active).bind f

/-- Only an active session takes up the exchange. -/
def whenActive (d : Dialogue α) : Dialogue (Option α) :=
  .look fun active => if active then d.bind fun a => .done (some a) else .done none

/-- Holds the dialogue with the debugger of a session. -/
def run [Channel C] : Dialogue α → Talk C L α
  | .done a => pure a
  | .reject output => throw (.hostError output)
  | .say line next => do Session.send line; next.run
  | .hear p next => do (next (← Session.expect p)).run
  | .look next => fun s => (next s.isActive).run s

-- ---------------------------------------------------------------------------
-- The exchanges of a session
-- ---------------------------------------------------------------------------

/-- The last piece of an answer with variables. -/
def rest (arguments : Variables) : Dialogue Frame :=
  .hear Message.prompt fun rest => .done { arguments, locals := Variables.parse rest.before }

/-- Asks for the variables of the current frame. -/
def locals : Dialogue Frame :=
  .say "locals" <| .hear Message.localsAnswer fun answer =>
    if answer.matched = Message.methodArgumentsHeader then
      .hear Message.localVariablesHeader fun found => rest (Variables.parse found.before)
    else rest .empty

/-- Asks for the value of a name, after an empty line that brings the prompt. -/
def dump (name : String) : Dialogue Value :=
  .say "" <| .hear Message.prompt fun probe =>
    let prompt := Text.trim probe.matched.toList
    .say ("dump " ++ name) <| .hear (Message.dump name (String.ofList prompt)) fun found =>
      .done (Session.dumpedValue name.toList prompt found.matched.toList)

/-- Steps, and reads the source line and the variables at the new place. -/
def step (modifier : StepModifier) (includeLocals : Bool) : Dialogue StepRecord :=
  .say modifier.command <| .hear Message.stepHeader fun header =>
    if Session.isStop header.matched.toList then
      .hear Message.prompt fun listing =>
        let event := StepEvent.ofOutput? header.matched.toList listing.before.toList
          (Session.announcesEntry header.before.toList)
        locals.whenActive.bind fun frame =>
          .done (Session.recordOf (event.getD {}) (frame.getD {}) includeLocals)
    else .reject header.matched

/-- Brings the debugger to the entry method. -/
def prepare (breakpoint exclude : String) : Dialogue Unit :=
  .say breakpoint <| .hear Message.breakpointSet fun _ =>
    .say "run" <| .hear Message.breakpointHit fun _ =>
      .say exclude <| .say "trace methods 1" <| locals.whenActive.bind fun _ => .done ()

-- ---------------------------------------------------------------------------
-- Running them
-- ---------------------------------------------------------------------------

section
variable [Channel C]

theorem run_bind (d : Dialogue α) (f : α → Dialogue β) :
    (d.bind f).run = (d.run >>= fun a => (f a).run : Talk C L β) := by
  induction d with
  | done a => rfl
  | reject output => rfl
  | say line next ih => simp only [bind, run, ih, bind_assoc]
  | hear p next ih => simp only [bind, run, ih, bind_assoc]
  | look next ih =>
    funext s
    exact congrFun (ih s.isActive) s

theorem run_whenActive (d : Dialogue α) :
    d.whenActive.run = (Session.whenActive d.run : Talk C L (Option α)) := by
  funext s
  change (if s.isActive then d.bind fun a => .done (some a) else .done none : Dialogue _).run s = _
  unfold Session.whenActive
  split
  · rw [run_bind, ← bind_pure_comp]
    rfl
  · rfl

theorem run_locals : (locals.run : Talk C L Frame) = Session.askLocals := by
  unfold locals Session.askLocals
  simp only [run]
  congr! 4 with _ answer
  split <;> rfl

theorem run_dump (name : String) : ((dump name).run : Talk C L Value) = Session.askDump name :=
  rfl

/-- The dialogue of a step yields the record, which is then added to the trace. -/
theorem run_step (modifier : StepModifier) (includeLocals : Bool) :
    Session.takeStep modifier includeLocals =
      ((step modifier includeLocals).run >>= fun record => do
        modify fun s => { s with trace := s.trace.push record }
        return record : Talk C L StepRecord) := by
  unfold step Session.takeStep
  simp only [run, bind_assoc]
  congr! 4 with _ header
  split
  · simp only [run, run_bind, run_whenActive, run_locals, bind_assoc, pure_bind]
    rfl
  · rfl

-- ---------------------------------------------------------------------------
-- What a dialogue leaves as it is
-- ---------------------------------------------------------------------------

/-- A dialogue changes the debugger only, and does not let go of it. -/
theorem run_ending (d : Dialogue α) (s : Session C L) :
    ∃ result debugger, d.run s = ending result { s with debugger } ∧
      debugger.isSome = s.debugger.isSome := by
  induction d generalizing s with
  | done a => exact ⟨.ok a, s.debugger, rfl, rfl⟩
  | reject output => exact ⟨.error (.hostError output), s.debugger, rfl, rfl⟩
  | say line next ih =>
    obtain ⟨result, held, sent, same⟩ := Session.withDebugger_ending (Channel.send line) s
    cases result with
    | ok a =>
      obtain ⟨result, held', later, same'⟩ := ih { s with debugger := held }
      exact ⟨result, held', (bind_of_ok sent).trans later, same'.trans same⟩
    | error e => exact ⟨.error e, held, bind_of_error sent, same⟩
  | hear p next ih =>
    obtain ⟨result, held, got, same⟩ :=
      Session.withDebugger_ending (Channel.expect p s.config.timeout) s
    cases result with
    | ok found =>
      obtain ⟨result, held', later, same'⟩ := ih found { s with debugger := held }
      exact ⟨result, held', (bind_of_ok got).trans later, same'.trans same⟩
    | error e => exact ⟨.error e, held, bind_of_error got, same⟩
  | look next ih => exact ih s.isActive s

/-- The preparation of a debugger is a dialogue about the names of its session, which the exchanges
before the third command leave as they are. -/
theorem run_prepare (s : Session C L) :
    Session.prepare s = (prepare s.breakpointCommand s.excludeCommand).run s := by
  unfold prepare Session.prepare
  simp only [run, run_bind, run_whenActive, run_locals]
  rw [get_bind]
  refine Session.withDebugger_bind_congr _ s fun _ debugger => ?_
  refine Session.withDebugger_bind_congr _ _ fun _ debugger => ?_
  refine Session.withDebugger_bind_congr _ _ fun _ debugger => ?_
  refine Session.withDebugger_bind_congr _ _ fun _ debugger => ?_
  rfl

end

end Dialogue
end Retrace
