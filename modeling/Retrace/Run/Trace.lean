import Retrace.Run.Request
import Retrace.Run.VariableHistory
import Retrace.Session.Target
import Retrace.Site.Basic
import Retrace.Trace.Report

/-!
# Traces

A trace steps through a program from its entry to its end. It ends well when the
debugger is gone, and with an exception when the debugger writes something that
is no step; other errors are passed on.

A step takes at least one character of the debugger's output, so the output that
is still to come bounds the number of steps.
-/

namespace Retrace

/-- All steps of a program. -/
structure ProgramTrace where
  exceptionOccurred : Bool := false
  steps : List StepRecord := []
  deriving Repr, Inhabited

namespace ProgramTrace

def toJson (t : ProgramTrace) : Json :=
  .object [("exception_occurred", .bool t.exceptionOccurred),
    ("steps", .array (t.steps.map StepRecord.toJson))]

end ProgramTrace

namespace Trace

/-- Whether an error ends a trace, and if so, whether by an exception. -/
def ending? : SessionError → Option Bool
  | .hostExited => some false
  | .hostError _ => some true
  | _ => none

variable {C L : Type} [Channel C]

/-- How a trace goes on after an error: it is over, or the error is passed on. -/
def endedBy {α : Type} (e : SessionError) (result : Bool → α) : Talk C L α := fun s =>
  match ending? e with
  | some exceptionOccurred => .ok (result exceptionOccurred) s
  | none => .error e s

/-- The number of rounds that a trace can take. -/
def rounds (s : Session C L) : Nat :=
  match s.debugger with
  | some c => Channel.unread c + 1
  | none => 1

-- ---------------------------------------------------------------------------
-- Every step
-- ---------------------------------------------------------------------------

/-- Steps until the program ends; whether by an exception. -/
def stepToEnd : Nat → Talk C L Bool
  | 0 => fun s => .ok false s
  | fuel + 1 => fun s =>
    match Session.step .into true s with
    | .ok (some _) s => stepToEnd fuel s
    | .ok none s => .ok false s
    | .error e s => endedBy e id s

/-- Records every step with its variables. -/
def allSteps : Talk C L ProgramTrace := fun s =>
  let s := s.setTraceCapacity none
  match stepToEnd (rounds s) s with
  | .ok exceptionOccurred s => .ok { exceptionOccurred, steps := s.trace.toList } s
  | .error e s => .error e s

-- ---------------------------------------------------------------------------
-- Variables only
-- ---------------------------------------------------------------------------

/-- How many steps a session keeps while only variables are asked for. -/
def keptSteps : Nat := 5

/-- The variables after one step; none if there is no further step. -/
def nextFrame : Talk C L (Option Frame) := do
  match ← Session.step .into false with
  | some _ => Session.locals
  | none => pure none

/-- Steps until the program ends and records the variables after each step. -/
def observeToEnd : Nat → VariableHistory → Talk C L VariableHistory
  | 0, h => fun s => .ok h s
  | fuel + 1, h => fun s =>
    match nextFrame s with
    | .ok (some frame) s => observeToEnd fuel (h.observeFrame frame) s
    | .ok none s => .ok h s
    | .error e s => endedBy e (fun exceptionOccurred => { h with exceptionOccurred }) s

/-- Records the values of all variables. -/
def allValues : Talk C L VariableHistory := fun s =>
  let s := s.setTraceCapacity (some keptSteps)
  observeToEnd (rounds s) {} s

-- ---------------------------------------------------------------------------
-- Whole traces
-- ---------------------------------------------------------------------------

/-- Starts the session for a request and gives the program its line of input. -/
def openSession [Launcher L C] (request : Request) : Talk C L Unit := do
  Session.spawn request.args request.feedsStdin
  match request.input? with
  | some line => modify fun s => (s.sendTargetLine line).2
  | none => pure ()

omit [Channel C] in
/-- The session of a request before it is started. -/
def fresh (config : Config) (request : Request) (launcher : L) : Session C L :=
  { Session.new request.className config launcher with
    classPath := some request.effectiveClassPath }

/-- Compiles if asked to, and runs a session. -/
def visit [Launcher L C] {α : Type} (config : Config) (request : Request) (body : Talk C L α) :
    Errand C L α := do
  if config.compile then
    let _ ← Site.compile config request.className request.effectiveClassPath
  Site.withSession (fresh config request) do
    openSession request
    body

/-- Does this in the directory of a request. -/
def run [Launcher L C] {α : Type} (config : Config) (request : Request) (body : Talk C L α) :
    Errand C L α :=
  Site.inDirectory request.path (visit config request body)

/-- Every step of a program. -/
def program [Launcher L C] (config : Config) (request : Request) : Errand C L ProgramTrace :=
  run config request allSteps

/-- The values that every variable of a program took; with `unique` each of them once. -/
def variableHistory [Launcher L C] (config : Config) (request : Request) (unique : Bool) :
    Errand C L VariableHistory := do
  let history ← run config request allValues
  return if unique then history.unique else history

end Trace

end Retrace
