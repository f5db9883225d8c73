import Retrace.Session.Step

/-!
# Starting a session

The debugger is started on the class and stopped at the entry method, the
classes of the standard library are stepped over, and method calls are traced.
With a program of its own the class is started first, waits for the debugger,
and keeps its standard input to itself; what it writes is dropped.
-/

namespace Retrace.Session

variable {C L : Type} [Channel C]

/-- The classes of the standard library. -/
def defaultExcluded : List String :=
  ["java.*", "javax.*", "sun.*", "com.sun.*", "jdk.*"]

/-- The classes to step over, with commas between them. -/
def exclusions (s : Session C L) : String :=
  ",".intercalate (defaultExcluded ++ s.excluded.filter (· ≠ ""))

/-- The command that starts the debugger on the class. -/
def launchCommand (s : Session C L) (args : List String) : Command :=
  .debugger s.config s.className s.classPath args

/-- The command that starts the class apart. -/
def targetCommand (s : Session C L) (args : List String) : Command :=
  .waiting s.config s.className s.classPath args s.config.port

/-- The command that sets the first breakpoint. -/
def breakpointCommand (s : Session C L) : String :=
  "stop in " ++ s.className ++ "." ++ s.entryMethod

/-- The command that names the classes to step over. -/
def excludeCommand (s : Session C L) : String :=
  "exclude " ++ s.exclusions

variable [Launcher L C]

/-- Waits until a program that was started apart listens for the debugger, and drops its output
from then on. A program that does not listen is let go. -/
def adopt (target : C) : Talk C L Unit := fun s =>
  match (Channel.expect Message.listening s.config.timeout : Exchange C Expectation) target with
  | .ok _ target => .ok () { s with target := some (Channel.discard target) }
  | .error e target =>
    let target := shut target
    .error e { s with
      retired := s.retired ++ [target]
      journal := s.journal ++ [.closed target] }

/-- Starts the debugger on the class. -/
def launchDirect (args : List String) : Talk C L Unit := do
  let debugger ← launch ((← get).launchCommand args)
  modify fun s => { s with debugger := some debugger }

/-- Starts the debugger that connects to a class. -/
def attach : Talk C L Unit := do
  let config := (← get).config
  let debugger ← launch (.attach config config.port)
  modify fun s => { s with debugger := some debugger }

/-- Starts the class, and then the debugger that connects to it. -/
def launchApart (args : List String) : Talk C L Unit := do
  let target ← launch ((← get).targetCommand args)
  adopt target
  attach

/-- Starts the processes of a session. -/
def launchProcesses (args : List String) (apart : Bool) : Talk C L Unit :=
  if apart then launchApart args else launchDirect args

omit [Launcher L C] in
/-- The commands that bring the debugger to the entry method. The last exchange takes what the
debugger wrote in answer to all of them. -/
def prepare : Talk C L Unit := do
  send (← get).breakpointCommand
  let _ ← expect Message.breakpointSet
  send "run"
  let _ ← expect Message.breakpointHit
  send (← get).excludeCommand
  send "trace methods 1"
  let _ ← locals

/-- Starts the processes and prepares the debugger. The trace begins anew when all is ready. -/
def start (args : List String) (apart : Bool) : Talk C L Unit := do
  launchProcesses args apart
  prepare
  modify fun s => { s with trace := s.trace.clear }

/-- Starts the session; what ran before is let go first, and everything if the start fails. -/
def spawn (args : List String) (apart : Bool) : Talk C L Unit := fun s =>
  match start args apart s.close with
  | .ok () s => .ok () s
  | .error e s => .error e s.close

end Retrace.Session
