import Retrace.Channel.Basic
import Retrace.Channel.Journal
import Retrace.Launch.Tools
import Retrace.Trace.StepParser

/-!
# Sessions

A session drives the debugger on one class. It holds the channel to the debugger
while that runs, and the channel to the program if that was started apart. What
it lets go of is kept aside, so that all that was said can still be looked up,
and what it launches and closes is noted in a journal.

Exchanges with the debugger are written as programs that may fail; the session
after a failure is part of their outcome.
-/

namespace Retrace

/-- A session. `C` is the type of its channels, `L` of what starts processes for it. -/
structure Session (C L : Type) where
  className : String
  classPath : Option ClassPath
  entryMethod : String
  /-- Classes to step over, besides those of the standard library. -/
  excluded : List String
  config : Config
  launcher : L
  /-- The channel to the debugger. -/
  debugger : Option C := none
  /-- The channel to a program that was started apart. -/
  target : Option C := none
  /-- The channels of the past, in the order in which they were opened. -/
  retired : List C := []
  /-- What was launched and closed. -/
  journal : Journal C := []
  /-- The steps that were recorded. -/
  trace : History StepRecord

/-- An exchange of a session. -/
abbrev Talk (C L α : Type) := EStateM SessionError (Session C L) α

namespace Session

variable {C L : Type}

/-- A session that has not been started. -/
def new (className : String) (config : Config) (launcher : L) : Session C L where
  className := className
  classPath := none
  entryMethod := config.entryMethod
  excluded := config.excluded
  config := config
  launcher := launcher
  trace := .new config.traceCapacity

/-- The debugger runs and its output has not ended. -/
def isActive [Channel C] (s : Session C L) : Bool :=
  match s.debugger with
  | some c => !Channel.closed c && !Channel.ended c
  | none => false

/-- The program was started apart. -/
def hasTarget (s : Session C L) : Bool :=
  s.target.isSome

/-- Every channel that was opened, in the order of opening: a program that was started apart comes
before its debugger. -/
def channels (s : Session C L) : List C :=
  s.retired ++ s.target.toList ++ s.debugger.toList

/-- Keeps another number of records. -/
def setTraceCapacity (s : Session C L) (capacity : Option Nat) : Session C L :=
  { s with trace := s.trace.setCapacity capacity }

-- ---------------------------------------------------------------------------
-- Letting go
-- ---------------------------------------------------------------------------

/-- A channel after closing it, whether that succeeded or not. -/
def shut [Channel C] (c : C) : C :=
  stateAfter (Channel.close c)

/-- Lets go of the debugger, and then of the program. -/
def close [Channel C] (s : Session C L) : Session C L :=
  let debugger := (s.debugger.map shut).toList
  let target := (s.target.map shut).toList
  { s with
    debugger := none
    target := none
    retired := s.retired ++ target ++ debugger
    journal := s.journal ++ (debugger ++ target).map .closed }

-- ---------------------------------------------------------------------------
-- Exchanges
-- ---------------------------------------------------------------------------

/-- An exchange over the channel to the debugger. -/
def withDebugger {α : Type} (x : Exchange C α) : Talk C L α := fun s =>
  match s.debugger with
  | none => .error (.io .notRunning) s
  | some c =>
    match x c with
    | .ok a c => .ok a { s with debugger := some c }
    | .error e c => .error e { s with debugger := some c }

/-- Sends a command to the debugger. -/
def send [Channel C] (line : String) : Talk C L Unit :=
  withDebugger (Channel.send line)

/-- Takes the output of the debugger up to a match. -/
def expect [Channel C] (p : Pattern) : Talk C L Expectation := fun s =>
  withDebugger (Channel.expect p s.config.timeout) s

/-- Starts a process. -/
def launch [Launcher L C] (command : Command) : Talk C L C := fun s =>
  let journal := s.journal ++ [.launched command]
  match Launcher.launch command s.launcher with
  | .ok c launcher => .ok c { s with launcher, journal }
  | .error e launcher => .error e { s with launcher, journal }

end Session

end Retrace
