import Retrace.Session.Basic

/-!
# Stepping

What an active session does with the debugger: read the variables of the current
frame, read the value of an expression, and execute one step and record it. A
session that is not active does nothing.
-/

namespace Retrace

/-- Which way to step. -/
inductive StepModifier where
  /-- To the next line of the method. -/
  | plain
  /-- Into a method that is called. -/
  | into
  /-- Out of the current method. -/
  | up
  deriving DecidableEq, Repr

namespace StepModifier

/-- The command for a step. -/
def command : StepModifier → String
  | .plain => "step"
  | .into => "step in"
  | .up => "step up"

end StepModifier

namespace Session

variable {C L : Type} [Channel C]

/-- Runs an exchange if the session is active. -/
def whenActive {α : Type} (x : Talk C L α) : Talk C L (Option α) := fun s =>
  if s.isActive then (some <$> x) s else .ok none s

-- ---------------------------------------------------------------------------
-- Variables
-- ---------------------------------------------------------------------------

/-- Asks for the variables of the current frame. -/
def askLocals : Talk C L Frame := do
  send "locals"
  let answer ← expect Message.localsAnswer
  let arguments ←
    if answer.matched = Message.methodArgumentsHeader then
      let found ← expect Message.localVariablesHeader
      pure (Variables.parse found.before)
    else
      pure .empty
  let rest ← expect Message.prompt
  return { arguments, locals := Variables.parse rest.before }

/-- The variables of the current frame. -/
def locals : Talk C L (Option Frame) :=
  whenActive askLocals

/-- The value in the answer to a request for a name: what follows the name and the equals sign, up
to the prompt. -/
def dumpedValue (name prompt answer : List Char) : Value :=
  let body := Text.trim ((Text.stripEnd? prompt answer).getD answer)
  let value := (Text.stripStart? name body).bind fun rest =>
    Text.stripStart? ['='] (Text.trimStart rest)
  Value.read (Text.trim (value.getD body))

/-- Asks for the value of a name. An empty line comes first, since its answer is the prompt, and
the prompt ends the answer that counts. -/
def askDump (name : String) : Talk C L Value := do
  send ""
  let probe ← expect Message.prompt
  let prompt := Text.trim probe.matched.toList
  send ("dump " ++ name)
  let found ← expect (Message.dump name (String.ofList prompt))
  return dumpedValue name.toList prompt found.matched.toList

/-- The value of a name. -/
def dump (name : String) : Talk C L (Option Value) :=
  whenActive (askDump name)

-- ---------------------------------------------------------------------------
-- Steps
-- ---------------------------------------------------------------------------

/-- Whether the output before a header announces a method entry. -/
def announcesEntry (before : List Char) : Bool :=
  Message.methodEnteredMarker.toList.isSuffixOf (Text.trimEnd before)

/-- Whether a header says where the program stopped. -/
def isStop (header : List Char) : Bool :=
  match StepEvent.ofHeader? header with
  | some event => !event.isEmpty
  | none => false

/-- The record of an event with the variables of its frame. The arguments belong to the record of a
method entry only. -/
def recordOf (event : StepEvent) (frame : Frame) (includeLocals : Bool) : StepRecord where
  event := event
  call := if event.kind = .methodEntry then some frame.arguments else none
  locals := if includeLocals then some frame.locals else none

/-- Executes a step and adds its record to the trace. The source line comes after the header, up
to the next prompt. -/
def takeStep (modifier : StepModifier) (includeLocals : Bool) : Talk C L StepRecord := do
  send modifier.command
  let header ← expect Message.stepHeader
  if isStop header.matched.toList then
    let listing ← expect Message.prompt
    let event := StepEvent.ofOutput? header.matched.toList listing.before.toList
      (announcesEntry header.before.toList)
    let frame ← locals
    let record := recordOf (event.getD {}) (frame.getD {}) includeLocals
    modify fun s => { s with trace := s.trace.push record }
    return record
  else
    throw (.hostError header.matched)

/-- Executes a step. -/
def step (modifier : StepModifier) (includeLocals : Bool) : Talk C L (Option StepRecord) :=
  whenActive (takeStep modifier includeLocals)

end Session

end Retrace
