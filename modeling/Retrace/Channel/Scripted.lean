import Retrace.Channel.Basic

/-!
# Rehearsed processes

A rehearsed process has a script: it accepts the lines of the script in their
order only, and answers each with the text that the script has for it. Nothing
takes time, so output that is not there will never come.
-/

namespace Retrace

/-- A line of a script with its answer. -/
structure Reply where
  command : String
  output : String
  /-- The process ends with this answer. -/
  exits : Bool := false
  deriving DecidableEq, Repr, Inhabited

/-- The characters of all answers of a script. -/
def Reply.outputLength : List Reply → Nat
  | [] => 0
  | reply :: rest => reply.output.length + outputLength rest

/-- A rehearsed process. -/
structure Scripted where
  buffer : Buffer := {}
  /-- What is still to come. -/
  script : List Reply := []
  /-- The lines it was sent, in order. -/
  sent : List String := []
  ended : Bool := false
  closed : Bool := false
  discarding : Bool := false
  /-- Ending it fails with this text. -/
  closeError : Option String := none
  deriving DecidableEq, Repr, Inhabited

namespace Scripted

/-- Sends a line. It is noted even if the script has another one. -/
def send (line : String) : Exchange Scripted Unit := fun c =>
  if c.closed || c.ended then .error (.io .exited) c
  else
    let c := { c with sent := c.sent ++ [line] }
    match c.script with
    | [] => .ok () c
    | reply :: rest =>
      let c := { c with script := rest }
      if reply.command ≠ line then .error (.io (.unscripted reply.command line)) c
      else
        let buffer := if c.discarding then c.buffer else c.buffer.feed reply.output
        .ok () { c with buffer, ended := reply.exits }

/-- Takes the output up to a match. -/
def expect (p : Pattern) (limit : Duration) : Exchange Scripted Expectation := fun c =>
  match c.buffer.take? p with
  | some (found, buffer) => .ok found { c with buffer }
  | none => if c.ended then .error .hostExited c else .error (.timeout p.source limit) c

/-- Drops the output from now on. -/
def discard (c : Scripted) : Scripted :=
  { c with discarding := true, buffer := {} }

/-- Ends the process; it is closed even if that fails. -/
def close : Exchange Scripted Unit := fun c =>
  let c := { c with closed := true }
  match c.closeError with
  | some message => .error (.io (.closeFailed message)) c
  | none => .ok () c

/-- The characters that wait and those of the answers to come. -/
def unread (c : Scripted) : Nat :=
  c.buffer.pending.length + Reply.outputLength c.script

instance : Channel Scripted where
  send := send
  expect := expect
  ended := Scripted.ended
  closed := Scripted.closed
  discard := discard
  close := close
  unread := unread

instance : LawfulChannel Scripted where
  closed_close c := by
    change (stateAfter (close c)).closed = true
    cases failing : c.closeError <;> simp [close, failing, stateAfter]

end Scripted

/-- Hands out rehearsed processes in order and notes what was started. -/
structure Rehearsal where
  waiting : List Scripted
  launched : List Command := []
  deriving DecidableEq, Repr, Inhabited

namespace Rehearsal

/-- The next rehearsed process. The command is noted even if there is none left. -/
def launch (command : Command) : EStateM SessionError Rehearsal Scripted := fun r =>
  let r := { r with launched := r.launched ++ [command] }
  match r.waiting with
  | [] => .error (.launch command.text "no scripted process left") r
  | c :: rest => .ok c { r with waiting := rest }

instance : Launcher Rehearsal Scripted where
  launch := launch

end Rehearsal

end Retrace
