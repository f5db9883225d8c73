import Retrace.Duration
import Retrace.Site.Path
import Retrace.Text.Quoted

/-!
# What can go wrong in a session

The causes, and one text for each. The end of the debugger is an error here as
well, since every exchange expects an answer; a trace takes it as the normal end.
-/

namespace Retrace

/-- Failures of input and output. -/
inductive IoError where
  /-- A rehearsed process was sent a line after its end. -/
  | exited
  /-- A rehearsed process was sent another line than the script has. -/
  | unscripted (expected got : String)
  /-- A line was sent after the channel was closed. -/
  | channelClosed
  /-- A line was sent while there is no debugger. -/
  | notRunning
  /-- A process could not be ended. -/
  | closeFailed (message : String)
  /-- A path was refused. -/
  | path (cause : PathError)
  deriving DecidableEq, Repr

/-- Failures of an exchange with the debugger. -/
inductive SessionError where
  /-- The output ended: the debugger or the program is gone. -/
  | hostExited
  /-- Output that is no answer; in practice the report of an exception. -/
  | hostError (output : String)
  /-- Nothing that fits a pattern arrived in time. -/
  | timeout (pattern : String) (limit : Duration)
  /-- A process could not be started. -/
  | launch (command message : String)
  | io (cause : IoError)
  deriving DecidableEq, Repr

namespace IoError

/-- The text of a failure. -/
def message : IoError → String
  | .exited => "scripted process has exited"
  | .unscripted expected got =>
    "script expected " ++ Text.quoted expected ++ ", got " ++ Text.quoted got
  | .channelClosed => "channel is closed"
  | .notRunning => "jdb is not running"
  | .closeFailed message => message
  | .path cause => cause.message

/-- The class of a failure, as a report for developers names it. -/
def kind : IoError → String
  | .exited => "BrokenPipe"
  | .unscripted .. => "InvalidInput"
  | .channelClosed => "NotConnected"
  | .notRunning => "NotConnected"
  | .closeFailed _ => "Other"
  | .path cause => cause.kind

/-- The report of a failure for developers. One of the operating system is given by its parts. -/
def report (e : IoError) : String :=
  match e with
  | .path cause =>
    "Os \x7b code: " ++ toString cause.code ++ ", kind: " ++ cause.kind ++ ", message: " ++
      Text.quoted cause.text ++ " \x7d"
  | _ => "Custom \x7b kind: " ++ e.kind ++ ", error: " ++ Text.quoted e.message ++ " \x7d"

end IoError

namespace SessionError

/-- The text of an error for users. -/
def message : SessionError → String
  | .hostExited => "debugger host exited"
  | .hostError output => "unexpected debugger output: " ++ Text.quoted output
  | .timeout pattern limit =>
    "timed out after " ++ limit.text ++ " waiting for " ++ Text.quoted pattern
  | .launch command message => "failed to launch `" ++ command ++ "`: " ++ message
  | .io cause => "I/O error: " ++ cause.message

/-- The report of an error for developers, with all its parts. -/
def report : SessionError → String
  | .hostExited => "HostExited"
  | .hostError output => "HostError \x7b output: " ++ Text.quoted output ++ " \x7d"
  | .timeout pattern limit =>
    "ProtocolTimeout \x7b pattern: " ++ Text.quoted pattern ++ ", timeout: " ++ limit.text ++ " \x7d"
  | .launch command message =>
    "Launch \x7b command: " ++ Text.quoted command ++ ", message: " ++ Text.quoted message ++ " \x7d"
  | .io cause => "Io(" ++ cause.report ++ ")"

/-- The error only says that the program is over. -/
def isHostExit : SessionError → Bool
  | .hostExited => true
  | _ => false

/-- The output could not be made sense of, as after an exception in the program. -/
def isHostError : SessionError → Bool
  | .hostError _ => true
  | _ => false

end SessionError

end Retrace
