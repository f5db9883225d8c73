import Retrace.Channel.Buffer
import Retrace.Launch.Command
import Retrace.Session.Error

/-!
# Channels

A channel is what a session talks to: it sends lines to a process and waits for
output. An exchange changes the channel whether it succeeds or fails.
-/

namespace Retrace

/-- An exchange over a channel. -/
abbrev Exchange (C α : Type) := EStateM SessionError C α

/-- The state that an exchange leaves behind, whether it succeeds or fails. -/
def stateAfter {ε σ α : Type} : EStateM.Result ε σ α → σ
  | .ok _ s => s
  | .error _ s => s

/-- A process that reads lines and writes text. -/
class Channel (C : Type) where
  /-- Writes a line. -/
  send : String → Exchange C Unit
  /-- Takes the output up to a match; an error if the output ends before or the time runs out. -/
  expect : Pattern → Duration → Exchange C Expectation
  /-- The output has ended. -/
  ended : C → Bool
  /-- The channel was closed. -/
  closed : C → Bool
  /-- Drops the output, also what will be written from now on. -/
  discard : C → C
  /-- Ends the process. -/
  close : Exchange C Unit
  /-- How many characters of output there are at most, with those still to be written. -/
  unread : C → Nat

/-- Closing leaves a channel closed, also if its process could not be ended. -/
class LawfulChannel (C : Type) [Channel C] : Prop where
  closed_close : ∀ c : C, Channel.closed (stateAfter (Channel.close c)) = true

/-- Starts processes. -/
class Launcher (L : Type) (C : outParam Type) where
  launch : Command → EStateM SessionError L C
  /-- Starts processes in another directory from now on. -/
  moveTo : Place → L → L := fun _ launcher => launcher

end Retrace
