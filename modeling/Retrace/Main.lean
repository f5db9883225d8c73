import Retrace.Replay

/-!
# The command

Replays the recording of a debugger that comes from standard input.
-/

namespace Retrace

/-- The text that is left on a stream. -/
partial def readAll (stream : IO.FS.Stream) (text : String := "") : IO String := do
  let line ← stream.getLine
  if line.isEmpty then return text
  readAll stream (text ++ line)

/-- The variables of the environment that are set. -/
def environment : IO (List (String × String)) :=
  Config.environmentNames.filterMapM fun name => do
    return (← IO.getEnv name).map (name, ·)

end Retrace

open Retrace in
def main (args : List String) : IO UInt32 := do
  let env ← environment
  let recording ← readAll (← IO.getStdin)
  let outcome := Replay.run "retrace" args (env.lookup ·) recording
  IO.print outcome.stdout
  IO.eprint outcome.stderr
  return outcome.exit.toUInt32
