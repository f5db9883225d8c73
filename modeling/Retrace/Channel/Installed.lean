import Retrace.Channel.Scripted
import Retrace.Site.FileTree

/-!
# Installed programs

A program that is installed on a machine writes some text when it is started and
answers the lines it reads. What it does with a line is fixed by its script; a
line that the script does not have ends it, and after the script it only reads.
Asked for its version, it writes that and nothing else.
-/

namespace Retrace

/-- What an installed program does. -/
structure Program where
  /-- What it writes at its start. -/
  output : String := ""
  /-- It ends after that. -/
  exits : Bool := false
  script : List Reply := []
  /-- What it writes when it is asked for its version only. -/
  version : String := ""
  deriving DecidableEq, Repr, Inhabited

/-- A program that was started. -/
structure Running where
  command : Command
  buffer : Buffer := {}
  script : List Reply := []
  /-- The lines it read, without the empty ones. -/
  lines : List String := []
  running : Bool := true
  /-- Somebody waited for output and met its end. -/
  ended : Bool := false
  closed : Bool := false
  discarding : Bool := false
  deriving DecidableEq, Repr, Inhabited

namespace Running

/-- A program at its start. One that is asked for its version writes it and ends. -/
def start (program : Program) (command : Command) : Running :=
  if command.asksVersion then
    { command, buffer := ({} : Buffer).feed program.version, running := false }
  else
    { command
      buffer := ({} : Buffer).feed program.output
      script := program.script
      running := !program.exits }

/-- The arguments that the program notes. A question for the version is not noted. -/
def notedArguments (p : Running) : List String :=
  if p.command.asksVersion then [] else p.command.args

/-- Reads one line. -/
def receive (p : Running) (line : String) : Running :=
  if !p.running then p
  else
    let p := if line = "" then p else { p with lines := p.lines ++ [line] }
    match p.script with
    | [] => p
    | reply :: rest =>
      if reply.command ≠ line then { p with script := rest, running := false }
      else
        let buffer := if p.discarding then p.buffer else p.buffer.feed reply.output
        { p with script := rest, buffer, running := !reply.exits }

/-- Writes a text and a line feed. The process reads a line for each line feed in it. -/
def send (text : String) : Exchange Running Unit := fun p =>
  if p.closed then .error (.io .channelClosed) p
  else .ok () ((Text.splitOn '\n' text.toList).foldl (fun p line => p.receive (String.ofList line)) p)

/-- Takes the output up to a match. -/
def expect (pattern : Pattern) (limit : Duration) : Exchange Running Expectation := fun p =>
  match p.buffer.take? pattern with
  | some (found, buffer) => .ok found { p with buffer }
  | none =>
    if p.running then .error (.timeout pattern.source limit) p
    else .error .hostExited { p with ended := true }

/-- Drops the output from now on. -/
def discard (p : Running) : Running :=
  { p with discarding := true, buffer := {} }

/-- Ends the process. -/
def close : Exchange Running Unit := fun p =>
  .ok () { p with closed := true, running := false }

/-- The characters that wait and those of the answers to come. -/
def unread (p : Running) : Nat :=
  p.buffer.pending.length + Reply.outputLength p.script

instance : Channel Running where
  send := send
  expect := expect
  ended := Running.ended
  closed := Running.closed
  discard := discard
  close := close
  unread := unread

instance : LawfulChannel Running where
  closed_close _ := rfl

end Running

/-- A machine: the programs that are installed on it, by their names, and its files. -/
structure Machine where
  programs : List (String × Program) := []
  files : FileTree := {}
  /-- The directory in which programs are started. -/
  directory : Place := []
  /-- The directories in which programs are looked for by their names. -/
  searched : List Place := []
  deriving Repr, Inhabited

namespace Machine

/-- The program of a name. -/
def program? (m : Machine) (name : String) : Option Program :=
  (m.programs.find? (·.1 = name)).map (·.2)

/-- Some directory in which programs are looked for has a directory under a name. -/
def meetsDirectory (m : Machine) (name : String) : Bool :=
  (m.directory :: m.searched).any fun place =>
    (m.files.findDirectory place ("./" ++ name) .denied).isOk

/-- Why a program that is not installed cannot be started. A path from the root has to lead to it;
any other name is looked for, in the current directory first. No file can be run, and a directory
is taken for a program until it is to be run. -/
def refusal (m : Machine) (name : String) : String :=
  if Path.isAbsolute name then
    match m.files.findDirectory [] name .denied with
    | .ok _ => PathError.denied.message
    | .error cause =>
      "Unable to spawn " ++ name ++ " because it doesn't exist on the filesystem or is not " ++
        "executable (" ++ cause.symbol ++ ": " ++ cause.text ++ ")"
  else if m.meetsDirectory name then PathError.denied.message
  else
    "Unable to spawn " ++ name ++ " because it doesn't exist on the filesystem and was not " ++
      "found in PATH"

/-- Starts a program. -/
def launch (command : Command) : EStateM SessionError Machine Running := fun m =>
  match m.program? command.program with
  | none => .error (.launch command.text (m.refusal command.program)) m
  | some program =>
    if command.holdsZero then
      .error (.launch command.text "nul byte found in provided data") m
    else .ok (Running.start program command) m

instance : Launcher Machine Running where
  launch := launch
  moveTo := fun directory m => { m with directory }

end Machine

end Retrace
