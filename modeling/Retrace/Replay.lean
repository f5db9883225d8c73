import Retrace.Application
import Retrace.Site.Standard
import Retrace.Viewer.Drawing

/-!
# Replaying a recording

A recording is what a debugger wrote: its version in the first line, then all of its output. It
stands for the debugger, which answers whatever it is asked with the next part of the recording.
-/

namespace Retrace.Replay

/-- The debugger that a recording stands for. -/
def debugger (recording : List Char) : Program :=
  let (version, output) := (Text.cutAt '\n' recording).getD (recording, [])
  { output := String.ofList output, exits := true, version := String.ofList version }

/-- The directories that the command line speaks of, with those on the way. -/
def directories (args : List String) : List Place :=
  match CommandLine.parse args with
  | .ok options => options.request.path.toList.flatMap (FileTree.home.way ·)
  | .error _ => []

/-- The files at which a recording is replayed. -/
def files (args : List String) : FileTree :=
  FileTree.standard.withDirectories (directories args)

/-- A site at which a recording is the only debugger. -/
def site (args : List String) (config : Config) (recording : String) : Site Running Machine where
  files := files args
  directory := FileTree.home
  compiler := { program := config.javac }
  launcher := {
    programs := [(config.jdb, debugger recording.toList)]
    files := files args
    directory := FileTree.home
    searched := FileTree.searched }

/-- The size of a screen that is printed. -/
def screenSize : Nat × Nat := (120, 40)

/-- The screen with the first step of a trace. -/
def screen (trace : ProgramTrace) : List String :=
  let (width, height) := screenSize
  ((Viewer.ofTrace trace {}).draw width height).1.map Viewer.Row.text

/-- Runs the program on a recording; a trace that is to be viewed is printed as a screen. -/
def run (program : String) (args : List String) (env : String → Option String)
    (recording : String) : Outcome :=
  let (outcome, _) := Application.run program args env (site args (({} : Config).overlay env) recording)
  match outcome.view with
  | some trace => { outcome with stdout := Application.linesText (screen trace) }
  | none => outcome

end Retrace.Replay
