import Retrace.Launch.Tools
import Retrace.Site.FileTree

/-!
# Compiling

Before a trace the sources are compiled with what the debugger needs to show
variables. All sources of the directory are tried first; if that fails, or if
there are none, the source of the class alone. A failure is not fatal, since the
classes may have been compiled before.
-/

namespace Retrace

/-- An installed compiler. -/
structure Compiler where
  /-- The name under which it can be run. -/
  program : String
  /-- The exit codes of its next runs; it succeeds after them. -/
  exits : List Nat := []
  /-- The arguments of its runs so far. -/
  calls : List (List String) := []
  deriving DecidableEq, Repr, Inhabited

namespace Compiler

/-- Runs a command; whether it succeeds. A command for another program does not, nor one that
cannot be handed on. -/
def run (c : Compiler) (command : Command) : Bool × Compiler :=
  if command.program ≠ c.program ∨ command.holdsZero then (false, c)
  else
    (c.exits.head?.getD 0 = 0,
      { c with exits := c.exits.tail, calls := c.calls ++ [command.args] })

/-- Whether a file name is that of a source: it ends in `.java`, after a stem. -/
def isSource (name : String) : Bool :=
  match Text.cutAtLast '.' name.toList with
  | some (stem, ending) => stem ≠ [] && ending = "java".toList
  | none => false

/-- The sources in a directory, in order of their names. -/
def sources (tree : FileTree) (directory : Place) : List String :=
  ((tree.fileNames directory).filter isSource).mergeSort (fun a b => !(b < a))

/-- The source of a class: packages are directories. -/
def ownSource (className : String) : String :=
  String.ofList (className.toList.map fun c => if c = '.' then '/' else c) ++ ".java"

/-- Compiles for a class in a directory; whether a run succeeds. -/
def compile (c : Compiler) (config : Config) (className : String) (path : ClassPath)
    (sources : List String) : Bool × Compiler :=
  let own (c : Compiler) := c.run (.compiler config path [ownSource className])
  if sources = [] then own c
  else
    match c.run (.compiler config path sources) with
    | (true, c) => (true, c)
    | (false, c) => own c

end Compiler

end Retrace
