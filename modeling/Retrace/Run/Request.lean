import Retrace.Launch.ClassPath

/-!
# What to trace
-/

namespace Retrace

/-- A class with what it needs to run. -/
structure Request where
  className : String
  /-- The directory to run and compile in; the current one if none is given. -/
  path : Option String := none
  classPath : Option ClassPath := none
  /-- The arguments of the program. -/
  args : List String := []
  /-- A line for the standard input of the program. -/
  stdin : Option String := none
  deriving DecidableEq, Repr, Inhabited

namespace Request

/-- The class path of the trace. -/
def effectiveClassPath (r : Request) : ClassPath :=
  ClassPath.effective r.classPath

/-- The line for the program, unless it is empty. -/
def input? (r : Request) : Option String :=
  r.stdin.filter (· ≠ "")

/-- The program gets a line, so it has to be started apart. -/
def feedsStdin (r : Request) : Bool :=
  r.input?.isSome

end Request

end Retrace
