/-!
# Commands

A program with its arguments, as it is started and as messages show it.
-/

namespace Retrace

/-- A program with its arguments. -/
structure Command where
  program : String
  args : List String := []
  /-- The directory to run in; the current one if there is none. -/
  directory : Option String := none
  deriving DecidableEq, Repr, Inhabited

namespace Command

/-- The program and its arguments with blanks between them. -/
def text (c : Command) : String :=
  " ".intercalate (c.program :: c.args)

/-- A part of the command holds the character zero; such a command cannot be handed on. -/
def holdsZero (c : Command) : Bool :=
  (c.program :: c.args).any (·.toList.contains '\x00')

/-- The flag that is followed by a class path. -/
def classPathFlag : String := "-classpath"

/-- The argument after the first class path flag. -/
def classPathArgument? (c : Command) : Option String :=
  (c.args.dropWhile (· ≠ classPathFlag))[1]?

/-- The flag that makes a tool write its version. -/
def versionFlag : String := "-version"

/-- Asks for the version and nothing else. -/
def asksVersion (c : Command) : Bool :=
  c.args == [versionFlag]

end Command

end Retrace
