import Retrace.Run.Request

/-!
# The command line

    <Class> [options] [-- program args...]

Options may stand anywhere before a free `--`. An option that has a value takes
the next word for it, whatever that is. The first other word is the class, and
all others are arguments of the program, as is everything after a free `--`.
-/

namespace Retrace

/-- What a command line asks for. -/
structure Options where
  request : Request
  /-- Print the values of every variable. -/
  vars : Bool := false
  /-- Only the distinct values. -/
  unique : Bool := false
  /-- Print the trace. -/
  json : Bool := false
  deriving DecidableEq, Repr

/-- What is wrong with a command line. -/
inductive UsageError where
  | unknownOption (flag : String)
  | missingValue (flag : String)
  | noClass
  deriving DecidableEq, Repr

namespace UsageError

def message : UsageError → String
  | .unknownOption flag => "unknown option '" ++ flag ++ "'"
  | .missingValue flag => flag ++ " needs a value"
  | .noClass => "no class name provided"

end UsageError

namespace CommandLine

/-- Options that have a value. -/
inductive Valued where
  | path
  | classPath
  | stdin
  deriving DecidableEq, Repr

/-- Options that are there or not. -/
inductive Switch where
  | vars
  | unique
  | json
  deriving DecidableEq, Repr

def Valued.ofFlag? (flag : String) : Option Valued :=
  if flag = "--path" then some .path
  else if flag = "--classpath" ∨ flag = "-cp" then some .classPath
  else if flag = "--stdin" then some .stdin
  else none

def Switch.ofFlag? (flag : String) : Option Switch :=
  if flag = "--vars" then some .vars
  else if flag = "--unique" then some .unique
  else if flag = "--json" then some .json
  else none

/-- What was read so far. -/
structure Draft where
  className : Option String := none
  path : Option String := none
  classPath : Option String := none
  stdin : Option String := none
  args : List String := []
  vars : Bool := false
  unique : Bool := false
  json : Bool := false
  deriving DecidableEq, Repr

namespace Draft

/-- Takes the value of an option; a later value replaces an earlier one. -/
def setValue (d : Draft) (value : String) : Valued → Draft
  | .path => { d with path := some value }
  | .classPath => { d with classPath := some value }
  | .stdin => { d with stdin := some value }

def setSwitch (d : Draft) : Switch → Draft
  | .vars => { d with vars := true }
  | .unique => { d with unique := true }
  | .json => { d with json := true }

/-- Takes a word: the class, or an argument of the program. -/
def addWord (d : Draft) (word : String) : Draft :=
  if d.className.isNone then { d with className := some word }
  else { d with args := d.args ++ [word] }

/-- Reads the words of a command line. -/
def read (d : Draft) : List String → Except UsageError Draft
  | [] => .ok d
  | arg :: rest =>
    if arg = "--" then .ok { d with args := d.args ++ rest }
    else
      match Valued.ofFlag? arg with
      | some valued =>
        match rest with
        | [] => .error (.missingValue arg)
        | value :: rest => read (d.setValue value valued) rest
      | none =>
        match Switch.ofFlag? arg with
        | some switch => read (d.setSwitch switch) rest
        | none =>
          if "--".toList.isPrefixOf arg.toList then .error (.unknownOption arg)
          else read (d.addWord arg) rest

/-- The options, if there is a class. -/
def finish (d : Draft) : Except UsageError Options :=
  match d.className with
  | none => .error .noClass
  | some className =>
    .ok {
      request := {
        className
        path := d.path
        classPath := d.classPath.map .joined
        args := d.args
        stdin := d.stdin }
      vars := d.vars
      unique := d.unique
      json := d.json }

end Draft

/-- Reads a command line. -/
def parse (args : List String) : Except UsageError Options :=
  match Draft.read {} args with
  | .ok d => d.finish
  | .error e => .error e

/-- How the program is used. -/
def usage (program : String) : List String :=
  ["Usage: " ++ program ++ " <Class> [options] [-- program args...]",
    "",
    "Options:",
    "  --path DIR         directory holding the sources (default: current)",
    "  --classpath CP     additional class path",
    "  --vars             print the value history of every variable as JSON",
    "  --unique           with --vars, keep only distinct values",
    "  --stdin TEXT       line written to the program's standard input",
    "  --json             print the full trace as JSON instead of opening the viewer",
    "",
    "Environment:",
    "  JDBTRACE_LOG       log level (error, warn, info, debug, trace)",
    "  JDBTRACE_JDB, JDBTRACE_JAVA, JDBTRACE_JAVAC, JDBTRACE_PORT,",
    "  JDBTRACE_TIMEOUT_SECS, JDBTRACE_NO_COMPILE"]

end CommandLine

end Retrace
