import Retrace.Channel.Installed
import Retrace.CommandLine
import Retrace.Run.Trace

/-!
# The program

Reads the command line, looks for a debugger, runs the trace and prints it.
Without an output option the trace is handed on to be viewed. Messages go to
standard error; only the document goes to standard output. What may be logged
on the way is left out.
-/

namespace Retrace

/-- What a run of the program leaves behind. -/
structure Outcome where
  exit : Nat
  stdout : String := ""
  stderr : String := ""
  /-- The trace to view, if it was not printed. -/
  view : Option ProgramTrace := none

namespace Application

/-- Lines with their endings. -/
def linesText (lines : List String) : String :=
  String.join (lines.map (· ++ "\n"))

/-- The version of an installed debugger. -/
def version? (machine : Machine) (name : String) : Option String :=
  (machine.program? name).bind fun program => parseVersion? program.version

/-- What is written when the debugger has no version to show. -/
def missingDebugger (name : String) : String :=
  "Error: cannot run '" ++ name ++ "'; is a JDK installed and on PATH?"

/-- What is written after a full trace. -/
def recorded (trace : ProgramTrace) : String :=
  "Recorded " ++ toString trace.steps.length ++ " step(s)" ++
    (if trace.exceptionOccurred then ", ended with an exception" else "")

/-- What is written for an error that ends the program. -/
def failure (e : SessionError) : String :=
  "Error: " ++ e.report

/-- Prints the values of all variables. -/
def runVariables (config : Config) (options : Options) (said : List String)
    (site : Site Running Machine) : Outcome × Site Running Machine :=
  match Trace.variableHistory config options.request options.unique site with
  | .ok history site =>
    ({ exit := 0, stdout := linesText [history.toJson.pretty], stderr := linesText said }, site)
  | .error e site =>
    ({ exit := 1, stderr := linesText (said ++ [failure e]) }, site)

/-- Prints a full trace, or hands it on. -/
def runProgram (config : Config) (options : Options) (said : List String)
    (site : Site Running Machine) : Outcome × Site Running Machine :=
  let said := said ++ ["Tracing " ++ options.request.className ++ "..."]
  match Trace.program config options.request site with
  | .ok trace site =>
    let stderr := linesText (said ++ [recorded trace])
    if options.json then ({ exit := 0, stdout := linesText [trace.toJson.pretty], stderr }, site)
    else ({ exit := 0, stderr, view := some trace }, site)
  | .error e site =>
    ({ exit := 1, stderr := linesText (said ++ [failure e]) }, site)

/-- Runs the program with its arguments in an environment. -/
def run (program : String) (args : List String) (env : String → Option String)
    (site : Site Running Machine) : Outcome × Site Running Machine :=
  match CommandLine.parse args with
  | .error e =>
    let lines := ["Error: " ++ e.message, ""] ++ CommandLine.usage program
    ({ exit := 1, stderr := linesText lines }, site)
  | .ok options =>
    let config := ({} : Config).overlay env
    match version? site.launcher config.jdb with
    | none => ({ exit := 1, stderr := linesText [missingDebugger config.jdb] }, site)
    | some version =>
      let said := ["Using jdb " ++ version]
      if options.vars then runVariables config options said site
      else runProgram config options said site

end Application

end Retrace
