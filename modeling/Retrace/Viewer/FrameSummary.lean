import Retrace.Trace.Report
import Retrace.Viewer.Style

/-!
# Summary of a step

The lines that tell where a step is and what the variables hold: the kind of step and the method,
the place, the value that was returned, the arguments and the local variables.
-/

namespace Retrace.Viewer

/-- The style of a value. -/
def valueStyle : Value → Style
  | .string _ => .plain Palette.green
  | .int _ | .float _ | .bool _ | .null => .plain Palette.orange
  | .reference _ => .plain Palette.grey
  | .array _ => .plain Palette.ink

/-- The text of a value in its style. -/
def valueSpan (value : Value) : Span :=
  ⟨value.text, valueStyle value⟩

/-- The line of one variable. -/
def variableLine (name : String) (value : Value) : StyledLine :=
  [⟨"  " ++ name, .plain Palette.ink⟩, ⟨" = ", .plain Palette.grey⟩, valueSpan value]

/-- An empty line, a title, and the variables in the order of their names. -/
def variableLines (title : String) (vars : Variables) : List StyledLine :=
  let body :=
    if vars.isEmpty then [[⟨"  (none)", .plain Palette.grey⟩]]
    else vars.toList.map fun (name, value) => variableLine name value
  [] :: [⟨title, .strong Palette.blue⟩] :: body

/-- The word for a kind of step. -/
def kindSpan : StepKind → Span
  | .step => ⟨"step ", .strong Palette.ink⟩
  | .methodEntry => ⟨"enter ", .strong Palette.green⟩
  | .methodExit => ⟨"exit ", .strong Palette.orange⟩

/-- Thread, line and byte code index, as far as they are known. -/
def placeLines (event : StepEvent) : List StyledLine :=
  let parts :=
    (event.thread.map ("thread=" ++ ·)).toList ++
    (event.line.map fun n => "line=" ++ toString n).toList ++
    (event.bci.map fun n => "bci=" ++ toString n).toList
  if parts.isEmpty then [] else [[⟨" ".intercalate parts, .plain Palette.grey⟩]]

/-- The value that a method returned. -/
def returnLines (event : StepEvent) : List StyledLine :=
  match event.returned with
  | some value => [[], [⟨"return ", .strong Palette.pink⟩, valueSpan value]]
  | none => []

/-- The lines of a record. -/
def summary (record : StepRecord) : List StyledLine :=
  [kindSpan record.event.kind, ⟨record.event.label.getD "?", .plain Palette.yellow⟩] ::
    placeLines record.event ++
    returnLines record.event ++
    (record.call.map (variableLines "Arguments")).getD [] ++
    (record.locals.map (variableLines "Locals")).getD []

/-- The lines of the step on the screen, if there is one. -/
def frameLines : Option StepRecord → List StyledLine
  | some record => summary record
  | none => [[⟨"no steps recorded", .plain Palette.grey⟩]]

end Retrace.Viewer
