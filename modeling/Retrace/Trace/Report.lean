import Retrace.Trace.Step
import Retrace.Value.Printer

/-!
# Documents of steps

The JSON documents of records and frames. What is missing is left out, so a
document says exactly what was printed.
-/

namespace Retrace

namespace StepKind

/-- The name of a kind in documents. -/
def name : StepKind → String
  | .step => "step"
  | .methodEntry => "method_entry"
  | .methodExit => "method_exit"

end StepKind

namespace StepEvent

/-- The members of the document of an event. -/
def members (event : StepEvent) : List (String × Option Json) :=
  [("kind", some (.string event.kind.name)),
   ("thread", event.thread.map .string),
   ("class_method", event.label.map .string),
   ("method", event.method.map .string),
   ("line", event.line.map .nat),
   ("bci", event.bci.map .nat),
   ("instruction", event.instruction.map .string),
   ("return", event.returned.map Value.toJson)]

def toJson (event : StepEvent) : Json :=
  .objectOf event.members

end StepEvent

namespace StepRecord

/-- The members of the event, then the arguments and the local variables. -/
def toJson (record : StepRecord) : Json :=
  .objectOf (record.event.members ++
    [("call", record.call.map Variables.toJson), ("locals", record.locals.map Variables.toJson)])

end StepRecord

namespace Frame

def toJson (frame : Frame) : Json :=
  .object [("arguments", Variables.toJson frame.arguments),
    ("locals", Variables.toJson frame.locals)]

end Frame

end Retrace
