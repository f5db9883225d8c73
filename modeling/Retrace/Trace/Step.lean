import Retrace.Text.Lines
import Retrace.Text.Search
import Retrace.Value.Basic

/-!
# Steps

A step event says where the program stopped and why; a step record adds the
variables that were read there. A debugger sometimes prints only a part of an
event, so every part may be missing.
-/

namespace Retrace

/-- Why the program stopped. -/
inductive StepKind where
  | step
  | methodEntry
  | methodExit
  deriving DecidableEq, Repr, Inhabited

/-- Where the program stopped. -/
structure StepEvent where
  kind : StepKind := .step
  thread : Option String := none
  /-- Class and method, such as `pkg.Outer$Inner.run()`. -/
  label : Option String := none
  method : Option String := none
  line : Option Nat := none
  /-- Index of the byte code instruction. -/
  bci : Option Nat := none
  /-- Text of the source line. -/
  instruction : Option String := none
  /-- The value returned, on a method exit. -/
  returned : Option Value := none
  deriving Repr, Inhabited

namespace StepEvent

/-- Nothing of use was printed. -/
def isEmpty (event : StepEvent) : Bool :=
  event.label.isNone && event.line.isNone && event.instruction.isNone

/-- The class in the label: what stands before the last point, without the parentheses. -/
def className? (event : StepEvent) : Option String :=
  event.label.bind fun label =>
    let name := (Text.stripEnd? "()".toList label.toList).getD label.toList
    (Text.cutAtLast '.' name).map fun (className, _) => String.ofList className

end StepEvent

/-- One entry of a trace. -/
structure StepRecord where
  event : StepEvent := {}
  /-- The arguments of a method that was entered. -/
  call : Option Variables := none
  locals : Option Variables := none
  deriving Repr, Inhabited

/-- The variables that can be seen in the current frame. -/
structure Frame where
  arguments : Variables := .empty
  locals : Variables := .empty
  deriving Repr, Inhabited

namespace Frame

def isEmpty (frame : Frame) : Bool :=
  frame.arguments.isEmpty && frame.locals.isEmpty

/-- All variables; a local variable hides an argument of the same name. -/
def visible (frame : Frame) : Variables :=
  frame.arguments.union frame.locals

end Frame

end Retrace
