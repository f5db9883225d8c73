import Retrace.Trace.Step
import Retrace.Value.Printer

/-!
# Histories of variables

The values that each variable took, one after another. A value that equals the
one before it says nothing new. What is no number equals nothing, not even
itself, so it is recorded each time.
-/

namespace Retrace

/-- The values of every variable, and whether the program ended in an exception. -/
structure VariableHistory where
  exceptionOccurred : Bool := false
  values : NameMap (List Value) := .empty
  deriving Repr, Inhabited

namespace VariableHistory

/-- The values of a variable. -/
def get? (h : VariableHistory) (name : String) : Option (List Value) :=
  h.values.get? name

/-- Adds a value at the end unless it equals the last one. -/
def append (values : List Value) (value : Value) : List Value :=
  match values.getLast? with
  | some last => if last.agrees value then values else values ++ [value]
  | none => [value]

/-- Records a value of a variable. -/
def observe (h : VariableHistory) (name : String) (value : Value) : VariableHistory :=
  { h with values := h.values.insert name (append ((h.get? name).getD []) value) }

/-- Records all variables that can be seen in a frame. -/
def observeFrame (h : VariableHistory) (frame : Frame) : VariableHistory :=
  frame.visible.toList.foldl (fun h (name, value) => h.observe name value) h

/-- Keeps the first of the values that equal each other. -/
def distinct (values : List Value) : List Value :=
  values.foldl
    (fun kept value => if kept.any (·.agrees value) then kept else kept ++ [value]) []

/-- Only the distinct values of each variable, in the order of their first appearance. -/
def unique (h : VariableHistory) : VariableHistory :=
  { h with values := h.values.map distinct }

def toJson (h : VariableHistory) : Json :=
  .object [("exception_occurred", .bool h.exceptionOccurred),
    ("variables", .object (h.values.toList.map fun (name, values) =>
      (name, .array (Value.toJsonItems values))))]

end VariableHistory

end Retrace
