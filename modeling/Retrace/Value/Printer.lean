import Retrace.Json
import Retrace.Value.Basic

/-!
# Writing values

The text that the viewer shows for a value, and its JSON document.
-/

namespace Retrace

namespace Value

mutual

/-- The text of a value: strings between quotes as they are, arrays between braces. -/
def text : Value → String
  | .null => "null"
  | .bool b => if b then "true" else "false"
  | .int n => toString n.toInt
  | .float x => x.plain
  | .string s => "\"" ++ s ++ "\""
  | .array items => "\x7b" ++ textItems items ++ "\x7d"
  | .reference s => s

/-- The texts of items with commas between them. -/
def textItems : List Value → String
  | [] => ""
  | [item] => text item
  | item :: next :: rest => text item ++ ", " ++ textItems (next :: rest)

end

mutual

/-- The document of a value. It does not say which kind a text came from. -/
def toJson : Value → Json
  | .null => .null
  | .bool b => .bool b
  | .int n => .int n.toInt
  | .float x => .float x
  | .string s => .string s
  | .array items => .array (toJsonItems items)
  | .reference s => .string s

/-- The documents of items. -/
def toJsonItems : List Value → List Json
  | [] => []
  | item :: rest => toJson item :: toJsonItems rest

end

end Value

namespace Variables

/-- The document of variables, in the order of their names. -/
def toJson (vars : Variables) : Json :=
  .object (vars.toList.map fun (name, value) => (name, value.toJson))

end Variables

end Retrace
