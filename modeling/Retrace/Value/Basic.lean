import Retrace.NameMap
import Retrace.Number.Layout

/-!
# Values

What a debugger prints for a variable, recovered as one of seven kinds. Objects
are not looked into: a reference is the text that was printed for it.
-/

namespace Retrace

/-- A value printed by the debugger. -/
inductive Value where
  | null
  | bool (b : Bool)
  | int (n : Int64)
  | float (x : Binary64)
  | string (s : String)
  | array (items : List Value)
  | reference (text : String)
  deriving Inhabited, Repr

/-- Variables with their values. -/
abbrev Variables := NameMap Value

namespace Value

def isNull : Value → Bool
  | .null => true
  | _ => false

def isReference : Value → Bool
  | .reference _ => true
  | _ => false

def asInt? : Value → Option Int64
  | .int n => some n
  | _ => none

/-- The number of a float; a whole number counts as the float nearest to it. -/
def asFloat? : Value → Option Binary64
  | .float x => some x
  | .int n => some (.ofInt n.toInt)
  | _ => none

def asBool? : Value → Option Bool
  | .bool b => some b
  | _ => none

/-- The text of a string or a reference. -/
def asText? : Value → Option String
  | .string s => some s
  | .reference s => some s
  | _ => none

def asArray? : Value → Option (List Value)
  | .array items => some items
  | _ => none

-- ---------------------------------------------------------------------------
-- Equality
-- ---------------------------------------------------------------------------

mutual

/-- Equal as values: of one kind, and floats equal as numbers. -/
def agrees : Value → Value → Bool
  | .null, .null => true
  | .bool a, .bool b => a == b
  | .int a, .int b => a == b
  | .float a, .float b => a.numEq b
  | .string a, .string b => a == b
  | .array a, .array b => agreesAll a b
  | .reference a, .reference b => a == b
  | _, _ => false

/-- Equal item by item. -/
def agreesAll : List Value → List Value → Bool
  | [], [] => true
  | a :: as, b :: bs => agrees a b && agreesAll as bs
  | _, _ => false

end

mutual

/-- Contains what is no number, on its own or in an array. -/
def hasNan : Value → Bool
  | .float x => x == .nan
  | .array items => anyNan items
  | _ => false

/-- Some item contains what is no number. -/
def anyNan : List Value → Bool
  | [] => false
  | item :: rest => hasNan item || anyNan rest

end

mutual

/-- A value equals itself unless what is no number occurs in it. -/
theorem agrees_self : (v : Value) → v.agrees v = !v.hasNan
  | .null => rfl
  | .bool b => by simp [agrees, hasNan]
  | .int n => by simp [agrees, hasNan]
  | .float x => by simp [agrees, hasNan, Binary64.numEq_self, bne]
  | .string s => by simp [agrees, hasNan]
  | .array items => by simp [agrees, hasNan, agreesAll_self items]
  | .reference s => by simp [agrees, hasNan]

theorem agreesAll_self : (items : List Value) → agreesAll items items = !anyNan items
  | [] => rfl
  | item :: rest => by simp [agreesAll, anyNan, agrees_self item, agreesAll_self rest]

end

end Value

end Retrace
