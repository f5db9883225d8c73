import Retrace.Number.Layout

/-!
# JSON documents

A document and its two printed forms: compact on one line, and spread over lines
with two blanks for each level. Members keep the order in which they are given.
-/

namespace Retrace

/-- A JSON document. -/
inductive Json where
  | null
  | bool (b : Bool)
  | int (n : Int)
  | float (x : Binary64)
  | string (s : String)
  | array (items : List Json)
  | object (members : List (String × Json))
  deriving Inhabited

namespace Json

/-- A natural number as a document. -/
def nat (n : Nat) : Json := .int n

/-- Null in the place of what is missing. -/
def ofOption (f : α → Json) : Option α → Json
  | none => .null
  | some a => f a

/-- The members of an object that are there. -/
def objectOf (members : List (String × Option Json)) : Json :=
  .object (members.filterMap fun (name, j) => j.map (name, ·))

-- ---------------------------------------------------------------------------
-- Scalars
-- ---------------------------------------------------------------------------

/-- How a character is written in a string: quotes, backslashes and control characters as escapes,
everything else as it is. -/
def stringChar (c : Char) : List Char :=
  match c with
  | '"' => ['\\', '"']
  | '\\' => ['\\', '\\']
  | '\n' => ['\\', 'n']
  | '\r' => ['\\', 'r']
  | '\t' => ['\\', 't']
  | '\x08' => ['\\', 'b']
  | '\x0c' => ['\\', 'f']
  | c =>
    if c.toNat < 0x20 then
      let digits := Nat.toDigits 16 c.toNat
      ['\\', 'u'] ++ List.replicate (4 - digits.length) '0' ++ digits
    else [c]

/-- A string between its quotes. -/
def stringText (s : String) : String :=
  String.ofList ('"' :: s.toList.flatMap stringChar ++ ['"'])

/-- A number; infinities and what is no number are null. -/
def floatText : Binary64 → String
  | .finite negative s e => Binary64.documentLayout.finite negative s e
  | _ => "null"

-- ---------------------------------------------------------------------------
-- On one line
-- ---------------------------------------------------------------------------

mutual

/-- The document on one line, without blanks. -/
def compact : Json → String
  | .null => "null"
  | .bool b => if b then "true" else "false"
  | .int n => toString n
  | .float x => floatText x
  | .string s => stringText s
  | .array items => "[" ++ compactItems items ++ "]"
  | .object members => "\x7b" ++ compactMembers members ++ "\x7d"

/-- The items of an array with commas between them. -/
def compactItems : List Json → String
  | [] => ""
  | [item] => compact item
  | item :: next :: rest => compact item ++ "," ++ compactItems (next :: rest)

/-- The members of an object with commas between them. -/
def compactMembers : List (String × Json) → String
  | [] => ""
  | [(name, value)] => stringText name ++ ":" ++ compact value
  | (name, value) :: next :: rest =>
    stringText name ++ ":" ++ compact value ++ "," ++ compactMembers (next :: rest)

end

-- ---------------------------------------------------------------------------
-- On many lines
-- ---------------------------------------------------------------------------

/-- The start of a line at a level. -/
def newLine (level : Nat) : String :=
  "\n" ++ String.ofList (List.replicate (2 * level) ' ')

mutual

/-- The document with each item and member on a line of its own, inside a given level. -/
def prettyAt (level : Nat) : Json → String
  | .null => "null"
  | .bool b => if b then "true" else "false"
  | .int n => toString n
  | .float x => floatText x
  | .string s => stringText s
  | .array [] => "[]"
  | .array items => "[" ++ prettyItems (level + 1) items ++ newLine level ++ "]"
  | .object [] => "\x7b\x7d"
  | .object members => "\x7b" ++ prettyMembers (level + 1) members ++ newLine level ++ "\x7d"

/-- Items on lines of their own with commas between them. -/
def prettyItems (level : Nat) : List Json → String
  | [] => ""
  | [item] => newLine level ++ prettyAt level item
  | item :: next :: rest =>
    newLine level ++ prettyAt level item ++ "," ++ prettyItems level (next :: rest)

/-- Members on lines of their own with commas between them. -/
def prettyMembers (level : Nat) : List (String × Json) → String
  | [] => ""
  | [(name, value)] => newLine level ++ stringText name ++ ": " ++ prettyAt level value
  | (name, value) :: next :: rest =>
    newLine level ++ stringText name ++ ": " ++ prettyAt level value ++ "," ++
      prettyMembers level (next :: rest)

end

/-- The document on many lines. -/
def pretty (j : Json) : String :=
  prettyAt 0 j

end Json

end Retrace
