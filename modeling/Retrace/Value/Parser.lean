import Retrace.Number.Numeral
import Retrace.Text.Lines
import Retrace.Value.Basic
import Retrace.Value.Elements

/-!
# Reading values

Every text is a value. The forms overlap, so they are tried in a fixed order: a
reference such as `instance of int[] (id=4)` is one although it contains digits
and brackets, and a digit between quotes is a string. Text of no other form is a
string as it stands.
-/

namespace Retrace.Value

/-- The text between the braces of an array. -/
def unbrace? : List Char → Option (List Char)
  | '{' :: rest => if rest.getLast? = some '}' then some rest.dropLast else none
  | _ => none

/-- The text between two equal quotes. Nothing is an escape in it. -/
def unquote? : List Char → Option (List Char)
  | q :: rest =>
    if (q = '\x27' ∨ q = '"') ∧ rest.getLast? = some q then some rest.dropLast else none
  | [] => none

theorem unbrace?_length_lt {token body : List Char} (h : unbrace? token = some body) :
    body.length < token.length := by
  unfold unbrace? at h
  split at h
  · split at h
    · simp only [Option.some.injEq] at h
      subst h
      simp only [List.length_dropLast, List.length_cons]
      omega
    · simp at h
  · simp at h

/-- The value of a text that is neither a reference nor an array. -/
def readScalar (token : List Char) : Value :=
  if token = "null".toList then .null
  else
    match unquote? token with
    | some s => .string (String.ofList s)
    | none =>
      if token = "true".toList then .bool true
      else if token = "false".toList then .bool false
      else
        match Numeral.int64? token with
        | some n => .int n
        | none =>
          match Numeral.binary64? token with
          | some x => .float x
          | none => .string (String.ofList token)

/-- The value of a text. -/
def read (token : List Char) : Value :=
  if token = "<void value>".toList then .null
  else if "instance".toList.isPrefixOf token then .reference (String.ofList token)
  else
    match h : unbrace? token with
    | some body =>
      .array ((Elements.split (Text.trim body)).attach.map fun ⟨piece, hpiece⟩ =>
        have : piece.length < token.length :=
          Nat.lt_of_le_of_lt
            (Nat.le_trans (Elements.length_le_of_mem_split hpiece) (Text.trim_length_le body))
            (unbrace?_length_lt h)
        read piece)
    | none => readScalar token
  termination_by token.length

/-- The value of a text. -/
def parse (token : String) : Value :=
  read token.toList

end Retrace.Value

namespace Retrace.Variables

/-- The name and value on a line: the text before the first equals sign and the text after it. -/
def readLine? (line : List Char) : Option (String × Value) :=
  (Text.cutAt '=' line).map fun (name, value) =>
    (String.ofList (Text.trim name), Value.read (Text.trim value))

/-- The variables in a block of lines. A line without an equals sign says nothing, and of two
lines for one name the later one counts. -/
def read (block : List Char) : Variables :=
  .ofList ((Text.lines (Text.trim (Text.unifyEndings block))).filterMap readLine?)

/-- The variables in a block of lines. -/
def parse (block : String) : Variables :=
  read block.toList

end Retrace.Variables
