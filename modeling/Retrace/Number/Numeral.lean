import Retrace.Number.Binary64

/-!
# Reading numbers

Whole numbers are an optional sign and ASCII digits, and have to fit the type
they are read for. Doubles may have a fraction and a power of ten, or be one of
the words for infinity and for what is no number, in any mix of cases.
-/

namespace Retrace.Numeral

/-- The value of a list of ASCII digits. -/
def value (ds : List Char) : Nat :=
  ds.foldl (fun n d => 10 * n + (d.toNat - '0'.toNat)) 0

/-- A sign at the start of a text, and the text without it; `true` is minus. -/
def takeSign : List Char → Bool × List Char
  | '-' :: rest => (true, rest)
  | '+' :: rest => (false, rest)
  | s => (false, s)

/-- The value of a text of one or more ASCII digits. -/
def digits? (s : List Char) : Option Nat :=
  if s ≠ [] ∧ s.all Char.isDigit then some (value s) else none

/-- A whole number below `bound`, which may have a plus sign. -/
def natBelow? (bound : Nat) (s : List Char) : Option Nat :=
  let body := match s with
    | '+' :: rest => rest
    | s => s
  (digits? body).filter (· < bound)

/-- A whole number of 64 bits with an optional sign. -/
def int64? (s : List Char) : Option Int64 :=
  let (negative, body) := takeSign s
  match digits? body with
  | none => none
  | some n =>
    if negative then if n ≤ twoTo 63 then some (Int64.ofInt (-n)) else none
    else if n < twoTo 63 then some (Int64.ofInt n) else none

-- ---------------------------------------------------------------------------
-- Doubles
-- ---------------------------------------------------------------------------

/-- The power of ten written at the end of a number: nothing, or `e` and a signed whole number. -/
def exponent? : List Char → Option Int
  | [] => some 0
  | c :: rest =>
    if c = 'e' ∨ c = 'E' then
      let (negative, body) := takeSign rest
      (digits? body).map fun n => if negative then -(n : Int) else n
    else none

/-- The number in a text of digits with at most one point and an optional exponent. -/
def unsignedDecimal? (negative : Bool) (s : List Char) : Option Binary64 :=
  let whole := s.takeWhile Char.isDigit
  let afterWhole := s.dropWhile Char.isDigit
  let (fraction, rest) := match afterWhole with
    | '.' :: rest => (rest.takeWhile Char.isDigit, rest.dropWhile Char.isDigit)
    | rest => ([], rest)
  if whole = [] ∧ fraction = [] then none
  else
    (exponent? rest).map fun e =>
      Binary64.ofDecimal negative (value (whole ++ fraction)) (e - fraction.length)

/-- The double nearest to the number that a text denotes. -/
def binary64? (s : List Char) : Option Binary64 :=
  let (negative, body) := takeSign s
  let word := String.ofList (body.map Char.toLower)
  if word = "inf" ∨ word = "infinity" then some (.infinite negative)
  else if word = "nan" then some .nan
  else unsignedDecimal? negative body

end Retrace.Numeral
