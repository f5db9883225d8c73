import Retrace.Number.Shortest

/-!
# Writing doubles

A layout says how the digits of the shortest decimal are set: for which
exponents the point stands among the digits, and how a whole number ends.
-/

namespace Retrace

/-- How a decimal is written. -/
structure DecimalLayout where
  /-- What is written when a double lies between two shortest decimals. -/
  tie : TieRule
  /-- Whether the point stands among the digits, for the power of ten of the first digit; else
  the power is written after an `e`, with its sign. -/
  positional : Int → Bool
  /-- What follows a whole number that has no exponent. -/
  wholeMark : String

namespace DecimalLayout

/-- The digits of a number in base ten. -/
def digits (n : Nat) : List Char :=
  Nat.toDigits 10 n

/-- The text of a decimal that is not zero. -/
def text (layout : DecimalLayout) (d : Decimal) : String :=
  let ds := digits d.coefficient
  let first := d.exponent + ds.length - 1
  if layout.positional first then
    if 0 ≤ d.exponent then
      String.ofList (ds ++ List.replicate d.exponent.toNat '0') ++ layout.wholeMark
    else if 0 ≤ first then
      let whole := (first + 1).toNat
      String.ofList (ds.take whole ++ '.' :: ds.drop whole)
    else
      String.ofList ('0' :: '.' :: List.replicate (-first - 1).toNat '0' ++ ds)
  else
    let fraction := if ds.length ≤ 1 then [] else '.' :: ds.drop 1
    let sign := if first < 0 then '-' else '+'
    String.ofList (ds.take 1 ++ fraction ++ 'e' :: sign :: digits first.natAbs)

/-- The text of a finite double. -/
def finite (layout : DecimalLayout) (negative : Bool) (s : Nat) (e : Int) : String :=
  let magnitude :=
    if s = 0 then "0" ++ layout.wholeMark else layout.text (shortest layout.tie s e)
  if negative then "-" ++ magnitude else magnitude

end DecimalLayout

namespace Binary64

/-- On screen a number never has an exponent, a whole number has no point, and a tie goes to the
larger decimal. -/
def plainLayout : DecimalLayout where
  tie := .larger
  positional _ := true
  wholeMark := ""

/-- In a document a number has an exponent below `10 ^ -5` and from `10 ^ 16` on, a whole number
ends in `.0`, and a tie goes to the even decimal. -/
def documentLayout : DecimalLayout where
  tie := .even
  positional first := -5 ≤ first && first < 16
  wholeMark := ".0"

/-- The text of a double on screen. -/
def plain : Binary64 → String
  | .nan => "NaN"
  | .infinite negative => if negative then "-inf" else "inf"
  | .finite negative s e => plainLayout.finite negative s e

end Binary64

end Retrace
