import Retrace.Number.Power

/-!
# Double-precision numbers

A number is a significand times a power of two, an infinity, or no number at
all. The arithmetic here is exact until the one step that rounds, `ofRatio`,
which takes the nearest number and of two nearest ones the even one.
-/

namespace Retrace

-- ---------------------------------------------------------------------------
-- Rounding quotients
-- ---------------------------------------------------------------------------

/-- The natural number nearest to `n / d`; of two nearest ones the even one. -/
def roundToEven (n d : Nat) : Nat :=
  let q := n / d
  let twice := 2 * (n % d)
  if twice < d then q
  else if d < twice then q + 1
  else if q % 2 = 0 then q
  else q + 1

/-- The largest `e` with `2 ^ e ≤ n / d`, for positive `n` and `d`. -/
def floorLog2 (n d : Nat) : Int :=
  let e : Int := n.log2 - d.log2
  if d * twoTo e.toNat ≤ n * twoTo (-e).toNat then e else e - 1

-- ---------------------------------------------------------------------------
-- The numbers
-- ---------------------------------------------------------------------------

/-- A double: `finite negative s e` is `s * 2 ^ e`, less than zero when `negative` is set.

The numbers that `ofRatio` builds are in normal form: the significand is below `2 ^ 53`, and it
is at least `2 ^ 52` unless the exponent is the least one, `-1074`. -/
inductive Binary64 where
  | nan
  | infinite (negative : Bool)
  | finite (negative : Bool) (significand : Nat) (exponent : Int)
  deriving DecidableEq, Repr, Inhabited

namespace Binary64

/-- The exponent of the smallest numbers. -/
def minExponent : Int := -1074

/-- The exponent of the largest numbers. -/
def maxExponent : Int := 971

/-- Zero with a sign. -/
def zero (negative : Bool) : Binary64 :=
  .finite negative 0 minExponent

/-- The number nearest to `n / d` or its negation; an infinity beyond the largest number. -/
def ofRatio (negative : Bool) (n d : Nat) : Binary64 :=
  if n = 0 then zero negative
  else
    let e := max (floorLog2 n d - 52) minExponent
    let s := roundToEven (n * twoTo (-e).toNat) (d * twoTo e.toNat)
    let (s, e) := if s = twoTo 53 then (twoTo 52, e + 1) else (s, e)
    if maxExponent < e then .infinite negative else .finite negative s e

/-- The number nearest to an integer. -/
def ofInt (n : Int) : Binary64 :=
  ofRatio (n < 0) n.natAbs 1

/-- How many digits a natural number has in base ten; none for zero. -/
def decimalLength (n : Nat) : Nat :=
  if n = 0 then 0 else (Nat.toDigits 10 n).length

/-- The number nearest to `coefficient * 10 ^ exponent` or its negation.

Outside of the powers of ten at which a double can be finite and not zero the answer is known
without computing the power. -/
def ofDecimal (negative : Bool) (coefficient : Nat) (exponent : Int) : Binary64 :=
  let magnitude := decimalLength coefficient + exponent
  if coefficient = 0 ∨ magnitude < -330 then zero negative
  else if 310 < magnitude then .infinite negative
  else ofRatio negative (coefficient * tenTo exponent.toNat) (tenTo (-exponent).toNat)

/-- Greater than zero. -/
def isPositive : Binary64 → Bool
  | .nan => false
  | .infinite negative => !negative
  | .finite negative s _ => !negative && s != 0

/-- Equal as numbers: the two zeros are equal, and what is no number equals nothing. -/
def numEq : Binary64 → Binary64 → Bool
  | .infinite a, .infinite b => a == b
  | .finite a s e, .finite b t f =>
    let m := min e f
    s * twoTo (e - m).toNat == t * twoTo (f - m).toNat && (a == b || s == 0)
  | _, _ => false

/-- A number equals itself unless it is no number. -/
theorem numEq_self (x : Binary64) : x.numEq x = (x != .nan) := by
  cases x with
  | nan => rfl
  | infinite a => cases a <;> rfl
  | finite a s e => simp [numEq, bne]

end Binary64

end Retrace
