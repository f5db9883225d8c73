import Retrace.Number.Binary64

/-!
# Durations

How long to wait for output. A duration is a whole number of nanoseconds; it is
shown in the largest unit of which it has at least one.
-/

namespace Retrace

/-- A span of time. -/
structure Duration where
  nanoseconds : Nat
  deriving DecidableEq, Repr, Inhabited

namespace Duration

/-- Nanoseconds in a second. -/
def second : Nat := 1000000000

def ofSeconds (n : Nat) : Duration := ⟨n * second⟩

def ofMilliseconds (n : Nat) : Duration := ⟨n * 1000000⟩

/-- Whole seconds. -/
def seconds (d : Duration) : Nat := d.nanoseconds / second

/-- The nanoseconds beyond the whole seconds. -/
def fraction (d : Duration) : Nat := d.nanoseconds % second

/-- The duration nearest to a number of seconds, if there is one: the number is not negative and
its seconds fit 64 bits. A number halfway between two nanoseconds goes to the even one. -/
def ofBinary64? : Binary64 → Option Duration
  | .nan => none
  | .infinite _ => none
  | .finite negative s e =>
    let n := roundToEven (s * twoTo e.toNat * second) (twoTo (-e).toNat)
    if (negative ∧ s ≠ 0) ∨ twoTo 64 * second ≤ n then none else some ⟨n⟩

/-- `n` units of `10 ^ places`, without zeros at the end of the fraction. -/
private def decimalText (n places : Nat) : String :=
  let whole := toString (n / tenTo places)
  let digits := Nat.toDigits 10 (n % tenTo places)
  let padded := List.replicate (places - digits.length) '0' ++ digits
  let fraction := (padded.reverse.dropWhile (· = '0')).reverse
  if fraction = [] then whole else whole ++ "." ++ String.ofList fraction

/-- The text of a duration, such as `30s`, `2.5s`, `300ms` or `0ns`. -/
def text (d : Duration) : String :=
  let n := d.nanoseconds
  if second ≤ n then decimalText n 9 ++ "s"
  else if 1000000 ≤ n then decimalText n 6 ++ "ms"
  else if 1000 ≤ n then decimalText n 3 ++ "µs"
  else toString n ++ "ns"

end Duration

end Retrace
