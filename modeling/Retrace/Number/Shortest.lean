import Retrace.Number.Binary64

/-!
# Shortest decimals

The decimal that stands for a double is one with the fewest digits among those
that lie closer to it than to any other double, and of these the nearest. A
double has two neighbours on the grid of the multiples of a power of ten; the
search goes from the coarsest grid to finer ones and stops where one of the two
neighbours reads back as the double.
-/

namespace Retrace

/-- The number `coefficient * 10 ^ exponent`. -/
structure Decimal where
  coefficient : Nat
  exponent : Int
  deriving DecidableEq, Repr

/-- Which of two decimals is written when a double lies exactly between them. -/
inductive TieRule where
  /-- The one whose last digit is even. -/
  | even
  /-- The larger one. -/
  | larger
  deriving DecidableEq, Repr

namespace Shortest

/-- What reads back as `significand * 2 ^ exponent`, on the grid of the multiples of a power of
ten. All of it is scaled to whole numbers: `unit` is one step of the grid, and the interval goes
from `low` to `high` around `value`, its ends included when `closed` is set. -/
structure Grid where
  unit : Nat
  low : Nat
  value : Nat
  high : Nat
  closed : Bool

/-- The grid of the multiples of `10 ^ j` around `s * 2 ^ e`.

The doubles next to it are `2 ^ e` away, but the one below only half as far when `s` is the least
significand of its exponent. A double with an even significand is what a tie reads back as. -/
def grid (s : Nat) (e j : Int) : Grid :=
  let scale := twoTo (e - 2).toNat * tenTo (-j).toNat
  let gapBelow := if s = twoTo 52 ∧ Binary64.minExponent < e then 1 else 2
  { unit := twoTo (2 - e).toNat * tenTo j.toNat
    low := (4 * s - gapBelow) * scale
    value := 4 * s * scale
    high := (4 * s + 2) * scale
    closed := s % 2 = 0 }

/-- Whether the multiple `c` of the grid's unit reads back. -/
def Grid.holds (g : Grid) (c : Nat) : Bool :=
  let x := c * g.unit
  (g.low < x && x < g.high) || (g.closed && (x == g.low || x == g.high))

/-- The neighbour on the grid that reads back; the nearer one if both do. -/
def Grid.pick? (tie : TieRule) (g : Grid) : Option Nat :=
  let c := g.value / g.unit
  let twice := 2 * (g.value % g.unit)
  match g.holds c, g.holds (c + 1) with
  | false, false => none
  | true, false => some c
  | false, true => some (c + 1)
  | true, true =>
    if twice < g.unit then some c
    else if g.unit < twice then some (c + 1)
    else
      match tie with
      | .even => some (if c % 2 = 0 then c else c + 1)
      | .larger => some (c + 1)

/-- Searches the grids from `10 ^ j` downwards. -/
def search (tie : TieRule) (s : Nat) (e : Int) : Nat → Int → Decimal
  | 0, j => ⟨(grid s e j).value / (grid s e j).unit, j⟩
  | fuel + 1, j =>
    match (grid s e j).pick? tie with
    | some c => ⟨c, j⟩
    | none => search tie s e fuel (j - 1)

/-- The power of ten of the first digit of `s * 2 ^ e`, for a double that is not zero: with 330
more places every such double is at least one. -/
def firstPlace (s : Nat) (e : Int) : Int :=
  let n := s * twoTo e.toNat * tenTo 330 / twoTo (-e).toNat
  Binary64.decimalLength n - 331

/-- Without zeros at the end of the coefficient. -/
def dropZeros : Nat → Decimal → Decimal
  | 0, d => d
  | fuel + 1, d =>
    if d.coefficient % 10 = 0 then dropZeros fuel ⟨d.coefficient / 10, d.exponent + 1⟩ else d

end Shortest

/-- The shortest decimal that reads back as `s * 2 ^ e`, for a double that is not zero. Seventeen
digits tell any two doubles apart. -/
def shortest (tie : TieRule) (s : Nat) (e : Int) : Decimal :=
  Shortest.dropZeros 1 (Shortest.search tie s e 17 (Shortest.firstPlace s e))

end Retrace
