/-!
# Powers

The two bases in which numbers are scaled: doubles by powers of two, decimals by powers of ten.
-/

namespace Retrace

/-- The power of two with exponent `n`. -/
def twoTo (n : Nat) : Nat := Nat.pow 2 n

/-- The power of ten with exponent `n`. -/
def tenTo (n : Nat) : Nat := Nat.pow 10 n

end Retrace
