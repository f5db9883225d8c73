/-!
# Arithmetic with and without limits

A program that counts can be read with numbers of any size or with machine words, in which a sum may
be too large and a difference may fall below zero. Written over an arithmetic it is read both ways.
-/

namespace Retrace

/-- How sums and differences are computed. -/
structure Arithmetic (m : Type → Type) where
  add : Nat → Nat → m Nat
  sub : Nat → Nat → m Nat

namespace Arithmetic

/-- Numbers of any size. Below zero there is nothing. -/
def exact : Arithmetic Id where
  add a b := a + b
  sub a b := a - b

/-- Words up to a limit. A sum above it and a difference below zero are refused. -/
def checked (limit : Nat) : Arithmetic Option where
  add a b := if a + b ≤ limit then some (a + b) else none
  sub a b := if b ≤ a then some (a - b) else none

variable {limit a b : Nat}

theorem checked_add_of_le (h : a + b ≤ limit) : (checked limit).add a b = some (a + b) :=
  if_pos h

theorem checked_sub_of_le (h : b ≤ a) : (checked limit).sub a b = some (a - b) :=
  if_pos h

end Arithmetic

end Retrace
