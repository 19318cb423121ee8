/-!
# The field of the curve

Arithmetic modulo the prime `2 ^ 255 - 19`, on natural numbers kept below it.
Inverses and the test for squares are powers, as the multiplicative group has
`prime - 1` elements.
-/

namespace ReporterRegistry

namespace Ed25519

/-- The characteristic of the field. -/
def prime : Nat := (1 <<< 255) - 19

/-- `base ^ exponent` modulo `modulus`, by repeated squaring. -/
def powMod (base exponent modulus : Nat) : Nat :=
  if exponent = 0 then 1 % modulus
  else
    let half := powMod (base * base % modulus) (exponent / 2) modulus
    if exponent % 2 = 1 then base * half % modulus else half
termination_by exponent
decreasing_by exact Nat.div_lt_self (by omega) (by omega)

namespace Field

/-- The sum of two elements. -/
def add (x y : Nat) : Nat := (x + y) % prime

/-- The difference of two elements. -/
def sub (x y : Nat) : Nat := (x + (prime - y % prime)) % prime

/-- The product of two elements. -/
def mul (x y : Nat) : Nat := x * y % prime

/-- The inverse of an element other than zero. -/
def inv (x : Nat) : Nat := powMod x (prime - 2) prime

/-- Whether an element is a square: it is zero, or its power to half the size of
the multiplicative group is one. -/
def isSquare (x : Nat) : Bool :=
  x % prime = 0 || powMod x ((prime - 1) / 2) prime = 1

end Field

end Ed25519

end ReporterRegistry
