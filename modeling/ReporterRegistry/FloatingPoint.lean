/-!
# Floating-point numbers

What a floating-point format makes of a number that is not negative: the nearest
number of so many significant bits, and of two that are equally near the one
whose last bit is zero.

Numbers are exact, a natural number times a power of two, so that rounding is a
function on natural numbers. Formats here have no largest number; who needs a
bound asks whether a rounded number is below it.
-/

namespace ReporterRegistry

/-- The number `mantissa * 2 ^ exponent`. -/
structure Binary where
  mantissa : Nat
  exponent : Int
  deriving DecidableEq, Repr

namespace Binary

/-- A natural number. -/
def ofNat (n : Nat) : Binary := ⟨n, 0⟩

/-- The exact product. -/
def mul (x y : Binary) : Binary := ⟨x.mantissa * y.mantissa, x.exponent + y.exponent⟩

/-- Whether a number is below a power of two. -/
def isBelow (x : Binary) (power : Int) : Bool :=
  x.mantissa = 0 || (Nat.log2 x.mantissa : Int) + x.exponent < power

/-- The value of a whole number below a power of two. -/
def natBelow? (x : Binary) (power : Int) : Option Nat :=
  if x.isBelow power then
    match x.exponent with
    | .ofNat e => some (x.mantissa <<< e)
    | .negSucc e =>
      if x.mantissa % (1 <<< (e + 1)) = 0 then some (x.mantissa >>> (e + 1)) else none
  else none

end Binary

/-- A floating-point format: how many significant bits a number has, and the exponent
of the smallest number. -/
structure FloatFormat where
  precision : Nat
  leastExponent : Int
  deriving DecidableEq, Repr

namespace FloatFormat

/-- Double precision. -/
def double : FloatFormat := ⟨53, -1074⟩

/-- Extended double precision, with a significand of 64 bits. -/
def extended : FloatFormat := ⟨64, -16445⟩

/-- The integer nearest to `n / 2 ^ places`; a half goes to the even neighbour. -/
def dropBits (places n : Nat) : Nat :=
  let whole := n >>> places
  let unit := 1 <<< places
  let rest := n % unit
  if 2 * rest < unit ∨ (2 * rest = unit ∧ whole % 2 = 0) then whole else whole + 1

/-- How many bits a number has. -/
def bitLength (n : Nat) : Nat := if n = 0 then 0 else Nat.log2 n + 1

/-- The number of the format that is nearest to a number. -/
def round (format : FloatFormat) (x : Binary) : Binary :=
  let surplus := (bitLength x.mantissa : Int) - format.precision
  let places := (max surplus (format.leastExponent - x.exponent)).toNat
  ⟨dropBits places x.mantissa, x.exponent + places⟩

/-- The number of the format that is nearest to `1 / n`. -/
def reciprocal (format : FloatFormat) (n : Nat) : Binary :=
  let places := Nat.log2 n + format.precision + 2
  let dividend := 1 <<< places
  let quotient := dividend / n
  -- Below the bits that matter, one more says whether the division left a rest.
  let rest := if quotient * n = dividend then 0 else 1
  format.round ⟨2 * quotient + rest, -(places + 1 : Nat)⟩

/-- The rounded product. -/
def mul (format : FloatFormat) (x y : Binary) : Binary := format.round (x.mul y)

/-- Multiply by a power, one factor after the other: `factor k` stands for the kth
power, and the factors are hundredth powers first, then tenth, then single ones. -/
def mulPower (format : FloatFormat) (factor : Nat → Binary) (power : Nat) (x : Binary) : Binary :=
  let x := Nat.repeat (format.mul (factor 100)) (power / 100) x
  let x := Nat.repeat (format.mul (factor 10)) (power % 100 / 10) x
  Nat.repeat (format.mul (factor 1)) (power % 10) x

/-- Multiply by a power of ten in the arithmetic of the format. -/
def scale (format : FloatFormat) (x : Binary) (power : Int) : Binary :=
  match power with
  | .ofNat n => format.mulPower (fun k => format.round (.ofNat (Nat.pow 10 k))) n x
  | .negSucc n => format.mulPower (fun k => format.reciprocal (Nat.pow 10 k)) (n + 1) x

end FloatFormat

end ReporterRegistry
