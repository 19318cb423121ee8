import ReporterRegistry.FloatingPoint
import ReporterRegistry.Text.Decimal

/-!
# Numbers in texts

A text that writes a number, in decimals with an optional sign, point and
exponent, and with blanks around it. `Numeral.integer?` is the signed 64-bit
integer that it stands for, if there is one.

Digits alone stand for themselves. A text with a point or an exponent stands for a
number of double precision: the leading digits are scaled by the power of ten in
extended precision, and the result is rounded once more. So such a text may stand
for an integer that it does not quite write.
-/

namespace ReporterRegistry

/-- A number as a text writes it. -/
structure Numeral where
  negative : Bool
  whole : List Nat
  /-- The digits after the point, if there is a point. -/
  fraction : Option (List Nat)
  exponent : Option Int
  deriving DecidableEq, Repr

namespace Numeral

/-! ### Reading -/

/-- Blanks that may stand around a number in a text. -/
def isBlank (c : Char) : Bool := c = ' ' || ('\t' ≤ c && c ≤ '\r')

/-- The number that the digits of an exponent write. Exponents of more than five
digits are far out of range and all count as ten thousand. -/
def exponentValue (digits : List Nat) : Nat :=
  digits.foldl (fun n d => if n < 10000 then 10 * n + d else 10000) 0

/-- An exponent behind its sign, at the end of a text. -/
def exponentDigits? (cs : List Char) : Option Nat :=
  match Decimal.span cs with
  | ([], _) => none
  | (digits, []) => some (exponentValue digits)
  | (_, _ :: _) => none

/-- What stands behind the digits: nothing, or an exponent. -/
def exponent? : List Char → Option (Option Int)
  | [] => some none
  | c :: rest =>
    if c = 'e' ∨ c = 'E' then
      match rest with
      | '-' :: rest => (exponentDigits? rest).map fun n => some (-Int.ofNat n)
      | '+' :: rest => (exponentDigits? rest).map fun n => some (Int.ofNat n)
      | _ => (exponentDigits? rest).map fun n => some (Int.ofNat n)
    else none

/-- A number behind its sign. There is at least one digit before or after the
point. -/
def unsigned? (negative : Bool) (cs : List Char) : Option Numeral :=
  let (whole, rest) := Decimal.span cs
  let (fraction, rest) :=
    match rest with
    | '.' :: rest => (some (Decimal.span rest).1, (Decimal.span rest).2)
    | _ => (none, rest)
  if whole = [] ∧ fraction.getD [] = [] then none
  else (exponent? rest).map fun exponent => ⟨negative, whole, fraction, exponent⟩

/-- The number that a text writes. -/
def ofText? (text : String) : Option Numeral :=
  let cs := (text.toList.dropWhile isBlank).reverse.dropWhile isBlank |>.reverse
  match cs with
  | '-' :: rest => unsigned? true rest
  | '+' :: rest => unsigned? false rest
  | _ => unsigned? false cs

/-! ### Values -/

/-- Whether one more digit of any value can be appended to a number of 64 bits. -/
def hasRoom (n _digit : Nat) : Bool := n < (UInt64.size - 10) / 10

/-- Multiply by tens as long as the product has 64 bits, and at most so often. Gives
the product and how many tens are left. -/
def takeTens : Nat → Nat → Nat × Nat
  | 0, n => (n, 0)
  | tens + 1, n => if n < (UInt64.size - 1) / 10 then takeTens tens (10 * n) else (n, tens + 1)

/-- Divide by tens as long as that is exact, and at most so often. Gives the quotient
and how many tens are left. -/
def giveTens : Nat → Nat → Nat × Nat
  | 0, n => (n, 0)
  | tens + 1, n => if n % 10 = 0 then giveTens tens (n / 10) else (n, tens + 1)

/-- A number with its power of ten moved as close to zero as 64 bits allow. -/
def balance (n : Nat) (power : Int) : Nat × Int :=
  match power with
  | .ofNat tens => ((takeTens tens n).1, (takeTens tens n).2)
  | .negSucc tens => ((giveTens (tens + 1) n).1, -((giveTens (tens + 1) n).2 : Int))

/-- The magnitude as a number of double precision. -/
def toDouble (numeral : Numeral) : Binary :=
  let (n, power) := Decimal.leading hasRoom numeral.whole (numeral.fraction.getD [])
    (numeral.exponent.getD 0)
  if n = 0 then .ofNat 0
  else
    let (n, power) := balance n power
    FloatFormat.double.round (FloatFormat.extended.scale (.ofNat n) power)

/-- The number behind a sign. -/
def signed (negative : Bool) (n : Nat) : Int := if negative then -Int.ofNat n else Int.ofNat n

/-- The signed 64-bit integer that a number stands for. A number of double precision
does not reach the ends of that range. -/
def integer? (numeral : Numeral) : Option Int :=
  if numeral.fraction = none ∧ numeral.exponent = none then
    let n := signed numeral.negative (Decimal.value numeral.whole)
    if Int64.minValue.toInt ≤ n ∧ n ≤ Int64.maxValue.toInt then some n else none
  else (numeral.toDouble.natBelow? 63).map (signed numeral.negative)

end Numeral

end ReporterRegistry
