import ReporterRegistry.Radix

/-!
# Decimal numbers

The canonical decimal form of a natural number: no sign, no leading zeros, and a
single `0` for zero. For numbers with a point, `Decimal.leading` gives the digits
that an integer of limited size can take in, and the power of ten that goes with
them.
-/

namespace ReporterRegistry

namespace Decimal

/-- The character of a decimal digit. -/
def digitChar (d : Nat) : Char := Char.ofNat (48 + d)

/-- The value of a character that is a decimal digit. -/
def digit? (c : Char) : Option Nat :=
  if 48 ≤ c.toNat ∧ c.toNat ≤ 57 then some (c.toNat - 48) else none

/-- A number in decimal. -/
def render (n : Nat) : List Char :=
  if n = 0 then ['0'] else (Radix.digits 10 n).reverse.map digitChar

/-- The longest run of digits at the front of a text, and the text after it. -/
def span : List Char → List Nat × List Char
  | [] => ([], [])
  | c :: rest =>
    match digit? c with
    | some d => (d :: (span rest).1, (span rest).2)
    | none => ([], c :: rest)

/-- The number that digits write, most significant first. -/
def value (ds : List Nat) : Nat := Radix.value 10 ds.reverse

/-- Append digits to a number as long as there is room for the next one. Gives the
number and how many digits it took in. -/
def absorb (hasRoom : Nat → Nat → Bool) : Nat → List Nat → Nat × Nat
  | n, [] => (n, 0)
  | n, d :: rest =>
    if hasRoom n d then
      let (total, count) := absorb hasRoom (10 * n + d) rest
      (total, count + 1)
    else (n, 0)

/-- The leading digits of a number with a point, as many as there is room for, and
the power of ten that belongs to them. Digits that are left out before the point
still count as places. -/
def leading (hasRoom : Nat → Nat → Bool) (whole fraction : List Nat) (exponent : Int) :
    Nat × Int :=
  let (n, taken) := absorb hasRoom 0 whole
  let (n, places) := absorb hasRoom n fraction
  (n, exponent + (whole.length - taken : Nat) - places)

theorem digit?_digitChar {d : Nat} (h : d < 10) : digit? (digitChar d) = some d := by
  rcases d with _ | _ | _ | _ | _ | _ | _ | _ | _ | _ | d
  all_goals first | rfl | omega

end Decimal

end ReporterRegistry
