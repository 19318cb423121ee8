import ReporterRegistry.Bytes

/-!
# Positional notation

`Radix.digits base n` are the digits of `n` without leading zeros, least
significant first; `Radix.value` reads them back. Decimal numbers, base58 texts
and the length-free integers of binary formats all rest on this pair.
-/

namespace ReporterRegistry

namespace Radix

/-- Digits of a number in a base of at least two, least significant first and
without leading zeros, so that zero has no digits. -/
def digits (base n : Nat) : List Nat :=
  if n = 0 then []
  else if base < 2 then [n]
  else n % base :: digits base (n / base)
termination_by n
decreasing_by exact Nat.div_lt_self (by omega) (by omega)

/-- The number that digits write, least significant first. -/
def value (base : Nat) : List Nat → Nat
  | [] => 0
  | d :: rest => d + base * value base rest

@[simp] theorem digits_zero (base : Nat) : digits base 0 = [] := by
  rw [digits]; rfl

theorem digits_pos {base n : Nat} (hb : 2 ≤ base) (hn : 0 < n) :
    digits base n = n % base :: digits base (n / base) := by
  rw [digits, if_neg (by omega), if_neg (by omega)]

/-- Writing a number and reading it gives the number. -/
theorem value_digits {base : Nat} (hb : 2 ≤ base) (n : Nat) : value base (digits base n) = n := by
  induction n using Nat.strongRecOn with
  | ind n ih =>
    rcases Nat.eq_zero_or_pos n with rfl | hn
    · simp [value]
    · rw [digits_pos hb hn, value, ih _ (Nat.div_lt_self hn hb)]
      exact Nat.mod_add_div n base

/-- Every digit is below the base. -/
theorem lt_of_mem_digits {base n d : Nat} (hb : 2 ≤ base) (h : d ∈ digits base n) : d < base := by
  induction n using Nat.strongRecOn with
  | ind n ih =>
    rcases Nat.eq_zero_or_pos n with rfl | hn
    · simp at h
    · rw [digits_pos hb hn, List.mem_cons] at h
      rcases h with rfl | h
      · exact Nat.mod_lt _ (by omega)
      · exact ih _ (Nat.div_lt_self hn hb) h

/-- The octets of a number, most significant first and without leading zeros. -/
def octets (n : Nat) : Bytes := (digits 256 n).reverse.map UInt8.ofNat

end Radix

end ReporterRegistry
