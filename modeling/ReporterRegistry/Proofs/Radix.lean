import Mathlib.Data.List.TakeWhile
import Mathlib.Data.Nat.Digits.Defs
import ReporterRegistry.Radix

/-!
# Numerals in another base

A numeral is written most significant digit first. Its value does not see the zeros
in front, so a change of base that goes through the value keeps them apart
(`Radix.rebase`). It then loses nothing: `Radix.rebase_rebase` gives the numeral
back, however many zeros it starts with.
-/

namespace ReporterRegistry

namespace Radix

/-! ### Digits and their value -/

/-- The digits are those of `Nat.digits`, so that its theory applies. -/
theorem digits_eq {base : Nat} (hb : 2 ≤ base) (n : Nat) : digits base n = Nat.digits base n := by
  induction n using Nat.strongRecOn with
  | ind n ih =>
      rcases Nat.eq_zero_or_pos n with rfl | hn
      · rw [digits_zero, Nat.digits_zero]
      · rw [digits_pos hb hn, Nat.digits_def' hb hn, ih _ (Nat.div_lt_self hn hb)]

theorem value_eq (base : Nat) (ds : List Nat) : value base ds = Nat.ofDigits base ds := by
  induction ds with
  | nil => rfl
  | cons d ds ih => rw [value, ih, Nat.ofDigits_cons]

variable {base base' : Nat} {ds : List Nat}

theorem value_reverse_dropWhile (base : Nat) (ds : List Nat) :
    value base (ds.dropWhile (· = 0)).reverse = value base ds.reverse := by
  induction ds with
  | nil => rfl
  | cons d ds ih =>
      by_cases hd : d = 0
      · subst hd
        rw [List.dropWhile_cons_of_pos (by simp), ih, List.reverse_cons, value_eq, value_eq,
          Nat.ofDigits_append, Nat.ofDigits_singleton, Nat.mul_zero, Nat.add_zero]
      · rw [List.dropWhile_cons_of_neg (by simpa using hd)]

/-- Reading digits and writing the number takes away the zeros in front, and nothing else. -/
theorem reverse_digits_value (hb : 2 ≤ base) (h : ∀ d ∈ ds, d < base) :
    (digits base (value base ds.reverse)).reverse = ds.dropWhile (· = 0) := by
  induction ds with
  | nil => simp [value]
  | cons d ds ih =>
      by_cases hd : d = 0
      · rw [← value_reverse_dropWhile, List.dropWhile_cons_of_pos (by simpa using hd),
          value_reverse_dropWhile, ih fun e he => h e (List.mem_cons_of_mem d he)]
      · rw [List.dropWhile_cons_of_neg (by simpa using hd), digits_eq hb, value_eq,
          Nat.digits_ofDigits base hb, List.reverse_reverse]
        · exact fun e he => h e (List.mem_reverse.mp he)
        · intro _
          rwa [List.getLast_reverse, List.head_cons]

/-- A number is written without zeros in front. -/
theorem dropWhile_reverse_digits (hb : 2 ≤ base) (n : Nat) :
    (digits base n).reverse.dropWhile (· = 0) = (digits base n).reverse := by
  have hlt : ∀ d ∈ (digits base n).reverse, d < base := fun _ hd =>
    lt_of_mem_digits hb (List.mem_reverse.mp hd)
  have hread := reverse_digits_value hb hlt
  rwa [List.reverse_reverse, value_digits hb, eq_comm] at hread

/-! ### The change of base -/

/-- A numeral in another base, with as many zeros in front. -/
def rebase (base base' : Nat) (ds : List Nat) : List Nat :=
  ds.takeWhile (· = 0) ++ (digits base' (value base ds.reverse)).reverse

theorem lt_of_mem_rebase (hb : 2 ≤ base') {d : Nat} (h : d ∈ rebase base base' ds) : d < base' := by
  rcases List.mem_append.mp h with hzero | hdigit
  · have hd : d = 0 := by simpa using List.mem_takeWhile_imp hzero
    omega
  · exact lt_of_mem_digits hb (List.mem_reverse.mp hdigit)

theorem dropWhile_rebase (hb : 2 ≤ base') :
    (rebase base base' ds).dropWhile (· = 0) = (digits base' (value base ds.reverse)).reverse := by
  have hzeros : ∀ d ∈ ds.takeWhile (· = 0), decide (d = 0) = true := fun _ =>
    List.mem_takeWhile_imp
  rw [rebase, List.dropWhile_append_of_pos hzeros, dropWhile_reverse_digits hb]

/-- Zeros in front stay, one for one. -/
theorem takeWhile_rebase (hb : 2 ≤ base') :
    (rebase base base' ds).takeWhile (· = 0) = ds.takeWhile (· = 0) := by
  have hsplit := List.takeWhile_append_dropWhile (p := (· = 0)) (l := rebase base base' ds)
  rw [dropWhile_rebase hb] at hsplit
  exact List.append_cancel_right hsplit

/-- **Changing the base and changing it back gives the numeral**, with its zeros in front. -/
theorem rebase_rebase (hb : 2 ≤ base) (hb' : 2 ≤ base') (h : ∀ d ∈ ds, d < base) :
    rebase base' base (rebase base base' ds) = ds := by
  have hvalue : value base' (rebase base base' ds).reverse = value base ds.reverse := by
    rw [← value_reverse_dropWhile, dropWhile_rebase hb', List.reverse_reverse, value_digits hb']
  rw [rebase, takeWhile_rebase hb', hvalue, reverse_digits_value hb h,
    List.takeWhile_append_dropWhile]

end Radix

end ReporterRegistry
