import Mathlib.Algebra.Group.Nat.Defs
import ReporterRegistry.Radix

/-!
# Numbers in octets

A number that fits so many octets is read back from them, most or least
significant octet first. Zeros in front do not count, so that a number is also
read back from as few octets as it takes (`Radix.toNat_octets`).
-/

namespace ReporterRegistry

namespace Bytes

/-- A number that fits its width is read back. -/
theorem toNatLE_ofNatLE {width n : Nat} (h : n < 256 ^ width) : toNatLE (ofNatLE width n) = n := by
  induction width generalizing n with
  | zero => simp at h; simp [ofNatLE, toNatLE, h]
  | succ width ih =>
    have hq : n / 256 < 256 ^ width := by
      rw [Nat.pow_succ] at h
      exact Nat.div_lt_of_lt_mul (by rw [Nat.mul_comm]; exact h)
    simp only [ofNatLE, toNatLE, ih hq, UInt8.toNat_ofNat']
    omega

theorem toNat_ofNatBE {width n : Nat} (h : n < 256 ^ width) : toNat (ofNatBE width n) = n := by
  simp [toNat, ofNatBE, toNatLE_ofNatLE h]

/-- So many octets write a number below the corresponding power of 256. -/
theorem toNatLE_lt (bs : Bytes) : toNatLE bs < 256 ^ bs.length := by
  induction bs with
  | nil => simp [toNatLE]
  | cons b rest ih =>
    have hb := b.toNat_lt
    simp only [toNatLE, List.length_cons, Nat.pow_succ]
    omega

theorem toNat_lt (bs : Bytes) : toNat bs < 256 ^ bs.length := by
  simpa [toNat] using toNatLE_lt bs.reverse

theorem toNatLE_append (bs cs : Bytes) :
    toNatLE (bs ++ cs) = toNatLE bs + 256 ^ bs.length * toNatLE cs := by
  induction bs with
  | nil => simp [toNatLE]
  | cons b bs ih =>
      rw [List.cons_append, toNatLE, toNatLE, ih, List.length_cons, Nat.pow_succ, Nat.mul_add,
        Nat.add_assoc, Nat.mul_comm (256 ^ bs.length) 256, Nat.mul_assoc]

/-- The first octet counts most. -/
theorem toNat_cons (b : UInt8) (bs : Bytes) :
    toNat (b :: bs) = 256 ^ bs.length * b.toNat + toNat bs := by
  rw [toNat, List.reverse_cons, toNatLE_append, List.length_reverse]
  simp only [toNatLE, Nat.mul_zero, Nat.add_zero]
  rw [Nat.add_comm, toNat]

/-- A leading zero does not count. -/
theorem toNat_zero_cons (bs : Bytes) : toNat (0 :: bs) = toNat bs := by
  rw [toNat, List.reverse_cons, toNatLE_append]
  rfl

theorem toNat_dropWhile (bs : Bytes) : toNat (bs.dropWhile (· = 0)) = toNat bs := by
  induction bs with
  | nil => rfl
  | cons b bs ih =>
      by_cases hb : b = 0
      · subst hb
        rw [List.dropWhile_cons_of_pos (by simp), ih, toNat_zero_cons]
      · rw [List.dropWhile_cons_of_neg (by simpa using hb)]

theorem map_ofNat_map_toNat (bs : Bytes) : (bs.map UInt8.toNat).map UInt8.ofNat = bs := by
  simp [Function.comp_def]

theorem map_toNat_map_ofNat {ds : List Nat} (h : ∀ d ∈ ds, d < 256) :
    (ds.map UInt8.ofNat).map UInt8.toNat = ds := by
  rw [List.map_map]
  refine (List.map_congr_left fun d hd => ?_).trans (List.map_id ds)
  exact Nat.mod_eq_of_lt (h d hd)

/-- Octets are the digits of their number in base 256. -/
theorem toNatLE_eq_value (bs : Bytes) : toNatLE bs = Radix.value 256 (bs.map UInt8.toNat) := by
  induction bs with
  | nil => rfl
  | cons b bs ih => rw [toNatLE, ih, List.map_cons, Radix.value]

theorem length_dropWhile_le (bs : Bytes) : (bs.dropWhile (· = 0)).length ≤ bs.length :=
  (List.dropWhile_suffix _).length_le

end Bytes

namespace Radix

/-- A number below a power of the base has no more digits than the exponent. -/
theorem length_digits_le {base n k : Nat} (hb : 2 ≤ base) (h : n < base ^ k) :
    (digits base n).length ≤ k := by
  induction k generalizing n with
  | zero =>
      have hzero : n = 0 := by simpa using h
      rw [hzero, digits_zero]
      exact Nat.le_refl 0
  | succ k ih =>
      rcases Nat.eq_zero_or_pos n with rfl | hn
      · rw [digits_zero]
        exact Nat.zero_le _
      · rw [digits_pos hb hn, List.length_cons]
        have hquotient : n / base < base ^ k := by
          rw [Nat.pow_succ, Nat.mul_comm] at h
          exact Nat.div_lt_of_lt_mul h
        exact Nat.succ_le_succ (ih hquotient)

theorem toNatLE_map_ofNat {ds : List Nat} (h : ∀ d ∈ ds, d < 256) :
    Bytes.toNatLE (ds.map UInt8.ofNat) = value 256 ds := by
  induction ds with
  | nil => rfl
  | cons d ds ih =>
      have hd : (UInt8.ofNat d).toNat = d := by
        rw [UInt8.toNat_ofNat']
        exact Nat.mod_eq_of_lt (h d List.mem_cons_self)
      rw [List.map_cons, Bytes.toNatLE, value, hd, ih fun e he => h e (List.mem_cons_of_mem d he)]

/-- The octets of a number write that number. -/
theorem toNat_octets (n : Nat) : Bytes.toNat (octets n) = n := by
  rw [Bytes.toNat, octets, ← List.map_reverse, List.reverse_reverse]
  rw [toNatLE_map_ofNat fun d hd => lt_of_mem_digits (by decide) hd]
  exact value_digits (by decide) n

theorem length_octets_le {n k : Nat} (h : n < 256 ^ k) : (octets n).length ≤ k := by
  rw [octets, List.length_map, List.length_reverse]
  exact length_digits_le (by decide) h

end Radix

end ReporterRegistry
