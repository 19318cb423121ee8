/-!
# Byte strings

Octet sequences are lists, so that every layer above (hashing, addresses, rows
and blobs) can be reasoned about by induction. This module provides:

* `Bytes.ofNatLE`/`Bytes.ofNatBE` — numbers as a fixed number of octets, least
  or most significant octet first, and `Bytes.toNat`/`Bytes.toNatLE`, which read
  them back;
* `Bytes.resize` — a field of a fixed width, padded with zeros or cut; and
* `Bytes.chunks` — consecutive pieces of one size.
-/

namespace ReporterRegistry

/-- A finite sequence of octets. -/
abbrev Bytes := List UInt8

namespace Bytes

/-! ### Fixed-width integers -/

/-- The `width` low octets of a number, least significant first. -/
def ofNatLE : Nat → Nat → Bytes
  | 0, _ => []
  | width + 1, n => UInt8.ofNat n :: ofNatLE width (n / 256)

/-- The `width` low octets of a number, most significant first. -/
def ofNatBE (width n : Nat) : Bytes := (ofNatLE width n).reverse

/-- The number written by octets, least significant first. -/
def toNatLE : Bytes → Nat
  | [] => 0
  | b :: rest => b.toNat + 256 * toNatLE rest

/-- The number written by octets, most significant first. -/
def toNat (bs : Bytes) : Nat := toNatLE bs.reverse

@[simp] theorem length_ofNatLE (width n : Nat) : (ofNatLE width n).length = width := by
  induction width generalizing n with
  | zero => rfl
  | succ width ih => simp [ofNatLE, ih]

@[simp] theorem length_ofNatBE (width n : Nat) : (ofNatBE width n).length = width := by
  simp [ofNatBE]

/-- Octets are determined by the number they write and how many they are. -/
theorem ofNatLE_toNatLE (bs : Bytes) : ofNatLE bs.length (toNatLE bs) = bs := by
  induction bs with
  | nil => rfl
  | cons b rest ih =>
    have hb := b.toNat_lt
    have hq : (b.toNat + 256 * toNatLE rest) / 256 = toNatLE rest := by omega
    have hr : UInt8.ofNat (b.toNat + 256 * toNatLE rest) = b := by
      apply UInt8.toNat_inj.mp
      rw [UInt8.toNat_ofNat']
      omega
    simp only [List.length_cons, ofNatLE, toNatLE, hq, ih, hr]

theorem ofNatBE_toNat (bs : Bytes) : ofNatBE bs.length (toNat bs) = bs := by
  have h := ofNatLE_toNatLE bs.reverse
  rw [List.length_reverse] at h
  simp [ofNatBE, toNat, h]

/-! ### Fields and pieces -/

/-- A field of exactly `width` octets: shorter input is followed by zeros,
longer input is cut. -/
def resize (width : Nat) (bs : Bytes) : Bytes :=
  bs.take width ++ List.replicate (width - bs.length) 0

@[simp] theorem length_resize (width : Nat) (bs : Bytes) : (resize width bs).length = width := by
  simp only [resize, List.length_append, List.length_take, List.length_replicate]
  omega

/-- Input that fills the field exactly is unchanged. -/
theorem resize_of_length_eq {width : Nat} {bs : Bytes} (h : bs.length = width) :
    resize width bs = bs := by
  subst h
  simp [resize]

/-- Consecutive pieces of `size + 1` octets; the last one may be shorter. -/
def chunks (size : Nat) : Bytes → List Bytes
  | [] => []
  | b :: rest => (b :: rest.take size) :: chunks size (rest.drop size)
termination_by bs => bs.length
decreasing_by
  simp only [List.length_drop, List.length_cons]
  omega

end Bytes

end ReporterRegistry
