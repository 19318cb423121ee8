import ReporterRegistry.Proofs.Octets
import ReporterRegistry.Proofs.Outcomes
import ReporterRegistry.Proofs.Radix
import ReporterRegistry.Proofs.Text.Utf8
import ReporterRegistry.Text.Base58

/-!
# Base58 in both directions

Writing octets in base58 and reading them are two changes of base
(`Radix.rebase`), from 256 to 58 and back, with a character for every digit. A
text is therefore read as the octets that are written as that text, and as no
others (`Base58.decode_eq_ok_iff`).
-/

namespace ReporterRegistry

open Utf8 (octet)

namespace Base58

/-! ### One digit -/

theorem digitChar_ascii {d : Nat} (h : d < 58) : (digitChar d).toNat < 0x80 := by
  have hall : ∀ e ∈ List.range 58, (digitChar e).toNat < 0x80 := by decide
  exact hall d (List.mem_range.mpr h)

theorem digit?_octet {d : Nat} (h : d < 58) : digit? (octet (digitChar d)) = some d := by
  have hall : ∀ e ∈ List.range 58, digit? (octet (digitChar e)) = some e := by decide
  exact hall d (List.mem_range.mpr h)

/-- A digit is read from the one octet that writes it. -/
theorem octet_of_digit? {b : UInt8} {d : Nat} (h : digit? b = some d) :
    d < 58 ∧ octet (digitChar d) = b := by
  unfold digit? at h
  simp only at h
  split at h
  · rename_i hlt
    cases h
    have hchar : digitChar (alphabet.idxOf (Char.ofNat b.toNat)) = Char.ofNat b.toNat := by
      rw [digitChar, List.getD_eq_getElem?_getD, List.getElem?_eq_getElem hlt, Option.getD_some,
        List.getElem_idxOf hlt]
    have hb := b.toNat_lt
    refine ⟨hlt, ?_⟩
    rw [hchar, octet, Utf8.toNat_ofNat_of_valid (by omega), UInt8.ofNat_toNat]
  · cases h

theorem digitAt_eq_ok_iff {index : Nat} {b : UInt8} {d : Nat} :
    digitAt index b = .ok d ↔ d < 58 ∧ octet (digitChar d) = b := by
  unfold digitAt
  constructor
  · intro h
    split at h
    · cases h
    · split at h
      · rename_i e hdigit
        cases h
        exact octet_of_digit? hdigit
      · cases h
  · rintro ⟨hlt, rfl⟩
    have hascii := digitChar_ascii hlt
    have hoctet : (octet (digitChar d)).toNat = (digitChar d).toNat :=
      Utf8.toNat_ofNat_of_lt (by omega)
    rw [if_neg (by omega), digit?_octet hlt]

/-! ### All digits -/

/-- Octets are read as digits exactly if they are the characters of those digits. -/
theorem digitsFrom_eq_ok_iff {index : Nat} {bs : Bytes} {ds : List Nat} :
    digitsFrom index bs = .ok ds
      ↔ (∀ d ∈ ds, d < 58) ∧ ds.map (fun d => octet (digitChar d)) = bs := by
  induction bs generalizing index ds with
  | nil =>
      constructor
      · intro h
        cases h
        exact ⟨fun d hd => absurd hd List.not_mem_nil, rfl⟩
      · rintro ⟨-, hmap⟩
        rw [List.map_eq_nil_iff.mp hmap]
        rfl
  | cons b bs ih =>
      constructor
      · intro h
        obtain ⟨d, hd, h⟩ := bind_eq_ok_iff.mp h
        obtain ⟨es, hes, h⟩ := bind_eq_ok_iff.mp h
        cases h
        obtain ⟨hlt, hoctet⟩ := digitAt_eq_ok_iff.mp hd
        obtain ⟨hall, hmap⟩ := ih.mp hes
        refine ⟨List.forall_mem_cons.mpr ⟨hlt, hall⟩, ?_⟩
        rw [List.map_cons, hoctet, hmap]
      · rintro ⟨hall, hmap⟩
        cases ds with
        | nil => cases hmap
        | cons d es =>
            obtain ⟨hlt, hes⟩ := List.forall_mem_cons.mp hall
            obtain ⟨hoctet, hrest⟩ := List.cons.inj hmap
            rw [digitsFrom, digitAt_eq_ok_iff.mpr ⟨hlt, hoctet⟩, ih.mpr ⟨hes, hrest⟩]
            rfl

/-- Writing is a change of base from 256 to 58, and reading one from 58 to 256. -/
theorem encode_eq_rebase (bs : Bytes) :
    encode bs = (Radix.rebase 256 58 (bs.map UInt8.toNat)).map digitChar := by
  have hzeros : (bs.map UInt8.toNat).takeWhile (· = 0)
      = (bs.takeWhile (· = 0)).map UInt8.toNat := by
    rw [List.takeWhile_map]
    congr 2
    funext b
    simp [← UInt8.toNat_inj]
  have hones : ((bs.takeWhile (· = 0)).map UInt8.toNat).map digitChar
      = (bs.takeWhile (· = 0)).map fun _ => '1' := by
    rw [List.map_map]
    refine List.map_congr_left fun b hb => ?_
    have hb : b = 0 := by simpa using List.mem_takeWhile_imp hb
    subst hb
    decide
  rw [encode, Radix.rebase, List.map_append, hzeros, hones, Bytes.toNat, Bytes.toNatLE_eq_value,
    List.map_reverse (f := UInt8.toNat)]

theorem octets_eq_rebase (ds : List Nat) :
    octets ds = (Radix.rebase 58 256 ds).map UInt8.ofNat := by
  have hzeros : (ds.takeWhile (· = 0)).map UInt8.ofNat = (ds.takeWhile (· = 0)).map fun _ => 0 := by
    refine List.map_congr_left fun d hd => ?_
    have hd : d = 0 := by simpa using List.mem_takeWhile_imp hd
    subst hd
    rfl
  rw [octets, Radix.rebase, List.map_append, hzeros, Radix.octets]

/-! ### Octets and their text -/

/-- **A text is read as the octets that are written as it**, and as no others. -/
theorem decode_eq_ok_iff {cs : List Char} {bs : Bytes} :
    decode (Utf8.encode cs) = .ok bs ↔ encode bs = cs := by
  have hwritten : ∀ {ds : List Nat}, (∀ d ∈ ds, d < 58) →
      Utf8.encode (ds.map digitChar) = ds.map fun d => octet (digitChar d) := by
    intro ds hds
    rw [Utf8.encode_of_ascii, List.map_map]
    · rfl
    · intro c hc
      obtain ⟨d, hd, rfl⟩ := List.mem_map.mp hc
      exact digitChar_ascii (hds d hd)
  rw [decode, map_eq_ok_iff]
  constructor
  · rintro ⟨ds, hread, rfl⟩
    obtain ⟨hds, hmap⟩ := digitsFrom_eq_ok_iff.mp hread
    have hcs : cs = ds.map digitChar := Utf8.encode_injective (by rw [hwritten hds, hmap])
    have hoctets : ∀ d ∈ Radix.rebase 58 256 ds, d < 256 := fun _ =>
      Radix.lt_of_mem_rebase (by decide)
    rw [encode_eq_rebase, octets_eq_rebase, Bytes.map_toNat_map_ofNat hoctets,
      Radix.rebase_rebase (by decide) (by decide) hds, hcs]
  · rintro rfl
    have hdigits : ∀ d ∈ Radix.rebase 256 58 (bs.map UInt8.toNat), d < 58 := fun _ =>
      Radix.lt_of_mem_rebase (by decide)
    refine ⟨Radix.rebase 256 58 (bs.map UInt8.toNat), ?_, ?_⟩
    · rw [encode_eq_rebase, hwritten hdigits]
      exact digitsFrom_eq_ok_iff.mpr ⟨hdigits, rfl⟩
    · have hoctets : ∀ d ∈ bs.map UInt8.toNat, d < 256 := by
        intro d hd
        obtain ⟨b, -, rfl⟩ := List.mem_map.mp hd
        exact b.toNat_lt
      rw [octets_eq_rebase, Radix.rebase_rebase (by decide) (by decide) hoctets,
        Bytes.map_ofNat_map_toNat]

/-- Octets are told apart by their text. -/
theorem encode_injective {bs bs' : Bytes} (h : encode bs = encode bs') : bs = bs' :=
  Except.ok.inj ((decode_eq_ok_iff.mpr rfl).symm.trans (decode_eq_ok_iff.mpr h.symm))

end Base58

end ReporterRegistry
