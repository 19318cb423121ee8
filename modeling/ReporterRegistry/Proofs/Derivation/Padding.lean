import Mathlib.Data.List.DropRight
import ReporterRegistry.Proofs.Address.Spelling
import ReporterRegistry.Proofs.Derivation.Locating

/-!
# What padding keeps apart

The octets of an address and those of an asset id are padded with zeros, and the padding
does not say where they end. So a field tells octets apart up to zeros at their end
(`Bytes.resize_eq_resize_iff`), and so do the segments of flagged addresses and assets
(`slots_equal_iff`).

For Ethereum and Solana that loses nothing, as all octets have one length. The other
formats take any text, and a text that ends in NUL shares its segments with the text
without it (`slot_shared_by_padding`); texts that do not end so are kept apart.
-/

namespace ReporterRegistry

/-! ### Fields -/

namespace Bytes

/-- Octets without the zeros at their end. -/
def significant (bs : Bytes) : Bytes := bs.rdropWhile (· = 0)

theorem significant_append_replicate (bs : Bytes) (n : Nat) :
    significant (bs ++ List.replicate n 0) = significant bs := by
  induction n with
  | zero => rw [List.replicate_zero, List.append_nil]
  | succ n ih =>
      rw [List.replicate_succ', ← List.append_assoc, significant,
        List.rdropWhile_concat_pos (fun b : UInt8 => decide (b = 0)) _ 0 (by decide)]
      exact ih

/-- All that is dropped is zeros. -/
theorem exists_eq_significant_append (bs : Bytes) :
    ∃ n, bs = significant bs ++ List.replicate n 0 := by
  have hzeros : ∀ b ∈ bs.rtakeWhile (· = 0), b = 0 := by
    intro b hb
    have hzero := List.mem_rtakeWhile_imp hb
    exact of_decide_eq_true hzero
  refine ⟨(bs.rtakeWhile (· = 0)).length, ?_⟩
  rw [← List.eq_replicate_of_mem hzeros, significant, List.rdropWhile_append_rtakeWhile]

theorem resize_of_length_le {width : Nat} {bs : Bytes} (h : bs.length ≤ width) :
    resize width bs = bs ++ List.replicate (width - bs.length) 0 := by
  rw [resize, List.take_of_length_le h]

/-- A field holds the significant octets and is filled with zeros. -/
theorem resize_eq_significant_append {width : Nat} {bs : Bytes} (h : bs.length ≤ width) :
    resize width bs
      = significant bs ++ List.replicate (width - (significant bs).length) 0 := by
  obtain ⟨n, hn⟩ := exists_eq_significant_append bs
  have hlength : bs.length = (significant bs).length + n := by
    have hsum := congrArg List.length hn
    rwa [List.length_append, List.length_replicate] at hsum
  have hcount : width - (significant bs).length = n + (width - bs.length) := by omega
  rw [resize_of_length_le h, hcount, List.replicate_add, ← List.append_assoc, ← hn]

/-- **A field tells octets apart up to the zeros at their end.** -/
theorem resize_eq_resize_iff {width : Nat} {bs bs' : Bytes} (h : bs.length ≤ width)
    (h' : bs'.length ≤ width) :
    resize width bs = resize width bs' ↔ significant bs = significant bs' := by
  constructor
  · intro hfield
    rw [resize_of_length_le h, resize_of_length_le h'] at hfield
    have hdropped := congrArg significant hfield
    rwa [significant_append_replicate, significant_append_replicate] at hdropped
  · intro hsame
    rw [resize_eq_significant_append h, resize_eq_significant_append h', hsame]

/-- Padding keeps the octets apart: they have one length, or neither ends in a zero. -/
def Separate (bs bs' : Bytes) : Prop :=
  bs.length = bs'.length ∨ bs.getLast? ≠ some 0 ∧ bs'.getLast? ≠ some 0

theorem significant_of_getLast? {bs : Bytes} (h : bs.getLast? ≠ some 0) :
    significant bs = bs := by
  refine List.rdropWhile_eq_self_iff.mpr ?_
  intro hne hlast
  exact h (List.getLast?_eq_some_getLast hne ▸ congrArg some (of_decide_eq_true hlast))

theorem Separate.significant_eq_iff {bs bs' : Bytes} (h : Separate bs bs') :
    significant bs = significant bs' ↔ bs = bs' := by
  refine ⟨fun hsame => ?_, congrArg significant⟩
  cases h with
  | inl hlength =>
      have hfield := (resize_eq_resize_iff (Nat.le_of_eq hlength) (Nat.le_refl _)).mpr hsame
      rwa [resize_of_length_eq hlength, resize_of_length_eq rfl] at hfield
  | inr hends => rwa [significant_of_getLast? hends.1, significant_of_getLast? hends.2] at hsame

end Bytes

/-! ### Texts -/

namespace Utf8

/-- Only NUL is written with a zero at the end. -/
theorem getLast?_encodeChar_ne_zero {c : Char} (h : c.toNat ≠ 0) :
    (encodeChar c).getLast? ≠ some 0 := by
  have hoctet : ∀ n, n ≠ 0 → n < 256 → UInt8.ofNat n ≠ 0 := by
    intro n hn hlt hzero
    have hvalue := congrArg UInt8.toNat hzero
    rw [toNat_ofNat_of_lt hlt] at hvalue
    exact hn hvalue
  unfold encodeChar
  simp only
  repeat' split
  all_goals
    simp only [List.getLast?_cons_cons, List.getLast?_singleton, ne_eq, Option.some.injEq]
    exact hoctet _ (by omega) (by omega)

/-- The octets of a text end in a zero only if the text ends in NUL. -/
theorem getLast?_encode_ne_zero {cs : List Char} (h : cs.getLast? ≠ some '\x00') :
    (encode cs).getLast? ≠ some 0 := by
  cases cs using List.reverseRecOn with
  | nil => nofun
  | append_singleton cs c =>
      rw [List.getLast?_concat] at h
      have hc : c.toNat ≠ 0 := fun hzero => h (congrArg some (Char.toNat_inj.mp hzero))
      have hlast := getLast?_encodeChar_ne_zero hc
      rw [encode_append, encode_cons, encode_nil, List.append_nil, List.getLast?_append]
      cases hoctets : (encodeChar c).getLast? with
      | none =>
          have hwidth := length_encodeChar c
          rw [List.getLast?_eq_none_iff.mp hoctets, width] at hwidth
          repeat' split at hwidth
          all_goals cases hwidth
      | some b =>
          rw [hoctets] at hlast
          rwa [Option.some_or]

end Utf8

namespace Address

/-- Padding takes nothing from the text: its format has octets of one length, or the text
does not end in NUL. -/
def Definite (format : AddressFormat) (text : String) : Prop :=
  format = .ethereum ∨ format = .solana ∨ text.toList.getLast? ≠ some '\x00'

/-- The octets of definite texts are kept apart. -/
theorem separate_of_definite {format : AddressFormat} {text text' : String} {bs bs' : Bytes}
    (hencode : encode format text = .ok bs) (hencode' : encode format text' = .ok bs')
    (h : Definite format text) (h' : Definite format text') : Bytes.Separate bs bs' := by
  have hspells := encode_eq_ok_iff.mp hencode
  have hspells' := encode_eq_ok_iff.mp hencode'
  cases format with
  | ethereum | solana => exact Or.inl (hspells.1.trans hspells'.1.symm)
  | plain | bitcoin | near =>
      simp only [Definite, reduceCtorEq, false_or] at h h'
      have hoctets : Utf8.encode text.toList = bs := hspells
      have hoctets' : Utf8.encode text'.toList = bs' := hspells'
      rw [← hoctets, ← hoctets']
      exact Or.inr ⟨Utf8.getLast?_encode_ne_zero h, Utf8.getLast?_encode_ne_zero h'⟩

end Address

/-! ### Segments -/

open Bytes (significant Separate)
open Address (Definite)

/-- The two segments of an address make up its field. -/
theorem SeedPart.fieldSegments_eq_iff {bs bs' : Bytes} (h : bs.length ≤ 64)
    (h' : bs'.length ≤ 64) :
    fieldSegments bs = fieldSegments bs' ↔ significant bs = significant bs' := by
  rw [← Bytes.resize_eq_resize_iff h h']
  constructor
  · intro hsegments
    obtain ⟨hfront, hback⟩ := List.cons.inj hsegments
    rw [← List.take_append_drop 32 (Bytes.resize 64 bs), hfront, List.head_eq_of_cons_eq hback,
      List.take_append_drop]
  · intro hfield
    rw [fieldSegments, hfield, ← fieldSegments]

namespace Entity

open SeedPart (fieldSegments)

variable {network : PublicKey} {format : AddressFormat} {text : String} {bs : Bytes}

/-- The segments of a flagged address. -/
theorem seeds_address {segments : Seeds} (hencode : Address.encode format text = .ok bs)
    (h : Entity.seeds (.address network format text) = .ok segments) :
    bs.length ≤ 64 ∧
      segments = [Utf8.encode "address".toList, network.bytes] ++ fieldSegments bs := by
  obtain ⟨_, hkey, h⟩ := Seeds.append_cons_eq_ok_iff.mp h
  obtain ⟨_, haddress, h⟩ := Seeds.append_cons_eq_ok_iff.mp h
  rw [SeedPart.segments_address_of_ok hencode] at haddress
  obtain ⟨hfits, rfl⟩ := SeedPart.halves_eq_ok_iff.mp haddress
  cases hkey
  cases h
  exact ⟨hfits, rfl⟩

/-- The segments of a flagged asset. -/
theorem seeds_asset {id : Bytes} {segments : Seeds}
    (hencode : Address.encode format text = .ok bs)
    (h : Entity.seeds (.asset network format text id) = .ok segments) :
    bs.length ≤ 64 ∧
      segments = [Utf8.encode "asset".toList, network.bytes] ++
        (fieldSegments bs ++ [Bytes.resize 32 id]) := by
  obtain ⟨_, hkey, h⟩ := Seeds.append_cons_eq_ok_iff.mp h
  obtain ⟨_, haddress, h⟩ := Seeds.append_cons_eq_ok_iff.mp h
  obtain ⟨_, hid, h⟩ := Seeds.append_cons_eq_ok_iff.mp h
  rw [SeedPart.segments_address_of_ok hencode] at haddress
  obtain ⟨hfits, rfl⟩ := SeedPart.halves_eq_ok_iff.mp haddress
  cases hkey
  cases hid
  cases h
  exact ⟨hfits, rfl⟩

/-- **Segments tell flagged entities apart up to padding.** Two flagged addresses of one
network and format that are not refused have the same segments if and only if their octets
are the same up to zeros at the end. Two flagged assets with ids of at most 32 octets have
the same segments if and only if both the octets of their mints and their ids are the same
up to zeros at the end. Texts that are `Definite`, as all Ethereum and Solana addresses
and all texts that do not end in NUL are, have the same segments only for the same octets. -/
theorem slots_equal_iff (network : PublicKey) (format : AddressFormat) :
    (∀ text text' bs bs' segments segments',
      Address.encode format text = .ok bs → Address.encode format text' = .ok bs' →
      Entity.seeds (.address network format text) = .ok segments →
      Entity.seeds (.address network format text') = .ok segments' →
        (segments = segments' ↔ significant bs = significant bs') ∧
        (Definite format text → Definite format text' → (segments = segments' ↔ bs = bs'))) ∧
    ∀ mint mint' bs bs' id id' segments segments',
      Address.encode format mint = .ok bs → Address.encode format mint' = .ok bs' →
      id.length ≤ 32 → id'.length ≤ 32 →
      Entity.seeds (.asset network format mint id) = .ok segments →
      Entity.seeds (.asset network format mint' id') = .ok segments' →
        (segments = segments' ↔
          significant bs = significant bs' ∧ significant id = significant id') ∧
        (Definite format mint → Definite format mint' → Separate id id' →
          (segments = segments' ↔ bs = bs' ∧ id = id')) := by
  refine ⟨?address, ?asset⟩
  case address =>
    intro text text' bs bs' segments segments' hencode hencode' h h'
    obtain ⟨hfits, rfl⟩ := seeds_address hencode h
    obtain ⟨hfits', rfl⟩ := seeds_address hencode' h'
    have hsame : [Utf8.encode "address".toList, network.bytes] ++ fieldSegments bs
          = [Utf8.encode "address".toList, network.bytes] ++ fieldSegments bs' ↔
        significant bs = significant bs' := by
      rw [List.append_cancel_left_eq, SeedPart.fieldSegments_eq_iff hfits hfits']
    refine ⟨hsame, fun hdefinite hdefinite' => ?_⟩
    have hseparate := Address.separate_of_definite hencode hencode' hdefinite hdefinite'
    rw [hsame, hseparate.significant_eq_iff]
  case asset =>
    intro mint mint' bs bs' id id' segments segments' hencode hencode' hid hid' h h'
    obtain ⟨hfits, rfl⟩ := seeds_asset hencode h
    obtain ⟨hfits', rfl⟩ := seeds_asset hencode' h'
    have hsame : [Utf8.encode "asset".toList, network.bytes] ++
            (fieldSegments bs ++ [Bytes.resize 32 id])
          = [Utf8.encode "asset".toList, network.bytes] ++
            (fieldSegments bs' ++ [Bytes.resize 32 id']) ↔
        significant bs = significant bs' ∧ significant id = significant id' := by
      rw [List.append_cancel_left_eq, List.append_singleton_inj,
        SeedPart.fieldSegments_eq_iff hfits hfits', Bytes.resize_eq_resize_iff hid hid']
    refine ⟨hsame, fun hdefinite hdefinite' hids => ?_⟩
    have hseparate := Address.separate_of_definite hencode hencode' hdefinite hdefinite'
    rw [hsame, hseparate.significant_eq_iff, hids.significant_eq_iff]

/-- The texts of a word and of its beginning have different segments. Assets of one mint
have the same segments if a zero is all that their ids differ in. -/
theorem slots_equal_iff_sample :
    Entity.seeds (.address .zero .near "alice") ≠ Entity.seeds (.address .zero .near "al") ∧
      Entity.seeds (.asset .zero .near "al" [1])
        = Entity.seeds (.asset .zero .near "al" [1, 0]) := by
  have hlong : Address.encode .near "alice" = .ok [97, 108, 105, 99, 101] := rfl
  have hshort : Address.encode .near "al" = .ok [97, 108] := rfl
  obtain ⟨haddresses, hassets⟩ := slots_equal_iff .zero .near
  constructor
  · have hdefinite : Definite .near "alice" := Or.inr (Or.inr (by decide))
    have hdefinite' : Definite .near "al" := Or.inr (Or.inr (by decide))
    have hiff := (haddresses _ _ _ _ _ _ hlong hshort rfl rfl).2 hdefinite hdefinite'
    intro hsame
    exact absurd (hiff.mp (Except.ok.inj hsame)) (by decide)
  · have hiff := (hassets _ _ _ _ [1] [1, 0] _ _ hshort hshort (by decide) (by decide) rfl rfl).1
    exact congrArg Except.ok (hiff.mpr ⟨rfl, by decide⟩)

/-- Not every flagged entity has segments of its own. The texts of one letter and of that
letter and NUL have different octets, and the ids of one octet and of that octet and a zero
are different; still their segments are the same. -/
theorem slot_shared_by_padding :
    (∃ segments, Entity.seeds (.address .zero .plain "a") = .ok segments ∧
      Entity.seeds (.address .zero .plain "a\x00") = .ok segments ∧
      Address.encode .plain "a" = .ok [97] ∧ Address.encode .plain "a\x00" = .ok [97, 0]) ∧
    ∃ segments, Entity.seeds (.asset .zero .plain "a" [1]) = .ok segments ∧
      Entity.seeds (.asset .zero .plain "a" [1, 0]) = .ok segments :=
  ⟨⟨_, rfl, rfl, rfl, rfl⟩, _, rfl, rfl⟩

end Entity

end ReporterRegistry
