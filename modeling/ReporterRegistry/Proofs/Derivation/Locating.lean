import ReporterRegistry.Proofs.Derivation.Messages
import ReporterRegistry.Proofs.Derivation.Search

/-!
# What a derivation fails for

Every part of a derivation is brought to a fixed width, so keys, names, numbers and asset
ids of any size give segments. An address alone can be refused, by its codec or because
its octets do not fit their field (`Address.Refused`), and an entity is refused for its
address only (`Entity.seeds_eq_error_iff`).

What is not refused has the widths of its kind. They keep the limits of the search
(`Entity.fits_seeds`), which therefore finds an address or is exhausted.
-/

namespace ReporterRegistry

open ProgramAddress

/-- An address text has no place in a derivation: its codec refuses it, or its octets are
too many. -/
inductive Address.Refused (format : AddressFormat) (text : String) : AddressFault → Prop where
  | unreadable {fault : AddressFault} (h : Address.encode format text = .error fault) :
    Refused format text fault
  | tooLong {bs : Bytes} (h : Address.encode format text = .ok bs) (hlong : 64 < bs.length) :
    Refused format text (.fieldOverflow bs.length)

open Address (Refused)

/-! ### Parts -/

namespace SeedPart

@[simp] theorem segments_key (key : PublicKey) :
    (SeedPart.key key).segments = .ok [key.bytes] := rfl

@[simp] theorem segments_name (text : String) :
    (SeedPart.name text).segments = .ok [Bytes.resize 32 (Utf8.encode text.toList)] := rfl

@[simp] theorem segments_number (value : BitVec 64) :
    (SeedPart.number value).segments = .ok [Bytes.ofNatLE 8 value.toNat] := rfl

@[simp] theorem segments_assetId (bs : Bytes) :
    (SeedPart.assetId bs).segments = .ok [Bytes.resize 32 bs] := rfl

/-- The two segments that the field of an address is cut into. -/
def fieldSegments (bs : Bytes) : List Bytes :=
  [(Bytes.resize 64 bs).take 32, (Bytes.resize 64 bs).drop 32]

theorem halves_eq_ok_iff {format : AddressFormat} {bs : Bytes} {segments : List Bytes} :
    halves format bs = .ok segments ↔ bs.length ≤ 64 ∧ segments = fieldSegments bs := by
  unfold halves
  split
  · rename_i hlong
    exact ⟨nofun, fun h => absurd hlong (Nat.not_lt.mpr h.1)⟩
  · rename_i hfits
    constructor
    · intro h
      cases h
      exact ⟨Nat.not_lt.mp hfits, rfl⟩
    · intro h
      rw [h.2]
      rfl

theorem halves_eq_error_iff {format : AddressFormat} {bs : Bytes} {error : InputError} :
    halves format bs = .error error ↔
      64 < bs.length ∧ error = .invalidAddress format (.fieldOverflow bs.length) := by
  unfold halves
  split
  · rename_i hlong
    constructor
    · intro h
      cases h
      exact ⟨hlong, rfl⟩
    · intro h
      rw [h.2]
  · rename_i hfits
    exact ⟨nofun, fun h => absurd h.1 hfits⟩

theorem segments_address_of_ok {format : AddressFormat} {text : String} {bs : Bytes}
    (h : Address.encode format text = .ok bs) :
    (SeedPart.address format text).segments = halves format bs := by
  simp only [SeedPart.segments, h]

theorem segments_address_of_error {format : AddressFormat} {text : String} {fault : AddressFault}
    (h : Address.encode format text = .error fault) :
    (SeedPart.address format text).segments = .error (.invalidAddress format fault) := by
  simp only [SeedPart.segments, h]

theorem segments_address_eq_error_iff {format : AddressFormat} {text : String}
    {error : InputError} :
    (SeedPart.address format text).segments = .error error ↔
      ∃ fault, Refused format text fault ∧ error = .invalidAddress format fault := by
  constructor
  · intro h
    cases hencode : Address.encode format text with
    | ok bs =>
        rw [segments_address_of_ok hencode, halves_eq_error_iff] at h
        exact ⟨_, .tooLong hencode h.1, h.2⟩
    | error fault =>
        rw [segments_address_of_error hencode] at h
        exact ⟨fault, .unreadable hencode, (Except.error.inj h).symm⟩
  · intro h
    obtain ⟨fault, hrefused, rfl⟩ := h
    cases hrefused with
    | unreadable hencode => exact segments_address_of_error hencode
    | tooLong hencode hlong =>
        rw [segments_address_of_ok hencode]
        exact halves_eq_error_iff.mpr ⟨hlong, rfl⟩

end SeedPart

namespace Seeds

theorem append_cons_eq_ok_iff {seeds result : Seeds} {part : SeedPart} {parts : List SeedPart} :
    seeds.append (part :: parts) = .ok result ↔
      ∃ segments, part.segments = .ok segments ∧
        Seeds.append (seeds ++ segments) parts = .ok result := by
  rw [Seeds.append, Seeds.push]
  cases part.segments <;> simp [Except.map]

/-- Where there are no parts, none is refused. -/
theorem append_nil_ne_error (seeds : Seeds) (error : InputError) :
    seeds.append [] ≠ .error error := nofun

/-- The first part that is refused decides the error. -/
theorem append_cons_eq_error_iff {seeds : Seeds} {part : SeedPart} {parts : List SeedPart}
    {error : InputError} :
    seeds.append (part :: parts) = .error error ↔
      part.segments = .error error ∨
        ∃ segments, part.segments = .ok segments ∧
          Seeds.append (seeds ++ segments) parts = .error error := by
  rw [Seeds.append, Seeds.push]
  cases part.segments <;> simp [Except.map]

end Seeds

/-! ### Entities -/

namespace Entity

/-- The address that belongs to an entity, in its network's own text. -/
def addressText? {κ α : Type} : Entity κ α → Option (AddressFormat × String)
  | .address _ format text | .asset _ format text _ => some (format, text)
  | .communityStash _ | .network _ _ | .networkReward _ | .reporter _ _ | .reporterReward _ _
  | .case _ _ => none

variable {entity : Entity PublicKey Bytes} {program : PublicKey}

/-- An entity is refused for its address, and for nothing else. -/
theorem seeds_eq_error_iff {error : InputError} :
    entity.seeds = .error error ↔
      ∃ format text fault, entity.addressText? = some (format, text) ∧
        Refused format text fault ∧ error = .invalidAddress format fault := by
  cases entity <;>
    simp [seeds, parts, Seeds.append_cons_eq_error_iff, Seeds.append_nil_ne_error, addressText?,
      SeedPart.segments_address_eq_error_iff]

/-- The segments of an entity keep the limits of the search, whatever they hold. -/
theorem fits_seeds {seeds : Seeds} (h : entity.seeds = .ok seeds) : Fits seeds := by
  have hwidths := map_length_seeds h
  have hlimits : ∀ kind : EntityKind,
      kind.widths.length < maxSegments ∧ ∀ width ∈ kind.widths, width ≤ maxSegmentLength := by
    intro kind
    cases kind <;> decide
  constructor
  · rw [← List.length_map List.length, hwidths]
    exact (hlimits entity.kind).1
  · intro segment hsegment
    refine (hlimits entity.kind).2 _ ?_
    rw [← hwidths]
    exact List.mem_map_of_mem hsegment

/-- An entity is refused for its address, or the search decides. -/
theorem locate_cases (entity : Entity PublicKey Bytes) (program : PublicKey) :
    (∃ format text fault, entity.addressText? = some (format, text) ∧
      Refused format text fault ∧
        entity.locate program = .error (.invalidAddress format fault)) ∨
    ∃ seeds, entity.seeds = .ok seeds ∧
      entity.locate program = ProgramAddress.find seeds program := by
  cases hseeds : entity.seeds with
  | ok seeds =>
      refine Or.inr ⟨seeds, rfl, ?_⟩
      rw [locate, hseeds]
  | error error =>
      obtain ⟨format, text, fault, htext, hrefused, rfl⟩ := seeds_eq_error_iff.mp hseeds
      refine Or.inl ⟨format, text, fault, htext, hrefused, ?_⟩
      rw [locate, hseeds]

/-- What is not refused is located off the curve, or the search is exhausted. -/
theorem find_seeds_cases {seeds : Seeds} (h : entity.seeds = .ok seeds) (program : PublicKey) :
    (∃ found, ProgramAddress.find seeds program = .ok found ∧
      Ed25519.isOnCurve found.address.bytes = false) ∨
    ProgramAddress.find seeds program = .error .bumpsExhausted := by
  rcases (fits_seeds h).find_cases program with ⟨found, hfound, -⟩ | ⟨hnone, -⟩
  · exact Or.inl ⟨found, hfound, isOnCurve_of_create (create_of_find hfound)⟩
  · exact Or.inr hnone

theorem locate_eq_invalidAddress_iff {format : AddressFormat} {fault : AddressFault} :
    entity.locate program = .error (.invalidAddress format fault) ↔
      ∃ text, entity.addressText? = some (format, text) ∧ Refused format text fault := by
  constructor
  · intro h
    rcases locate_cases entity program with
      ⟨format', text, fault', htext, hrefused, hlocate⟩ | ⟨seeds, hseeds, hlocate⟩
    · cases hlocate.symm.trans h
      exact ⟨text, htext, hrefused⟩
    · rw [hlocate] at h
      rcases find_seeds_cases hseeds program with ⟨found, hfound, -⟩ | hnone
      · cases hfound.symm.trans h
      · cases hnone.symm.trans h
  · intro h
    obtain ⟨text, htext, hrefused⟩ := h
    have hseeds : entity.seeds = .error (.invalidAddress format fault) :=
      seeds_eq_error_iff.mpr ⟨format, text, fault, htext, hrefused, rfl⟩
    rw [locate, hseeds]

/-- **A derivation fails for a bad address only.** Whatever the entity and the program id
are, the derivation reports an invalid address exactly if the entity has an address that
the codec refuses or whose octets are more than 64. In every other case, and so always for
an entity without an address, it gives an address off the curve or is exhausted. It never
reports a limit on the segments or a point of the curve. -/
theorem fails_for_address_only (entity : Entity PublicKey Bytes) (program : PublicKey) :
    (∀ format fault, entity.locate program = .error (.invalidAddress format fault) ↔
      ∃ text, entity.addressText? = some (format, text) ∧ Refused format text fault) ∧
    ((∃ format fault, entity.locate program = .error (.invalidAddress format fault)) ∨
      (∃ found, entity.locate program = .ok found ∧
        Ed25519.isOnCurve found.address.bytes = false) ∨
      entity.locate program = .error .bumpsExhausted) ∧
    (∀ count, entity.locate program ≠ .error (.tooManySegments count)) ∧
    (∀ length, entity.locate program ≠ .error (.segmentTooLong length)) ∧
    entity.locate program ≠ .error .onCurve := by
  refine ⟨fun format fault => locate_eq_invalidAddress_iff, ?_⟩
  rcases locate_cases entity program with
    ⟨format, text, fault, -, -, hlocate⟩ | ⟨seeds, hseeds, hlocate⟩
  · rw [hlocate]
    exact ⟨Or.inl ⟨format, fault, rfl⟩, nofun, nofun, nofun⟩
  · rw [hlocate]
    rcases find_seeds_cases hseeds program with hfound | hnone
    · obtain ⟨found, hfound, hoff⟩ := hfound
      rw [hfound]
      exact ⟨Or.inr (Or.inl ⟨found, rfl, hoff⟩), nofun, nofun, nofun⟩
    · rw [hnone]
      exact ⟨Or.inr (Or.inr rfl), nofun, nofun, nofun⟩

/-- An address of 65 octets is refused with that number; a network whose name has 65 octets
is not refused. -/
theorem fails_for_address_only_sample :
    let text := String.ofList (List.replicate 65 'a')
    Entity.locate PublicKey.zero (.address .zero .plain text)
        = .error (.invalidAddress .plain (.fieldOverflow 65)) ∧
      ∀ format fault,
        Entity.locate PublicKey.zero (.network .zero text)
          ≠ .error (.invalidAddress format fault) := by
  intro text
  have hencode : Address.encode .plain text = .ok (List.replicate 65 97) := by decide +kernel
  refine ⟨?_, ?_⟩
  · have hrefused := Refused.tooLong hencode (by decide)
    exact ((fails_for_address_only _ _).1 _ _).mpr ⟨text, rfl, hrefused⟩
  · intro format fault hlocate
    obtain ⟨_, htext, -⟩ := ((fails_for_address_only _ _).1 _ _).mp hlocate
    cases htext

end Entity

end ReporterRegistry
