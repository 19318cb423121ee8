import Mathlib.Algebra.GroupWithZero.Nat
import Mathlib.Data.List.Flatten
import ReporterRegistry.Derivation.Entity

/-!
# Messages tell derivations apart

A derivation hashes its segments one after the other, with nothing between them,
and some tags begin with others. What keeps two messages apart is their length:
every kind of entity has segments of fixed widths (`EntityKind.widths`), and no two
kinds have the same width altogether (`EntityKind.eq_of_sum_widths`). So the
length of a message gives the kind, the kind gives the widths, and the widths say
where one segment ends and the next begins.

If two different derivations have the same address all the same, their messages
are a collision of the hash (`message_unambiguous`).
-/

namespace ReporterRegistry

/-- The kinds of entities. -/
inductive EntityKind where
  | communityStash
  | network
  | networkReward
  | reporter
  | reporterReward
  | case
  | address
  | asset
  deriving DecidableEq, Repr

/-- The kind of an entity. -/
def Entity.kind {κ α : Type} : Entity κ α → EntityKind
  | .communityStash _ => .communityStash
  | .network _ _ => .network
  | .networkReward _ => .networkReward
  | .reporter _ _ => .reporter
  | .reporterReward _ _ => .reporterReward
  | .case _ _ => .case
  | .address _ _ _ => .address
  | .asset _ _ _ _ => .asset

/-! ### Widths -/

/-- The widths of the segments that a part becomes. -/
def SeedPart.widths : SeedPart → List Nat
  | .key _ => [32]
  | .name _ => [32]
  | .number _ => [8]
  | .address _ _ => [32, 32]
  | .canonical _ _ => [32, 32]
  | .assetId _ => [32]

namespace EntityKind

/-- The width of the tag. -/
def tagWidth : EntityKind → Nat
  | .communityStash => 15
  | .network => 7
  | .networkReward => 14
  | .reporter => 8
  | .reporterReward => 15
  | .case => 4
  | .address => 7
  | .asset => 5

/-- The widths of the segments after the tag. -/
def fieldWidths : EntityKind → List Nat
  | .communityStash => [32]
  | .network => [32, 32]
  | .networkReward => [32]
  | .reporter => [32, 32]
  | .reporterReward => [32, 32]
  | .case => [32, 8]
  | .address => [32, 32, 32]
  | .asset => [32, 32, 32, 32]

/-- The widths of all segments. -/
def widths (kind : EntityKind) : List Nat := kind.tagWidth :: kind.fieldWidths

/-- The width of all segments together gives the kind away, although some tags begin
with others. -/
theorem eq_of_sum_widths {kind kind' : EntityKind} (h : kind.widths.sum = kind'.widths.sum) :
    kind = kind' := by
  revert h
  cases kind <;> cases kind' <;> decide

end EntityKind

namespace SeedPart

theorem map_length_halves {format : AddressFormat} {bs : Bytes} {segments : List Bytes}
    (h : halves format bs = .ok segments) : segments.map List.length = [32, 32] := by
  unfold halves at h
  split at h
  · cases h
  · cases h
    simp [addressField, fieldLength]

/-- The segments of a part have its widths, whatever the part holds. -/
theorem map_length_segments {part : SeedPart} {segments : List Bytes}
    (h : part.segments = .ok segments) : segments.map List.length = part.widths := by
  cases part with
  | key key =>
      cases h
      simp [widths, key.length_bytes]
  | name text =>
      cases h
      simp [widths, fieldLength]
  | number value =>
      cases h
      simp [widths]
  | address format text =>
      simp only [SeedPart.segments] at h
      split at h
      · exact map_length_halves h
      · cases h
  | canonical format bs => exact map_length_halves h
  | assetId bs =>
      cases h
      simp [widths, fieldLength]

end SeedPart

/-- Appending parts appends segments of their widths. -/
theorem Seeds.map_length_append {seeds result : Seeds} {parts : List SeedPart}
    (h : seeds.append parts = .ok result) :
    result.map List.length = seeds.map List.length ++ parts.flatMap SeedPart.widths := by
  induction parts generalizing seeds with
  | nil =>
      cases h
      simp
  | cons part parts ih =>
      simp only [Seeds.append, Seeds.push] at h
      cases hsegments : part.segments with
      | error error =>
          rw [hsegments] at h
          cases h
      | ok segments =>
          rw [hsegments] at h
          rw [ih h, List.map_append, SeedPart.map_length_segments hsegments, List.flatMap_cons,
            List.append_assoc]

namespace Entity

theorem length_tag {κ α : Type} (entity : Entity κ α) :
    (Utf8.encode entity.tag.toList).length = entity.kind.tagWidth := by
  cases entity <;> simp only [tag, kind, EntityKind.tagWidth] <;> decide

theorem widths_parts (entity : Entity PublicKey Bytes) :
    entity.parts.flatMap SeedPart.widths = entity.kind.fieldWidths := by
  cases entity <;> rfl

/-- **The segments of an entity have the widths of its kind.** -/
theorem map_length_seeds {entity : Entity PublicKey Bytes} {seeds : Seeds}
    (h : entity.seeds = .ok seeds) : seeds.map List.length = entity.kind.widths := by
  rw [Seeds.map_length_append h, widths_parts]
  exact congrArg (· :: entity.kind.fieldWidths) entity.length_tag

end Entity

/-! ### Messages -/

/-- A hash is its octets. -/
theorem Digest.eq_of_bytes_eq {digest digest' : Digest} (h : digest.bytes = digest'.bytes) :
    digest = digest' := by
  cases digest
  cases digest'
  cases h
  rfl

namespace ProgramAddress

/-- A message is cut into its segments, the bump and the program id in one way only,
once the widths of the segments are known. -/
theorem message_inj_of_widths {segments segments' : List Bytes} {bump bump' : UInt8}
    {program program' : PublicKey}
    (hwidths : segments.flatten.length = segments'.flatten.length →
      segments.map List.length = segments'.map List.length)
    (h : message (segments ++ [[bump]]) program = message (segments' ++ [[bump']]) program') :
    program = program' ∧ bump = bump' ∧ segments = segments' := by
  have hbody := List.append_cancel_right h
  obtain ⟨hfront, hprogram⟩ :=
    List.append_inj' hbody (program.length_bytes.trans program'.length_bytes.symm)
  simp only [List.flatten_append, List.flatten_singleton] at hfront
  obtain ⟨hsegments, hbump⟩ := List.append_inj' hfront rfl
  refine ⟨?_, List.head_eq_of_cons_eq hbump, ?_⟩
  · cases program
    cases program'
    cases hprogram
    rfl
  · exact List.eq_iff_flatten_eq.mpr ⟨hsegments, hwidths (congrArg List.length hsegments)⟩

/-- An address that was created is the hash of its message. -/
theorem create_eq_ok {segments : List Bytes} {program address : PublicKey}
    (h : create segments program = .ok address) : address = candidate segments program := by
  unfold create at h
  split at h
  · cases h
  split at h
  · cases h
  simp only at h
  split at h
  · cases h
  · cases h
    rfl

/-- An address that was found was created with its bump. -/
theorem create_of_findFrom {segments : List Bytes} {program : PublicKey} {start : Nat}
    {found : DerivedAddress} (h : findFrom segments program start = .ok found) :
    create (segments ++ [[UInt8.ofNat found.bump]]) program = .ok found.address := by
  induction start with
  | zero => cases h
  | succ bump ih =>
      simp only [findFrom] at h
      split at h
      · rename_i hcreate
        cases h
        exact hcreate
      · exact ih h
      · cases h

end ProgramAddress

open ProgramAddress

/-- The message that the address of an entity is the hash of. -/
theorem Entity.address_of_locate {entity : Entity PublicKey Bytes} {seeds : Seeds}
    {program : PublicKey} {found : DerivedAddress} (hseeds : entity.seeds = .ok seeds)
    (h : entity.locate program = .ok found) :
    found.address.bytes
      = (Digest.of (message (seeds ++ [[UInt8.ofNat found.bump]]) program)).bytes := by
  simp only [locate, hseeds, find] at h
  split at h
  · cases h
  · rw [create_eq_ok (create_of_findFrom h)]
    rfl

/-- **Derivations never share a message.** The messages of two entities, with any bumps
and under any program ids, are equal only if the entities are of one kind and the
program ids, the bumps and all segments are the same. So if entities that differ in any
of these have one address, then two different messages have one hash. -/
theorem message_unambiguous {entity entity' : Entity PublicKey Bytes} {seeds seeds' : Seeds}
    (hseeds : entity.seeds = .ok seeds) (hseeds' : entity'.seeds = .ok seeds')
    (program program' : PublicKey) :
    (∀ bump bump' : UInt8,
      message (seeds ++ [[bump]]) program = message (seeds' ++ [[bump']]) program' →
        entity.kind = entity'.kind ∧ program = program' ∧ bump = bump' ∧ seeds = seeds') ∧
    ∀ found found' : DerivedAddress,
      entity.locate program = .ok found → entity'.locate program' = .ok found' →
      found.address = found'.address →
      (entity.kind ≠ entity'.kind ∨ program ≠ program' ∨ seeds ≠ seeds') →
        message (seeds ++ [[UInt8.ofNat found.bump]]) program
            ≠ message (seeds' ++ [[UInt8.ofNat found'.bump]]) program' ∧
          Digest.of (message (seeds ++ [[UInt8.ofNat found.bump]]) program)
            = Digest.of (message (seeds' ++ [[UInt8.ofNat found'.bump]]) program') := by
  have hwidths := Entity.map_length_seeds hseeds
  have hwidths' := Entity.map_length_seeds hseeds'
  have hkind : seeds.flatten.length = seeds'.flatten.length → entity.kind = entity'.kind := by
    intro hlength
    rw [List.length_flatten, List.length_flatten, hwidths, hwidths'] at hlength
    exact EntityKind.eq_of_sum_widths hlength
  have hsame : ∀ bump bump' : UInt8,
      message (seeds ++ [[bump]]) program = message (seeds' ++ [[bump']]) program' →
        entity.kind = entity'.kind ∧ program = program' ∧ bump = bump' ∧ seeds = seeds' := by
    intro bump bump' h
    obtain ⟨hprogram, hbump, hsegments⟩ := message_inj_of_widths
      (fun hlength => by rw [hwidths, hwidths', hkind hlength]) h
    exact ⟨hkind (by rw [hsegments]), hprogram, hbump, hsegments⟩
  refine ⟨hsame, ?_⟩
  intro found found' hfound hfound' haddress hdiffer
  constructor
  · intro hmessage
    obtain ⟨hk, hp, -, hs⟩ := hsame _ _ hmessage
    rcases hdiffer with hne | hne | hne
    · exact hne hk
    · exact hne hp
    · exact hne hs
  · have hdigest := Entity.address_of_locate hseeds hfound
    rw [haddress, Entity.address_of_locate hseeds' hfound'] at hdigest
    exact Digest.eq_of_bytes_eq hdigest.symm

/-- The key of a community that continues the tag of its networks as the tag of network
rewards goes on. -/
def Sample.rewardKey : PublicKey := ⟨Bytes.resize 32 (Utf8.encode "_reward".toList), by simp⟩

/-- The messages of such a network and of a network reward begin alike, and still they are
never the same. -/
theorem message_unambiguous_sample :
    let seeds : Seeds := [Utf8.encode "network".toList, Sample.rewardKey.bytes, Bytes.resize 32 []]
    let seeds' : Seeds := [Utf8.encode "network_reward".toList, PublicKey.zero.bytes]
    Entity.seeds (.network Sample.rewardKey "") = .ok seeds ∧
      Entity.seeds (.networkReward .zero) = .ok seeds' ∧
      seeds.flatten.take 39 = seeds'.flatten.take 39 ∧
      ∀ (bump bump' : UInt8) (program program' : PublicKey),
        message (seeds ++ [[bump]]) program ≠ message (seeds' ++ [[bump']]) program' := by
  intro seeds seeds'
  have hseeds : Entity.seeds (.network Sample.rewardKey "") = .ok seeds := rfl
  have hseeds' : Entity.seeds (.networkReward .zero) = .ok seeds' := rfl
  refine ⟨hseeds, hseeds', by decide +kernel, ?_⟩
  intro bump bump' program program' hmessage
  have hsame := (message_unambiguous hseeds hseeds' program program').1 bump bump' hmessage
  cases hsame.1

end ReporterRegistry
