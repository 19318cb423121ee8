import ReporterRegistry.Cbor.Forms
import ReporterRegistry.Proofs.Cbor.Numbers
import ReporterRegistry.Proofs.Text.Utf8

/-!
# Reading a configuration that was written

`Reads read depth value` says that a reader gives a value back from its octets,
whatever follows them. It holds of numbers, octets and names, and of a record if
it holds of the fields one by one, they are in the order of the record, and no
name occurs twice (`Reads.record`). So what a type needs is one line per field.

The only bound is on accounts: the length of their octets has to fit a head.
-/

namespace ReporterRegistry

namespace Cbor

open Reader

/-- The reader gives the value back, with the octets after it. -/
def Reads (read : Reader) (depth : Nat) (value : Cbor) : Prop :=
  ∀ rest, read depth (value.encode ++ rest) = some (value, rest)

/-! ### Numbers, octets and names -/

/-- A number is read back by a reader of its width. -/
theorem Reads.word {w n : Nat} (depth : Nat) (hw : w ≤ 128) (hn : n < 2 ^ w) :
    Reads (Reader.word w) depth (.natural n) := by
  intro rest
  have hn' : n < 2 ^ 128 := Nat.lt_of_lt_of_le hn (Nat.pow_le_pow_right (by decide) hw)
  rw [encode, Reader.word, Nat.one_shiftLeft, natBelow?_encodeNat hn' hn]
  rfl

theorem times?_octet? (bs rest : Bytes) :
    times? octet? bs.length ((bs.flatMap fun b => encodeNat b.toNat) ++ rest)
      = some (bs, rest) := by
  induction bs with
  | nil => rfl
  | cons b bs ih =>
      rw [List.flatMap_cons, List.append_assoc, List.length_cons, times?, octet?_encodeNat]
      simp only [bind, Option.bind, ih]
      rfl

/-- Octets are an array, whose length has to fit its head. -/
theorem Reads.octets {content : Bytes} (depth : Nat) (h : content.length < UInt64.size) :
    Reads Reader.octets (depth + 1) (.octets content) := by
  intro rest
  have hrun := times?_octet? content rest
  rw [encode, encodeOctets, List.append_assoc, Reader.octets, untagged?_head _ (by decide) h]
  simp only [bind, Option.bind, Head.ofArgument, run?, hrun]
  rfl

theorem toText?_encode (text : String) : toText? (Utf8.encode text.toList) = some text := by
  rw [toText?, Utf8.decode_encode]
  exact congrArg some String.ofList_toList

theorem maxKeyLength_lt : maxKeyLength < UInt64.size := by decide

/-- A name is read into a buffer, so that it must not be longer than that. -/
theorem Reads.name {text : String} (depth : Nat)
    (h : (Utf8.encode text.toList).length ≤ maxKeyLength) :
    Reads Reader.name depth (.text text) := by
  intro rest
  have hsize := Nat.lt_of_le_of_lt h maxKeyLength_lt
  have hread : nameOctets? (encodeText text ++ rest) = some (Utf8.encode text.toList, rest) := by
    rw [encodeText, List.append_assoc, nameOctets?, untagged?_head _ (by decide) hsize]
    simp only [bind, Option.bind, Head.ofArgument, if_neg (Nat.not_lt.mpr h), split?_append]
  rw [encode, Reader.name, hread]
  simp only [bind, Option.bind, toText?_encode]
  rfl

/-! ### Records -/

theorem key?_encodeText {name : String} (h : (Utf8.encode name.toList).length ≤ maxKeyLength)
    (rest : Bytes) : key? (encodeText name ++ rest) = some (Utf8.encode name.toList, rest) := by
  have hsize := Nat.lt_of_le_of_lt h maxKeyLength_lt
  rw [encodeText, List.append_assoc, key?, untagged?_head _ (by decide) hsize]
  simp only [bind, Option.bind, Head.ofArgument, if_neg (Nat.not_lt.mpr h), split?_append,
    toText?_encode, Option.isSome_some, if_true]
  rfl

/-- A field of a record, with the value that is read as it. -/
structure Slot where
  name : String
  read : Reader
  value : Cbor

namespace Slot

/-- The field as a reader of records has it. -/
def field (slot : Slot) : String × Reader := (slot.name, slot.read)

/-- The field as a record has it. -/
def entry (slot : Slot) : String × Cbor := (slot.name, slot.value)

variable {slots : List Slot}

/-- Names without repetition are found by their octets. -/
theorem find?_field (hnd : (slots.map Slot.name).Nodup) {slot : Slot} (h : slot ∈ slots) :
    ((slots.map field).find? fun other =>
      Utf8.encode other.1.toList = Utf8.encode slot.name.toList) = some slot.field := by
  induction slots with
  | nil => cases h
  | cons first slots ih =>
      rw [List.map_cons, List.nodup_cons] at hnd
      rw [List.map_cons]
      rcases List.mem_cons.mp h with rfl | hrest
      · exact List.find?_cons_of_pos (by simp [field])
      · have hne : Utf8.encode first.name.toList ≠ Utf8.encode slot.name.toList := by
          intro hsame
          have hname : first.name = slot.name :=
            String.toList_inj.mp (Utf8.encode_injective hsame)
          exact hnd.1 (hname ▸ List.mem_map_of_mem hrest)
        rw [List.find?_cons_of_neg (by simp [field, hne])]
        exact ih hnd.2 hrest

/-- Names without repetition have one entry each. -/
theorem only?_entry (hnd : (slots.map Slot.name).Nodup) {slot : Slot} (h : slot ∈ slots) :
    only? (slots.map entry) slot.name = some slot.value := by
  have hfilter : (slots.map entry).filter (fun member => member.1 = slot.name)
      = [slot.entry] := by
    induction slots with
    | nil => cases h
    | cons first slots ih =>
        rw [List.map_cons, List.nodup_cons] at hnd
        rw [List.map_cons]
        rcases List.mem_cons.mp h with rfl | hrest
        · rw [List.filter_cons_of_pos (by simp [entry])]
          have hnone : (slots.map entry).filter (fun member => member.1 = slot.name) = [] := by
            rw [List.filter_eq_nil_iff]
            intro member hmember
            obtain ⟨other, hother, rfl⟩ := List.mem_map.mp hmember
            have hne : other.name ≠ slot.name := by
              intro hname
              exact hnd.1 (hname ▸ List.mem_map_of_mem hother)
            simp [entry, hne]
          rw [hnone]
        · have hne : first.name ≠ slot.name := by
            intro hname
            exact hnd.1 (hname ▸ List.mem_map_of_mem hrest)
          rw [List.filter_cons_of_neg (by simp [entry, hne])]
          exact ih hnd.2 hrest
  rw [only?, hfilter]
  rfl

/-- One member of a map is read as the field of its name. -/
theorem member?_entry {depth : Nat} (hnd : (slots.map Slot.name).Nodup) {slot : Slot}
    (h : slot ∈ slots) (hlength : (Utf8.encode slot.name.toList).length ≤ maxKeyLength)
    (hread : Reads slot.read depth slot.value) (rest : Bytes) :
    member? (slots.map field) depth (encodeText slot.name ++ slot.value.encode ++ rest)
      = some (some slot.entry, rest) := by
  rw [List.append_assoc, member?, key?_encodeText hlength]
  simp only [bind, Option.bind, find?_field hnd h, field, hread rest]
  rfl

end Slot

/-- What a record needs of its fields: every value is read back by the reader of
its field. -/
def AllRead (depth : Nat) (slots : List Slot) : Prop :=
  ∀ slot ∈ slots, (Utf8.encode slot.name.toList).length ≤ maxKeyLength ∧
    Reads slot.read depth slot.value

/-- The members are read one after the other, each by the reader of its field. -/
theorem times?_member? {slots all : List Slot} {depth : Nat}
    (hnd : (all.map Slot.name).Nodup) (hsub : ∀ slot ∈ slots, slot ∈ all)
    (hread : AllRead depth slots) (rest : Bytes) :
    times? (member? (all.map Slot.field) depth) slots.length
        (encodeFields (slots.map Slot.entry) ++ rest)
      = some (slots.map fun slot => some slot.entry, rest) := by
  induction slots with
  | nil => rfl
  | cons slot slots ih =>
      obtain ⟨hlength, hvalue⟩ := hread slot List.mem_cons_self
      have hrest := ih (fun s hs => hsub s (List.mem_cons_of_mem slot hs))
        (fun s hs => hread s (List.mem_cons_of_mem slot hs))
      have hmember := Slot.member?_entry hnd (hsub slot List.mem_cons_self) hlength hvalue
        (encodeFields (slots.map Slot.entry) ++ rest)
      rw [List.map_cons, List.length_cons, times?, Slot.entry, encodeFields, List.append_assoc,
        hmember]
      simp only [bind, Option.bind, hrest]
      rfl

/-- Every field is then found among the members that were read. -/
theorem mapM_only? {slots all : List Slot} (hnd : (all.map Slot.name).Nodup)
    (hsub : ∀ slot ∈ slots, slot ∈ all) :
    ((slots.map Slot.field).mapM fun field =>
        (only? (all.map Slot.entry) field.1).map fun value => (field.1, value))
      = some (slots.map Slot.entry) := by
  induction slots with
  | nil => rfl
  | cons slot slots ih =>
      rw [List.map_cons, List.mapM_cons, ih fun s hs => hsub s (List.mem_cons_of_mem slot hs)]
      have honly := Slot.only?_entry hnd (hsub slot List.mem_cons_self)
      simp only [Slot.field, honly, Option.map_some]
      rfl

/-- **A record is read back**, if its fields are. -/
theorem Reads.record {slots : List Slot} {depth : Nat} (hnd : (slots.map Slot.name).Nodup)
    (hcount : slots.length < UInt64.size) (hread : AllRead depth slots) :
    Reads (Reader.record (slots.map Slot.field)) (depth + 1) (.record (slots.map Slot.entry)) := by
  intro rest
  have hmembers := times?_member? hnd (fun _ h => h) hread rest
  have hvalues := mapM_only? hnd fun slot (h : slot ∈ slots) => h
  have hfound : (slots.map fun slot => some slot.entry).filterMap id = slots.map Slot.entry := by
    rw [List.filterMap_map]
    exact congrFun List.filterMap_eq_map slots
  rw [encode, List.append_assoc, List.length_map, Reader.record,
    untagged?_head _ (by decide) hcount]
  simp only [bind, Option.bind, Head.ofArgument, run?, hmembers, hfound]
  simp only [hvalues]
  rfl

end Cbor

/-! ### Configurations -/

open Cbor

/-- The octets of an account are so few that a head can count them. -/
def Account.Sized (account : Account) : Prop := account.bytes.length < UInt64.size

/-- All accounts of a configuration are sized. -/
structure Configuration.Sized (config : Configuration) : Prop where
  owner : config.owner.Sized
  authority : config.authority.Sized
  stakeToken : config.stake.token.Sized
  rewardToken : config.reward.token.Sized

/-- An account needs two levels of nesting: the record, and the array of its octets. -/
theorem Account.reads {account : Account} (depth : Nat) (h : account.Sized) :
    Reads Account.cborReader (depth + 2) account.toCbor := by
  have hslots : AllRead (depth + 1)
      [⟨"schema", .name, .text account.format.name⟩,
        ⟨"bytes", .octets, .octets account.bytes⟩] := by
    simp only [AllRead, List.forall_mem_cons]
    refine ⟨⟨by decide, Reads.name _ ?_⟩, ⟨by decide, Reads.octets depth h⟩, by simp⟩
    cases account.format <;> decide
  have hrecord := Reads.record (by simp) (by simp [UInt64.size]) hslots
  exact hrecord

theorem StakeTerms.reads {terms : StakeTerms} (depth : Nat) (h : terms.token.Sized) :
    Reads StakeTerms.cborReader (depth + 3) terms.toCbor := by
  have hslots : AllRead (depth + 2)
      [⟨"token", Account.cborReader, terms.token.toCbor⟩,
        ⟨"unlock_duration", .word 64, .natural terms.unlockDuration.toNat⟩,
        ⟨"validator_stake", .word 128, .natural terms.validator.toNat⟩,
        ⟨"tracer_stake", .word 128, .natural terms.tracer.toNat⟩,
        ⟨"publisher_stake", .word 128, .natural terms.publisher.toNat⟩,
        ⟨"authority_stake", .word 128, .natural terms.authority.toNat⟩] := by
    simp only [AllRead, List.forall_mem_cons]
    exact ⟨⟨by decide, Account.reads depth h⟩,
      ⟨by decide, Reads.word _ (by decide) (BitVec.isLt _)⟩,
      ⟨by decide, Reads.word _ (by decide) (BitVec.isLt _)⟩,
      ⟨by decide, Reads.word _ (by decide) (BitVec.isLt _)⟩,
      ⟨by decide, Reads.word _ (by decide) (BitVec.isLt _)⟩,
      ⟨by decide, Reads.word _ (by decide) (BitVec.isLt _)⟩, by simp⟩
  have hrecord := Reads.record (by simp) (by simp [UInt64.size]) hslots
  exact hrecord

theorem RewardTerms.reads {terms : RewardTerms} (depth : Nat) (h : terms.token.Sized) :
    Reads RewardTerms.cborReader (depth + 3) terms.toCbor := by
  have hslots : AllRead (depth + 2)
      [⟨"token", Account.cborReader, terms.token.toCbor⟩,
        ⟨"address_confirmation_reward", .word 128, .natural terms.confirmation.toNat⟩,
        ⟨"trace_reward", .word 128, .natural terms.trace.toNat⟩] := by
    simp only [AllRead, List.forall_mem_cons]
    exact ⟨⟨by decide, Account.reads depth h⟩,
      ⟨by decide, Reads.word _ (by decide) (BitVec.isLt _)⟩,
      ⟨by decide, Reads.word _ (by decide) (BitVec.isLt _)⟩, by simp⟩
  have hrecord := Reads.record (by simp) (by simp [UInt64.size]) hslots
  exact hrecord

theorem Configuration.reads {config : Configuration} (depth : Nat) (h : config.Sized) :
    Reads Configuration.cborReader (depth + 4) config.toCbor := by
  have hslots : AllRead (depth + 3)
      [⟨"owner", Account.cborReader, config.owner.toCbor⟩,
        ⟨"authority", Account.cborReader, config.authority.toCbor⟩,
        ⟨"stake_configuration", StakeTerms.cborReader, config.stake.toCbor⟩,
        ⟨"reward_configuration", RewardTerms.cborReader, config.reward.toCbor⟩] := by
    simp only [AllRead, List.forall_mem_cons]
    exact ⟨⟨by decide, Account.reads (depth + 1) h.owner⟩,
      ⟨by decide, Account.reads (depth + 1) h.authority⟩,
      ⟨by decide, StakeTerms.reads depth h.stakeToken⟩,
      ⟨by decide, RewardTerms.reads depth h.rewardToken⟩, by simp⟩
  have hrecord := Reads.record (by simp) (by simp [UInt64.size]) hslots
  exact hrecord

theorem Account.ofCbor?_toCbor (account : Account) :
    Account.ofCbor? account.toCbor = some account := by
  simp [toCbor, ofCbor?]

theorem StakeTerms.ofCbor?_toCbor (terms : StakeTerms) :
    StakeTerms.ofCbor? terms.toCbor = some terms := by
  simp [toCbor, ofCbor?, Account.ofCbor?_toCbor]

theorem RewardTerms.ofCbor?_toCbor (terms : RewardTerms) :
    RewardTerms.ofCbor? terms.toCbor = some terms := by
  simp [toCbor, ofCbor?, Account.ofCbor?_toCbor]

/-- **A configuration that was written is read back.** -/
theorem Configuration.ofBlob?_toBlob {config : Configuration} (h : config.Sized) :
    Configuration.ofBlob? config.toBlob = some config := by
  have hread := Configuration.reads 252 h []
  rw [List.append_nil] at hread
  have hvalue : Configuration.ofCbor? config.toCbor = some config := by
    simp [toCbor, ofCbor?, Account.ofCbor?_toCbor, StakeTerms.ofCbor?_toCbor,
      RewardTerms.ofCbor?_toCbor]
  rw [ofBlob?, toBlob]
  show (Configuration.cborReader 256 config.toCbor.encode).bind _ = some config
  rw [hread]
  exact hvalue

end ReporterRegistry
