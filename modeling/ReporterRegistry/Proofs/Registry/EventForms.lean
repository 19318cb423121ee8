import ReporterRegistry.Proofs.Json.Forms
import ReporterRegistry.Registry.Event

/-!
# Events as documents

Every event is written as a legible document, which is read back as the same tree. The
tree is not always read back as an event: the members beside the kind are held until
the kind is known, and no number of 128 bits is read from what was held. Ids, stakes,
amounts and rewards are such numbers. So an event is read back exactly if it has none of
them, and a change of authority is the only event of that sort
(`event_read_back_iff`).
-/

namespace ReporterRegistry

open Json

namespace Event

/-- The event of a document. -/
def parse? (text : String) : Option Event := (Json.parse? text).bind ofJson?

/-! ### Writing -/

theorem legible_fields (event : Event) : ∀ field ∈ event.fields, Legible field.2 := by
  cases event with
  | authorityChanged authority =>
      simp only [fields, List.forall_mem_cons]
      exact ⟨authority.legible, nofun⟩
  | stakeTermsChanged terms => exact terms.legible_fields
  | rewardTermsChanged terms => exact terms.legible_fields
  | reporterCreated id account role =>
      simp only [fields, List.forall_mem_cons]
      exact ⟨Legible.ofNat _, account.legible, Legible.ofString _, nofun⟩
  | reporterUpdated id account role =>
      simp only [fields, List.forall_mem_cons]
      exact ⟨Legible.ofNat _, account.legible, Legible.ofString _, nofun⟩
  | reporterActivated id account stake =>
      simp only [fields, List.forall_mem_cons]
      exact ⟨Legible.ofNat _, account.legible, Legible.ofNat _, nofun⟩
  | reporterDeactivated id unlockTime =>
      simp only [fields, List.forall_mem_cons]
      exact ⟨Legible.ofNat _, Legible.ofNat _, nofun⟩
  | stakeWithdrawn id account amount =>
      simp only [fields, List.forall_mem_cons]
      exact ⟨Legible.ofNat _, account.legible, Legible.ofNat _, nofun⟩

/-- **Every event is written as a legible document.** -/
theorem legible (event : Event) : Legible event.toJson :=
  Legible.ofFields (List.forall_mem_cons.mpr ⟨Legible.ofString _, event.legible_fields⟩)

theorem parse?_render (event : Event) : parse? event.toJson.render = ofJson? event.toJson := by
  rw [parse?, event.legible.parse?_render]
  rfl

/-! ### Numbers of 128 bits -/

@[simp] theorem heldWord?_wide (value : Json) : heldWord? 128 value = none :=
  if_neg (by decide)

@[simp] theorem heldId?_eq_none (value : Json) : heldId? value = none := by
  simp [heldId?]

theorem heldStakeTerms?_eq_none (held : Json) : heldStakeTerms? held = none := by
  unfold heldStakeTerms?
  split <;> simp

theorem heldRewardTerms?_eq_none (held : Json) : heldRewardTerms? held = none := by
  unfold heldRewardTerms?
  split <;> simp

theorem heldDetails?_eq_none (held : Json) : heldDetails? held = none := by
  unfold heldDetails?
  split <;> simp

theorem heldDeactivation?_eq_none (held : Json) : heldDeactivation? held = none := by
  unfold heldDeactivation?
  split <;> simp

theorem heldPayment?_eq_none (name : String) (held : Json) : heldPayment? name held = none := by
  unfold heldPayment?
  split <;> simp

/-- Of what was held, nothing but a change of authority is read. -/
theorem ofHeld?_cases (tag : String) (held : Json) :
    ofHeld? tag held = none ∨
      ∃ authority, ofHeld? tag held = some (.authorityChanged authority) := by
  unfold ofHeld?
  split
  · split
    · cases heldAccount? _ with
      | none => exact Or.inl rfl
      | some authority => exact Or.inr ⟨authority, rfl⟩
    · exact Or.inl rfl
  · refine Or.inl ?_
    simp only [heldStakeTerms?_eq_none, heldRewardTerms?_eq_none, heldDetails?_eq_none,
      heldPayment?_eq_none, heldDeactivation?_eq_none, Option.map_none, ite_self]

theorem ofHeld?_bind_cases (tag : Option String) (held : Json) :
    (tag.bind fun tag => ofHeld? tag held) = none ∨
      ∃ authority, (tag.bind fun tag => ofHeld? tag held) = some (.authorityChanged authority) := by
  cases tag with
  | none => exact Or.inl rfl
  | some tag => exact ofHeld?_cases tag held

theorem ofJson?_cases (value : Json) :
    ofJson? value = none ∨ ∃ authority, ofJson? value = some (.authorityChanged authority) := by
  unfold ofJson?
  split
  · simp only
    split
    · split
      · exact ofHeld?_bind_cases _ _
      · exact Or.inl rfl
    · exact Or.inl rfl
  · split
    · exact ofHeld?_bind_cases _ _
    · exact Or.inl rfl
  · exact Or.inl rfl

/-! ### A change of authority -/

/-- The record of an account survives being held. -/
theorem heldAccount?_toJson (account : Account) : heldAccount? account.toJson = some account := by
  have hfields : account.toJson.fields? Account.fieldNames
      = some [account.format.toJson, .ofOctets account.bytes] :=
    fields?_ofFields (by decide : Account.fieldNames.Nodup)
  have hname : account.format.toJson.nameWith? isHeldUnit = some account.format.name :=
    JsonText.toString?_ofString account.format.name
  simp only [heldAccount?, hfields, hname, AddressFormat.ofName?_name, octets?_ofOctets, bind,
    Option.bind, pure]

/-- Octets are far from the limit of double precision. -/
theorem fitsDouble_octet (b : UInt8) : (JsonNumber.ofNat b.toNat).fitsDouble = true := by
  have hall : ∀ n ∈ List.range 256, (JsonNumber.ofNat n).fitsDouble = true := by decide +kernel
  exact hall b.toNat (List.mem_range.mpr b.toNat_lt)

theorem areHoldable_octets (depth : Nat) (bs : Bytes) :
    areHoldable depth (bs.map fun b => Json.ofNat b.toNat) = true := by
  induction bs with
  | nil => rfl
  | cons b bs ih =>
      rw [List.map_cons, areHoldable, ih, Json.ofNat, isHoldable, fitsDouble_octet]
      rfl

/-- An account can be held: it nests two deep. -/
theorem isHoldable_account (depth : Nat) (account : Account) :
    isHoldable (depth + 2) account.toJson = true := by
  have hbytes : isHoldable (depth + 1) (.ofOctets account.bytes) = true :=
    areHoldable_octets depth account.bytes
  have hformat : isHoldable (depth + 1) account.format.toJson = true := by
    rw [AddressFormat.toJson, Json.ofString, isHoldable, JsonText.toString?_ofString]
    rfl
  simp only [Account.toJson, Json.ofFields, List.map_cons, List.map_nil, isHoldable,
    membersAreHoldable, JsonText.toString?_ofString, hbytes, hformat, Option.isSome_some,
    Bool.and_self]

/-- Of a record with its kind in front, the fields after the kind are held. -/
theorem ofJson?_ofFields (tag : String) {fields : List (String × Json)}
    (hfree : "event" ∉ fields.map Prod.fst)
    (hheld : membersAreHoldable heldDepth (fields.map memberOf) = true) :
    ofJson? (.ofFields (("event", .ofString tag) :: fields)) = ofHeld? tag (.ofFields fields) := by
  have hkeys := keysAreTexts_map_memberOf (("event", .ofString tag) :: fields)
  have hnone := valuesOf_of_not_mem hfree
  have hkind : only? ((("event", .ofString tag) :: fields).map memberOf) "event"
      = some (.ofString tag) := by
    unfold valuesOf at hnone
    rw [only?, valuesOf, List.map_cons, List.filter_cons_of_pos (by simp [memberOf]), List.map_cons,
      hnone]
    rfl
  have hrest : ((("event", .ofString tag) :: fields).map memberOf).filter
      (fun member => member.1 ≠ .ofString "event") = fields.map memberOf := by
    rw [List.map_cons, List.filter_cons_of_neg (by simp [memberOf]), List.filter_eq_self]
    intro member hmember
    obtain ⟨field, hfield, rfl⟩ := List.mem_map.mp hmember
    refine decide_eq_true fun hname => hfree ?_
    exact ofString_injective hname ▸ List.mem_map_of_mem hfield
  have htag : (Json.ofString tag).text? = some tag := JsonText.toString?_ofString tag
  show ofJson? (.object ((("event", .ofString tag) :: fields).map memberOf)) = _
  rw [ofJson?]
  simp only [hrest, hkeys, hheld, hkind, htag, Bool.and_self, if_true, Option.bind_some]
  rfl

/-- A change of authority is held whole, and read from what was held. -/
theorem ofJson?_authorityChanged (authority : Account) :
    ofJson? (Event.authorityChanged authority).toJson = some (.authorityChanged authority) := by
  have hheld : membersAreHoldable heldDepth
      ([("new_authority", authority.toJson)].map memberOf) = true := by
    simp only [List.map_cons, List.map_nil, memberOf, membersAreHoldable,
      JsonText.toString?_ofString, Option.isSome_some, Bool.true_and, Bool.and_true]
    exact isHoldable_account 124 authority
  have hfields : (Json.ofFields [("new_authority", authority.toJson)]).fields? ["new_authority"]
      = some [authority.toJson] :=
    fields?_ofFields (by simp)
  calc ofJson? (Event.authorityChanged authority).toJson
      = ofHeld? "authority_changed" (.ofFields [("new_authority", authority.toJson)]) :=
        ofJson?_ofFields _ (by simp [fields]) hheld
    _ = some (.authorityChanged authority) := by
        simp only [ofHeld?, hfields, heldAccount?_toJson, Option.map_some, if_true]

/-- Whatever the document, no event but a change of authority is ever read from it. -/
theorem parse?_cases (text : String) :
    parse? text = none ∨ ∃ authority, parse? text = some (.authorityChanged authority) := by
  unfold parse?
  cases Json.parse? text with
  | none => exact Or.inl rfl
  | some value => exact ofJson?_cases value

/-- **Exactly the events without a number of 128 bits are read back.** Every event is
written as a document that is read back as the tree it was; the tree gives the event if
it is a change of authority, and no other. -/
theorem event_read_back_iff (event : Event) :
    Json.parse? event.toJson.render = some event.toJson ∧
      (parse? event.toJson.render = some event ↔
        ∃ authority, event = .authorityChanged authority) := by
  refine ⟨event.legible.parse?_render, ?_⟩
  constructor
  · intro hread
    rcases parse?_cases event.toJson.render with hnone | ⟨authority, hauthority⟩
    · rw [hnone] at hread
      cases hread
    · rw [hauthority] at hread
      exact ⟨authority, (Option.some.inj hread).symm⟩
  · rintro ⟨authority, rfl⟩
    rw [parse?_render]
    exact ofJson?_authorityChanged authority

/-- The deactivation of a reporter is written, and not read back. -/
theorem event_not_read_back :
    (Event.reporterDeactivated ⟨7⟩ 0).toJson.render
        = "\x7b\"event\":\"reporter_deactivated\",\"id\":7,\"unlock_timestamp\":0\x7d" ∧
      parse? (Event.reporterDeactivated ⟨7⟩ 0).toJson.render
        ≠ some (.reporterDeactivated ⟨7⟩ 0) := by
  constructor
  · decide +kernel
  · rw [parse?_render]
    decide +kernel

end Event

end ReporterRegistry
