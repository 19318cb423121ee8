import ReporterRegistry.Json.Forms

/-!
# Events

What a registry announces once a change is stored. An event's JSON form is an
object that starts with the kind of the event, followed by its fields.

Reading an event takes the kind from anywhere in the object, so the other
members are held until it is known. Held numbers have at most 64 bits; fields of
128 bits cannot be read from them (`heldWord?`), and neither can any event that
has one.
-/

namespace ReporterRegistry

/-- A change that has been stored. -/
inductive Event where
  | authorityChanged (authority : Account)
  | stakeTermsChanged (terms : StakeTerms)
  | rewardTermsChanged (terms : RewardTerms)
  | reporterCreated (id : ReporterId) (account : Account) (role : Role)
  | reporterUpdated (id : ReporterId) (account : Account) (role : Role)
  | reporterActivated (id : ReporterId) (account : Account) (stake : Amount)
  | reporterDeactivated (id : ReporterId) (unlockTime : Seconds)
  | stakeWithdrawn (id : ReporterId) (account : Account) (amount : Amount)
  deriving DecidableEq, Repr

namespace Event

/-- The name of the kind. -/
def name : Event → String
  | .authorityChanged _ => "AuthorityChanged"
  | .stakeTermsChanged _ => "StakeConfigurationChanged"
  | .rewardTermsChanged _ => "RewardConfigurationChanged"
  | .reporterCreated _ _ _ => "ReporterCreated"
  | .reporterUpdated _ _ _ => "ReporterUpdated"
  | .reporterActivated _ _ _ => "ReporterActivated"
  | .reporterDeactivated _ _ => "ReporterDeactivated"
  | .stakeWithdrawn _ _ _ => "ReporterStakeWithdrawn"

/-- The kind as documents write it. -/
def tag : Event → String
  | .authorityChanged _ => "authority_changed"
  | .stakeTermsChanged _ => "stake_configuration_changed"
  | .rewardTermsChanged _ => "reward_configuration_changed"
  | .reporterCreated _ _ _ => "reporter_created"
  | .reporterUpdated _ _ _ => "reporter_updated"
  | .reporterActivated _ _ _ => "reporter_activated"
  | .reporterDeactivated _ _ => "reporter_deactivated"
  | .stakeWithdrawn _ _ _ => "reporter_stake_withdrawn"

/-! ### Writing -/

/-- The fields after the kind. -/
def fields : Event → List (String × Json)
  | .authorityChanged authority => [("new_authority", authority.toJson)]
  | .stakeTermsChanged terms => terms.fields
  | .rewardTermsChanged terms => terms.fields
  | .reporterCreated id account role | .reporterUpdated id account role =>
    [("id", id.toJson), ("account", account.toJson), ("role", role.toJson)]
  | .reporterActivated id account stake =>
    [("id", id.toJson), ("account", account.toJson), ("stake", .ofNat stake.toNat)]
  | .reporterDeactivated id unlockTime =>
    [("id", id.toJson), ("unlock_timestamp", .ofNat unlockTime.toNat)]
  | .stakeWithdrawn id account amount =>
    [("id", id.toJson), ("account", account.toJson), ("amount", .ofNat amount.toNat)]

/-- The record of an event. -/
def toJson (event : Event) : Json := .ofFields (("event", .ofString event.tag) :: event.fields)

/-! ### Reading -/

/-- How deep the values beside the kind may nest. -/
def heldDepth : Nat := 126

/-- Whether a held value may stand beside a name that is a key: nothing at all,
or an object without members. -/
def isHeldUnit : Json → Bool
  | .null => true
  | .object [] => true
  | _ => false

/-- The account of a record that was held. -/
def heldAccount? (value : Json) : Option Account :=
  match value.fields? Account.fieldNames with
  | some [format, bytes] => do
    let name ← format.nameWith? isHeldUnit
    let format ← AddressFormat.ofName? name
    let bytes ← bytes.octets?
    return ⟨format, bytes⟩
  | _ => none

/-- A number of so many bits that was held. Wider numbers are not read from what was
held, however small they are. -/
def heldWord? (w : Nat) (value : Json) : Option (BitVec w) :=
  if w ≤ 64 then value.word? w else none

/-- The id of a number that was held. -/
def heldId? (value : Json) : Option ReporterId := (heldWord? 128 value).map ReporterId.mk

/-- The role of a name that was held. -/
def heldRole? (value : Json) : Option Role := (value.nameWith? isHeldUnit).bind Role.ofName?

/-- The stake terms of a record that was held. -/
def heldStakeTerms? (held : Json) : Option StakeTerms :=
  match held.fields? StakeTerms.fieldNames with
  | some [token, duration, validator, tracer, publisher, authority] => do
    let token ← heldAccount? token
    let duration ← heldWord? 64 duration
    let validator ← heldWord? 128 validator
    let tracer ← heldWord? 128 tracer
    let publisher ← heldWord? 128 publisher
    let authority ← heldWord? 128 authority
    return ⟨token, duration, validator, tracer, publisher, authority⟩
  | _ => none

/-- The reward terms of a record that was held. -/
def heldRewardTerms? (held : Json) : Option RewardTerms :=
  match held.fields? RewardTerms.fieldNames with
  | some [token, confirmation, trace] => do
    let token ← heldAccount? token
    let confirmation ← heldWord? 128 confirmation
    let trace ← heldWord? 128 trace
    return ⟨token, confirmation, trace⟩
  | _ => none

/-- The details of a reporter in a record that was held. -/
def heldDetails? (held : Json) : Option (ReporterId × Account × Role) :=
  match held.fields? ["id", "account", "role"] with
  | some [id, account, role] => do
    let id ← heldId? id
    let account ← heldAccount? account
    let role ← heldRole? role
    return (id, account, role)
  | _ => none

/-- What a reporter locked or withdrew in a record that was held, under the name of the
amount. -/
def heldPayment? (name : String) (held : Json) : Option (ReporterId × Account × Amount) :=
  match held.fields? ["id", "account", name] with
  | some [id, account, amount] => do
    let id ← heldId? id
    let account ← heldAccount? account
    let amount ← heldWord? 128 amount
    return (id, account, amount)
  | _ => none

/-- When the stake of a reporter unlocks, in a record that was held. -/
def heldDeactivation? (held : Json) : Option (ReporterId × Seconds) :=
  match held.fields? ["id", "unlock_timestamp"] with
  | some [id, unlockTime] => do
    let id ← heldId? id
    let unlockTime ← heldWord? 64 unlockTime
    return (id, unlockTime)
  | _ => none

/-- The event of a kind with held fields. -/
def ofHeld? (tag : String) (held : Json) : Option Event :=
  if tag = "authority_changed" then
    match held.fields? ["new_authority"] with
    | some [authority] => (heldAccount? authority).map .authorityChanged
    | _ => none
  else if tag = "stake_configuration_changed" then (heldStakeTerms? held).map .stakeTermsChanged
  else if tag = "reward_configuration_changed" then (heldRewardTerms? held).map .rewardTermsChanged
  else if tag = "reporter_created" then
    (heldDetails? held).map fun (id, account, role) => .reporterCreated id account role
  else if tag = "reporter_updated" then
    (heldDetails? held).map fun (id, account, role) => .reporterUpdated id account role
  else if tag = "reporter_activated" then
    (heldPayment? "stake" held).map fun (id, account, stake) => .reporterActivated id account stake
  else if tag = "reporter_deactivated" then
    (heldDeactivation? held).map fun (id, unlockTime) => .reporterDeactivated id unlockTime
  else if tag = "reporter_stake_withdrawn" then
    (heldPayment? "amount" held).map fun (id, account, amount) => .stakeWithdrawn id account amount
  else none

/-- The event of an object with its kind among the members, or of an array with
its kind in front. -/
def ofJson? : Json → Option Event
  | .object members =>
    -- The kind is read on the spot wherever it stands; only the other members are held.
    let rest := members.filter fun member => member.1 ≠ .ofString "event"
    if Json.keysAreTexts members && Json.membersAreHoldable heldDepth rest then
      match Json.only? members "event" with
      | some kind => kind.text?.bind fun tag => ofHeld? tag (.object rest)
      | none => none
    else none
  | .array (kind :: rest) =>
    if Json.areHoldable heldDepth rest then
      kind.text?.bind fun tag => ofHeld? tag (.array rest)
    else none
  | _ => none

end Event

end ReporterRegistry
