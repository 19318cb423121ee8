import ReporterRegistry.Configuration
import ReporterRegistry.Hash.Sha256
import ReporterRegistry.Json.Printer
import ReporterRegistry.Json.Record

/-!
# JSON forms of the registry's values

Names are strings, keys and hashes are arrays of 32 numbers, an id is one
number, and records list their fields in a fixed order. Reading checks ranges
and shapes only: the octets of an account need not be canonical.
-/

namespace ReporterRegistry

/-! ### Names, numbers and octets -/

namespace AddressFormat

/-- The name of the format. -/
def toJson (format : AddressFormat) : Json := .ofString format.name

/-- The format of a name. -/
def ofJson? (value : Json) : Option AddressFormat := value.name?.bind ofName?

end AddressFormat

namespace Role

/-- The name of the role. -/
def toJson (role : Role) : Json := .ofString role.name

/-- The role of a name. -/
def ofJson? (value : Json) : Option Role := value.name?.bind ofName?

end Role

namespace Status

/-- The name of the state. -/
def toJson (status : Status) : Json := .ofString status.name

/-- The state of a name. -/
def ofJson? (value : Json) : Option Status := value.name?.bind ofName?

end Status

namespace PublicKey

/-- The octets of the key. -/
def toJson (key : PublicKey) : Json := .ofOctets key.bytes

/-- The key of exactly 32 octets. -/
def ofJson? (value : Json) : Option PublicKey := value.octets?.bind ofBytes?

end PublicKey

namespace Digest

/-- The octets of the hash. -/
def toJson (digest : Digest) : Json := .ofOctets digest.bytes

/-- The hash of exactly 32 octets. -/
def ofJson? (value : Json) : Option Digest :=
  value.octets?.bind fun bs => if h : bs.length = 32 then some ⟨bs, h⟩ else none

end Digest

namespace ReporterId

/-- The number. -/
def toJson (id : ReporterId) : Json := .ofNat id.value.toNat

/-- The id of a number. -/
def ofJson? (value : Json) : Option ReporterId := (value.word? 128).map ReporterId.mk

end ReporterId

/-! ### Records -/

namespace Account

/-- The names of the fields. -/
def fieldNames : List String := ["schema", "bytes"]

/-- The record of an account. -/
def toJson (account : Account) : Json :=
  .ofFields [("schema", account.format.toJson), ("bytes", .ofOctets account.bytes)]

/-- The account of a record. -/
def ofJson? (value : Json) : Option Account :=
  match value.fields? fieldNames with
  | some [format, bytes] => do
    let format ← AddressFormat.ofJson? format
    let bytes ← bytes.octets?
    return ⟨format, bytes⟩
  | _ => none

end Account

namespace StakeTerms

/-- The names of the fields. -/
def fieldNames : List String :=
  ["token", "unlock_duration", "validator_stake", "tracer_stake", "publisher_stake",
    "authority_stake"]

/-- The named fields of the terms. -/
def fields (terms : StakeTerms) : List (String × Json) :=
  [("token", terms.token.toJson), ("unlock_duration", .ofNat terms.unlockDuration.toNat),
    ("validator_stake", .ofNat terms.validator.toNat), ("tracer_stake", .ofNat terms.tracer.toNat),
    ("publisher_stake", .ofNat terms.publisher.toNat),
    ("authority_stake", .ofNat terms.authority.toNat)]

/-- The record of the terms. -/
def toJson (terms : StakeTerms) : Json := .ofFields terms.fields

/-- The terms of a record. -/
def ofJson? (value : Json) : Option StakeTerms :=
  match value.fields? fieldNames with
  | some [token, duration, validator, tracer, publisher, authority] => do
    let token ← Account.ofJson? token
    let duration ← duration.word? 64
    let validator ← validator.word? 128
    let tracer ← tracer.word? 128
    let publisher ← publisher.word? 128
    let authority ← authority.word? 128
    return ⟨token, duration, validator, tracer, publisher, authority⟩
  | _ => none

end StakeTerms

namespace RewardTerms

/-- The names of the fields. -/
def fieldNames : List String := ["token", "address_confirmation_reward", "trace_reward"]

/-- The named fields of the terms. -/
def fields (terms : RewardTerms) : List (String × Json) :=
  [("token", terms.token.toJson),
    ("address_confirmation_reward", .ofNat terms.confirmation.toNat),
    ("trace_reward", .ofNat terms.trace.toNat)]

/-- The record of the terms. -/
def toJson (terms : RewardTerms) : Json := .ofFields terms.fields

/-- The terms of a record. -/
def ofJson? (value : Json) : Option RewardTerms :=
  match value.fields? fieldNames with
  | some [token, confirmation, trace] => do
    let token ← Account.ofJson? token
    let confirmation ← confirmation.word? 128
    let trace ← trace.word? 128
    return ⟨token, confirmation, trace⟩
  | _ => none

end RewardTerms

namespace Configuration

/-- The names of the fields. -/
def fieldNames : List String :=
  ["owner", "authority", "stake_configuration", "reward_configuration"]

/-- The record of a configuration. -/
def toJson (config : Configuration) : Json :=
  .ofFields [("owner", config.owner.toJson), ("authority", config.authority.toJson),
    ("stake_configuration", config.stake.toJson),
    ("reward_configuration", config.reward.toJson)]

/-- The configuration of a record. -/
def ofJson? (value : Json) : Option Configuration :=
  match value.fields? fieldNames with
  | some [owner, authority, stake, reward] => do
    let owner ← Account.ofJson? owner
    let authority ← Account.ofJson? authority
    let stake ← StakeTerms.ofJson? stake
    let reward ← RewardTerms.ofJson? reward
    return ⟨owner, authority, stake, reward⟩
  | _ => none

end Configuration

namespace Reporter

/-- The names of the fields. -/
def fieldNames : List String :=
  ["id", "account", "name", "url", "role", "status", "stake", "stake_token",
    "unlock_timestamp"]

/-- The record of a reporter. -/
def toJson (reporter : Reporter) : Json :=
  .ofFields [("id", reporter.id.toJson), ("account", reporter.account.toJson),
    ("name", .ofString reporter.name), ("url", .ofString reporter.url),
    ("role", reporter.role.toJson), ("status", reporter.status.toJson),
    ("stake", .ofNat reporter.stake.toNat), ("stake_token", reporter.stakeToken.toJson),
    ("unlock_timestamp", .ofNat reporter.unlockTime.toNat)]

/-- The reporter of a record. -/
def ofJson? (value : Json) : Option Reporter :=
  match value.fields? fieldNames with
  | some [id, account, name, url, role, status, stake, stakeToken, unlockTime] => do
    let id ← ReporterId.ofJson? id
    let account ← Account.ofJson? account
    let name ← name.text?
    let url ← url.text?
    let role ← Role.ofJson? role
    let status ← Status.ofJson? status
    let stake ← stake.word? 128
    let stakeToken ← Account.ofJson? stakeToken
    let unlockTime ← unlockTime.word? 64
    return ⟨id, account, name, url, role, status, stake, stakeToken, unlockTime⟩
  | _ => none

end Reporter

end ReporterRegistry
