import ReporterRegistry.Cbor.Reader
import ReporterRegistry.Configuration

/-!
# The stored form of a configuration

A database keeps the configuration as one CBOR item: records with named fields in
a fixed order, formats by name, octets as arrays of numbers. Each type has its
value, a reader for values of that shape, and the way back from a value that such
a reader gave. Reading does not ask whether accounts are canonical.
-/

namespace ReporterRegistry

namespace Account

/-- The value of an account. -/
def toCbor (account : Account) : Cbor :=
  .record [("schema", .text account.format.name), ("bytes", .octets account.bytes)]

/-- Reads an account. -/
def cborReader : Cbor.Reader := .record [("schema", .name), ("bytes", .octets)]

/-- The account of a value. -/
def ofCbor? : Cbor → Option Account
  | .record [(_, .text format), (_, .octets content)] =>
    (AddressFormat.ofName? format).map (⟨·, content⟩)
  | _ => none

end Account

namespace StakeTerms

/-- The value of stake terms. -/
def toCbor (terms : StakeTerms) : Cbor :=
  .record [("token", terms.token.toCbor), ("unlock_duration", .natural terms.unlockDuration.toNat),
    ("validator_stake", .natural terms.validator.toNat),
    ("tracer_stake", .natural terms.tracer.toNat),
    ("publisher_stake", .natural terms.publisher.toNat),
    ("authority_stake", .natural terms.authority.toNat)]

/-- Reads stake terms. -/
def cborReader : Cbor.Reader :=
  .record [("token", Account.cborReader), ("unlock_duration", .word 64),
    ("validator_stake", .word 128), ("tracer_stake", .word 128), ("publisher_stake", .word 128),
    ("authority_stake", .word 128)]

/-- The stake terms of a value. -/
def ofCbor? : Cbor → Option StakeTerms
  | .record [(_, token), (_, .natural duration), (_, .natural validator), (_, .natural tracer),
      (_, .natural publisher), (_, .natural authority)] =>
    (Account.ofCbor? token).map fun token =>
      ⟨token, BitVec.ofNat 64 duration, BitVec.ofNat 128 validator, BitVec.ofNat 128 tracer,
        BitVec.ofNat 128 publisher, BitVec.ofNat 128 authority⟩
  | _ => none

end StakeTerms

namespace RewardTerms

/-- The value of reward terms. -/
def toCbor (terms : RewardTerms) : Cbor :=
  .record [("token", terms.token.toCbor),
    ("address_confirmation_reward", .natural terms.confirmation.toNat),
    ("trace_reward", .natural terms.trace.toNat)]

/-- Reads reward terms. -/
def cborReader : Cbor.Reader :=
  .record [("token", Account.cborReader), ("address_confirmation_reward", .word 128),
    ("trace_reward", .word 128)]

/-- The reward terms of a value. -/
def ofCbor? : Cbor → Option RewardTerms
  | .record [(_, token), (_, .natural confirmation), (_, .natural trace)] =>
    (Account.ofCbor? token).map
      (⟨·, BitVec.ofNat 128 confirmation, BitVec.ofNat 128 trace⟩)
  | _ => none

end RewardTerms

namespace Configuration

/-- The value of a configuration. -/
def toCbor (config : Configuration) : Cbor :=
  .record [("owner", config.owner.toCbor), ("authority", config.authority.toCbor),
    ("stake_configuration", config.stake.toCbor),
    ("reward_configuration", config.reward.toCbor)]

/-- Reads a configuration. -/
def cborReader : Cbor.Reader :=
  .record [("owner", Account.cborReader), ("authority", Account.cborReader),
    ("stake_configuration", StakeTerms.cborReader),
    ("reward_configuration", RewardTerms.cborReader)]

/-- The configuration of a value. -/
def ofCbor? : Cbor → Option Configuration
  | .record [(_, owner), (_, authority), (_, stake), (_, reward)] => do
    return ⟨← Account.ofCbor? owner, ← Account.ofCbor? authority, ← StakeTerms.ofCbor? stake,
      ← RewardTerms.ofCbor? reward⟩
  | _ => none

/-- The octets of a configuration. -/
def toBlob (config : Configuration) : Bytes := config.toCbor.encode

/-- The configuration that octets start with. What follows it does not matter. -/
def ofBlob? (bs : Bytes) : Option Configuration := do
  let (value, _) ← cborReader Cbor.maxDepth bs
  ofCbor? value

end Configuration

end ReporterRegistry
