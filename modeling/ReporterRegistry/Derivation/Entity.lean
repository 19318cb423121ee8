import ReporterRegistry.Derivation.ProgramAddress
import ReporterRegistry.Derivation.Seeds

/-!
# Entities

What the registry gives a storage address to. An entity is located by the
program-derived address of its tag, its parents' keys and its own
discriminators, in that order; off-chain clients compute the same addresses, so
tags and order are part of the contract.

Keys and asset ids are type parameters, as a client may hold them as text.
-/

namespace ReporterRegistry

/-- Something that has a storage address. -/
inductive Entity (κ α : Type) where
  /-- The signer that holds a community's staked tokens. -/
  | communityStash (community : κ)
  | network (community : κ) (name : String)
  /-- The signer that pays a network's rewards. -/
  | networkReward (network : κ)
  | reporter (community account : κ)
  | reporterReward (network reporter : κ)
  | case (community : κ) (number : BitVec 64)
  /-- A flagged address, in its network's own text. -/
  | address (network : κ) (format : AddressFormat) (text : String)
  /-- A flagged asset: the address of its mint and its id. -/
  | asset (network : κ) (format : AddressFormat) (mint : String) (assetId : α)
  deriving DecidableEq, Repr

namespace Entity

/-- The domain tag, one for each kind of entity. -/
def tag {κ α : Type} : Entity κ α → String
  | .communityStash _ => "community_stash"
  | .network _ _ => "network"
  | .networkReward _ => "network_reward"
  | .reporter _ _ => "reporter"
  | .reporterReward _ _ => "reporter_reward"
  | .case _ _ => "case"
  | .address _ _ _ => "address"
  | .asset _ _ _ _ => "asset"

/-- The discriminators after the tag. -/
def parts : Entity PublicKey Bytes → List SeedPart
  | .communityStash parent => [.key parent]
  | .network parent name => [.key parent, .name name]
  | .networkReward parent => [.key parent]
  | .reporter parent account => [.key parent, .key account]
  | .reporterReward parent signer => [.key parent, .key signer]
  | .case parent number => [.key parent, .number number]
  | .address parent format text => [.key parent, .address format text]
  | .asset parent format mint id => [.key parent, .address format mint, .assetId id]

/-- The seed segments. -/
def seeds (entity : Entity PublicKey Bytes) : Except InputError Seeds :=
  (Seeds.ofTag entity.tag).append entity.parts

/-- The storage address under a program id. -/
def locate (program : PublicKey) (entity : Entity PublicKey Bytes) :
    Except InputError DerivedAddress :=
  match entity.seeds with
  | .ok seeds => ProgramAddress.find seeds program
  | .error error => .error error

end Entity

end ReporterRegistry
