import ReporterRegistry.Registry.World

/-!
# Governance

Starting a registry, and changing its authority, its stake terms and its reward
terms. Every change may be made by the owner and by the authority; the owner is
fixed from the start.
-/

namespace ReporterRegistry

namespace Registry

variable {σ τ : Type}

/-! ### Starting -/

/-- Stakes are held by the registry's account, so it must be a usable one. -/
def checkSettings (settings : Settings) : Except RegistryError Unit := do
  checkFormat settings settings.custody
  checkNonZero .registryAccount settings.custody

/-- Run an operation of a store that no registry works on yet. -/
def onBareStore {α : Type} (operation : EStateM StoreError σ α) : EStateM RegistryError σ α :=
  fun store =>
    match operation store with
    | .ok a next => .ok a next
    | .error error next => .error (.store error) next

/-- Write the first configuration of a store, with an owner who is the authority
too. -/
def establish [Store σ] (settings : Settings) (owner : Account) :
    EStateM RegistryError σ Unit := do
  require (checkSettings settings)
  require (checkFormat settings owner)
  require (checkNonZero .owner owner)
  let inserted ← onBareStore (Store.insertConfiguration (.new owner))
  if inserted then pure () else throw .alreadyInitialized

/-- Work on a store whose first configuration was written earlier. -/
def attach [Store σ] (settings : Settings) : EStateM RegistryError σ Unit := do
  require (checkSettings settings)
  match ← onBareStore Store.configuration with
  | some config => require (checkFormat settings config.owner)
  | none => throw .notInitialized

/-! ### Reading and changing -/

/-- The configuration. -/
def configuration [Store σ] : Action σ τ Configuration := do
  match ← onStore Store.configuration with
  | some config => pure config
  | none => throw .notInitialized

/-- Replace the authority. -/
def setAuthority [Store σ] (settings : Settings) (caller authority : Account) :
    Action σ τ Unit := do
  let config ← configuration
  require (checkStanding .ownerOrAuthority (config.isOwnerOrAuthority caller))
  require (checkFormat settings authority)
  require (checkNonZero .authority authority)
  onStore (Store.putConfiguration { config with authority := authority })
  emit (.authorityChanged authority)

/-- Accept stake terms that a store can hold. -/
def checkStakeTerms (terms : StakeTerms) : Except RegistryError Unit :=
  terms.validate.mapError .input

/-- Replace the stake terms as a whole. -/
def updateStakeTerms [Store σ] (settings : Settings) (caller : Account) (terms : StakeTerms) :
    Action σ τ Unit := do
  let config ← configuration
  require (checkStanding .ownerOrAuthority (config.isOwnerOrAuthority caller))
  require (checkFormat settings terms.token)
  require (checkStakeTerms terms)
  onStore (Store.putConfiguration { config with stake := terms })
  emit (.stakeTermsChanged terms)

/-- Replace the reward terms as a whole. -/
def updateRewardTerms [Store σ] (settings : Settings) (caller : Account) (terms : RewardTerms) :
    Action σ τ Unit := do
  let config ← configuration
  require (checkStanding .ownerOrAuthority (config.isOwnerOrAuthority caller))
  require (checkFormat settings terms.token)
  onStore (Store.putConfiguration { config with reward := terms })
  emit (.rewardTermsChanged terms)

end Registry

end ReporterRegistry
