import ReporterRegistry.Ledger
import ReporterRegistry.Store.Basic

/-!
# Registry errors

Why a registry refuses an operation. An error means that the operation announced
nothing.
-/

namespace ReporterRegistry

/-- Whose place a caller would have to take. -/
inductive Standing where
  | ownerOrAuthority
  | authority
  | reporterAccount
  deriving DecidableEq, Repr

/-- The rejection in words. -/
def Standing.rejection : Standing → String
  | .ownerOrAuthority => "Caller is not the owner or authority"
  | .authority => "Caller is not the authority"
  | .reporterAccount => "Caller is not the reporter account"

/-- A step that only some states of a reporter allow. -/
inductive StakeStep where
  | deactivate
  | unstake
  deriving DecidableEq, Repr

/-- The step in words. -/
def StakeStep.name : StakeStep → String
  | .deactivate => "deactivate"
  | .unstake => "unstake"

/-- Why a registry refuses an operation. -/
inductive RegistryError where
  | unauthorized (required : Standing)
  | notInitialized
  | alreadyInitialized
  | notFound (id : ReporterId)
  | duplicateId (id : ReporterId)
  | alreadyActive (id : ReporterId)
  | invalidTransition (id : ReporterId) (status : Status) (step : StakeStep)
  | unlockPending (id : ReporterId) (unlockTime : Seconds)
  | insufficientAllowance (required available : Amount)
  | transferFailed (error : TokenError)
  | stakeTokenNotSet
  | formatMismatch (expected found : AddressFormat)
  | input (error : InputError)
  | store (error : StoreError)
  deriving DecidableEq, Repr

namespace RegistryError

/-- What a registry makes of a ledger's refusal. A missing allowance is an error
of its own. -/
def ofToken : TokenError → RegistryError
  | .insufficientAllowance required available => .insufficientAllowance required available
  | error => .transferFailed error

/-- The error in words, as far as its cause has words. -/
def message? : RegistryError → Option String
  | .unauthorized required => some s!"unauthorized: {required.rejection}"
  | .notInitialized => some "registry is not initialized"
  | .alreadyInitialized => some "registry is already initialized"
  | .notFound id => some s!"reporter not found: {id.display}"
  | .duplicateId id => some s!"reporter id already exists: {id.display}"
  | .alreadyActive id => some s!"reporter {id.display} is not inactive"
  | .invalidTransition id status step =>
    some s!"reporter {id.display} cannot {step.name} while {status.name}"
  | .unlockPending id unlockTime =>
    some s!"reporter {id.display} stake is locked until {unlockTime.toNat}"
  | .insufficientAllowance required available =>
    some (TokenError.insufficientAllowance required available).message
  | .transferFailed error => some s!"token transfer failed: {error.message}"
  | .stakeTokenNotSet => some "stake token is not configured"
  | .formatMismatch expected found =>
    some s!"expected a {expected.name} account, got {found.name}"
  | .input error => some s!"core error: {error.message}"
  | .store error => error.message?.map fun text => s!"storage error: {text}"

end RegistryError

end ReporterRegistry
