import ReporterRegistry.Registry.Governance

/-!
# The course of a reporter

The authority creates reporters and changes their details; a reporter's own
account locks its stake, gives it up, and withdraws it once it is unlocked.

    create → inactive → activate → active → deactivate → unstaking
                 ↑                                           |
                 +---------- unstake (when unlocked) --------+

Changing a reporter's details takes it back to `inactive` with nothing staked,
whatever its state.

Checks come first. When a stake is locked, the tokens move before the record is
written, and are sent back if it cannot be. When a stake is withdrawn, the record
is written before the tokens move, and is put back if they cannot.
-/

namespace ReporterRegistry

namespace Registry

variable {σ τ : Type}

/-! ### Reading -/

/-- The reporter of an id. -/
def reporter [Store σ] (id : ReporterId) : Action σ τ Reporter := do
  match ← onStore (Store.reporter id) with
  | some found => pure found
  | none => throw (.notFound id)

/-- How many reporters were ever created. -/
def count [Store σ] : Action σ τ Nat := onStore Store.count

/-- Reporters in creation order. -/
def page [Store σ] (skip take : Nat) : Action σ τ (List Reporter) :=
  onStore (Store.page skip take)

/-- The earliest reporter that an account controls. -/
def findByAccount [Store σ] (account : Account) : Action σ τ (Option Reporter) :=
  onStore (Store.findByAccount account)

/-! ### The authority's operations -/

/-- Register a new, inactive reporter. -/
def createReporter [Store σ] (settings : Settings) (caller : Account) (id : ReporterId)
    (account : Account) (role : Role) (name url : String) : Action σ τ Reporter := do
  let config ← configuration
  require (checkStanding .authority (config.isAuthority caller))
  require (checkFormat settings account)
  let created := Reporter.new id account role name url
  let inserted ← onStore (Store.insertReporter created)
  if inserted then
    emit (.reporterCreated id account role)
    pure created
  else throw (.duplicateId id)

/-- Change a reporter's details and take it back to `inactive`. -/
def updateReporter [Store σ] (settings : Settings) (caller : Account) (id : ReporterId)
    (account : Account) (role : Role) (name url : String) : Action σ τ Reporter := do
  let config ← configuration
  require (checkStanding .authority (config.isAuthority caller))
  require (checkFormat settings account)
  let previous ← reporter id
  let updated :=
    { previous with account := account, role := role, name := name, url := url }.withoutStake
  onStore (Store.putReporter updated)
  emit (.reporterUpdated id account role)
  pure updated

/-! ### A reporter's own operations -/

/-- Pull a stake from a reporter's account into the registry's account. Nothing
moves if nothing is to be staked. -/
def lockStake [TokenLedger τ] (settings : Settings) (token payer : Account) (amount : Amount) :
    Action σ τ Unit := do
  if 0 < amount then
    if token.isZero then throw .stakeTokenNotSet
    onLedger (TokenLedger.transferFrom token settings.custody payer settings.custody amount)

/-- Send a stake back to the account it came from. A failure to do so is not
reported. -/
def returnStake [TokenLedger τ] (settings : Settings) (token payee : Account) (amount : Amount) :
    Action σ τ Unit := do
  if 0 < amount then
    let _ ← attempt (onLedger (TokenLedger.transfer token settings.custody payee amount))

/-- The reporter with a stake locked. The token is recorded only if there is a
stake. -/
def activated (previous : Reporter) (terms : StakeTerms) (amount : Amount) : Reporter :=
  { previous with
    status := .active
    stake := amount
    stakeToken := if 0 < amount then terms.token else previous.stakeToken
    unlockTime := 0 }

/-- Lock the stake that the reporter's role requires. -/
def activateReporter [Store σ] [TokenLedger τ] (settings : Settings) (caller : Account)
    (id : ReporterId) : Action σ τ Reporter := do
  let config ← configuration
  let previous ← reporter id
  require (checkStanding .reporterAccount (previous.account = caller))
  if previous.status ≠ .inactive then throw (.alreadyActive id)
  let amount := config.stake.required previous.role
  -- The tokens move before the record is written: a recorded stake has been paid.
  lockStake settings config.stake.token caller amount
  let next := activated previous config.stake amount
  match ← attempt (onStore (Store.putReporter next)) with
  | .ok () =>
    emit (.reporterActivated id next.account amount)
    pure next
  | .error error =>
    returnStake settings config.stake.token caller amount
    throw error

/-- Give up work. The stake may be withdrawn after the duration that is
configured now. -/
def deactivateReporter [Store σ] (caller : Account) (id : ReporterId) : Action σ τ Reporter := do
  let config ← configuration
  let previous ← reporter id
  require (checkStanding .reporterAccount (previous.account = caller))
  if previous.status ≠ .active then
    throw (.invalidTransition id previous.status .deactivate)
  let unlockTime := config.stake.unlockAt (← now)
  let next := { previous with status := .unstaking, unlockTime := unlockTime }
  onStore (Store.putReporter next)
  emit (.reporterDeactivated id unlockTime)
  pure next

/-- Pay a stake out of the registry's account. Nothing moves if nothing is
staked. -/
def payStake [TokenLedger τ] (settings : Settings) (token payee : Account) (amount : Amount) :
    Action σ τ Unit := do
  if 0 < amount then
    onLedger (TokenLedger.transfer token settings.custody payee amount)

/-- Withdraw the whole stake, in the token it was locked in. -/
def unstakeReporter [Store σ] [TokenLedger τ] (settings : Settings) (caller : Account)
    (id : ReporterId) : Action σ τ Amount := do
  let _ ← configuration
  let previous ← reporter id
  require (checkStanding .reporterAccount (previous.account = caller))
  if previous.status ≠ .unstaking then
    throw (.invalidTransition id previous.status .unstake)
  if (← now) < previous.unlockTime then
    throw (.unlockPending id previous.unlockTime)
  let amount := previous.stake
  if 0 < amount ∧ previous.stakeToken.isZero then throw .stakeTokenNotSet
  -- The record is written before the tokens move: a stake cannot be withdrawn twice.
  onStore (Store.putReporter previous.withoutStake)
  match ← attempt (payStake settings previous.stakeToken caller amount) with
  | .ok () =>
    emit (.stakeWithdrawn id previous.account amount)
    pure amount
  | .error error =>
    let _ ← attempt (onStore (Store.putReporter previous))
    throw error

end Registry

end ReporterRegistry
