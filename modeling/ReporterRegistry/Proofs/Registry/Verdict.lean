import ReporterRegistry.Proofs.Ledger.Transfers
import ReporterRegistry.Proofs.Outcomes
import ReporterRegistry.Proofs.Store.Records
import ReporterRegistry.Registry.Operation

/-!
# What an operation decides

An operation reads and checks first and writes last. `Operation.verdict` is the
decision by itself: a function of the world, which gives either the error or the
whole `Change` that is going to be made. Nothing is written while it is taken.

`Grant` lists what a verdict can be in favour of, one case for each operation,
with all that was checked; `grant_of_verdict` finds the case. Everything that is
proved about successful operations is read off `Grant`.
-/

namespace ReporterRegistry

/-! ### Changes -/

/-- All that a successful operation does. -/
structure Change where
  store : MemoryStore
  ledger : Ledger
  event : Event
  outcome : Outcome

/-- The world after a change. -/
def Change.commit (change : Change) (world : World MemoryStore Ledger) :
    World MemoryStore Ledger :=
  { world with
    store := change.store
    ledger := change.ledger
    outbox := world.outbox.emit change.event }

namespace World

variable (world : World MemoryStore Ledger)

/-- The configuration that operations go by. -/
def configuration : Except RegistryError Configuration :=
  match world.store.config with
  | some config => .ok config
  | none => .error .notInitialized

/-- The reporter that an operation is about. -/
def reporter (id : ReporterId) : Except RegistryError Reporter :=
  match world.store.reporters.get? id with
  | some found => .ok found
  | none => .error (.notFound id)

/-- The change to another configuration. -/
def reconfigure (config : Configuration) (event : Event) : Change :=
  ⟨world.store.withConfiguration config, world.ledger, event, .done⟩

end World

namespace Ledger

/-- The ledger after a stake was locked. -/
def lock (settings : Settings) (token payer : Account) (amount : Amount) (ledger : Ledger) :
    Except RegistryError Ledger :=
  if 0 < amount then
    if token.isZero then .error .stakeTokenNotSet
    else (ledger.transferFrom token settings.custody payer settings.custody amount).mapError
      .ofToken
  else .ok ledger

/-- The ledger after a stake was paid back. -/
def release (settings : Settings) (token payee : Account) (amount : Amount) (ledger : Ledger) :
    Except RegistryError Ledger :=
  if 0 < amount then (ledger.move token settings.custody payee amount).mapError .ofToken
  else .ok ledger

variable {settings : Settings} {token holder : Account} {amount : Amount} {ledger next : Ledger}

/-- A stake is locked if it is nothing, or if it can be pulled in a token that is set. -/
theorem lock_eq_ok_iff :
    ledger.lock settings token holder amount = .ok next ↔
      (¬ 0 < amount ∧ next = ledger) ∨
        (0 < amount ∧ token.isZero = false ∧
          ledger.transferFrom token settings.custody holder settings.custody amount
            = .ok next) := by
  unfold lock
  by_cases hamount : 0 < amount
  · simp only [hamount, if_true, not_true_eq_false, false_and, true_and, false_or]
    cases htoken : token.isZero with
    | true => simp
    | false =>
        simp [mapError_eq_ok_iff]
  · rw [if_neg hamount, Except.ok.injEq]
    constructor
    · rintro rfl
      exact Or.inl ⟨hamount, rfl⟩
    · rintro (⟨-, rfl⟩ | ⟨hpos, -⟩)
      · rfl
      · exact absurd hpos hamount

/-- A stake is paid back if it is nothing, or if custody can pay it. -/
theorem release_eq_ok_iff :
    ledger.release settings token holder amount = .ok next ↔
      (¬ 0 < amount ∧ next = ledger) ∨
        (0 < amount ∧ ledger.move token settings.custody holder amount = .ok next) := by
  unfold release
  by_cases hamount : 0 < amount
  · simp only [hamount, if_true, not_true_eq_false, false_and, true_and, false_or]
    exact mapError_eq_ok_iff
  · rw [if_neg hamount, Except.ok.injEq]
    constructor
    · rintro rfl
      exact Or.inl ⟨hamount, rfl⟩
    · rintro (⟨-, rfl⟩ | ⟨hpos, -⟩)
      · rfl
      · exact absurd hpos hamount

/-- A release fails because the ledger refuses a transfer. -/
theorem exists_ofToken_of_release {error : RegistryError}
    (h : ledger.release settings token holder amount = .error error) :
    ∃ cause, error = .ofToken cause := by
  unfold release at h
  split at h
  · cases hmove : ledger.move token settings.custody holder amount with
    | ok next =>
        rw [hmove] at h
        cases h
    | error cause =>
        rw [hmove] at h
        cases h
        exact ⟨cause, rfl⟩
  · cases h

end Ledger

/-! ### Verdicts -/

namespace Operation

/-- A reporter with new details and nothing staked. -/
def revised (previous : Reporter) (account : Account) (role : Role) (name url : String) :
    Reporter :=
  { previous with account := account, role := role, name := name, url := url }.withoutStake

/-- A reporter that gave up its work. -/
def released (previous : Reporter) (unlockTime : Seconds) : Reporter :=
  { previous with status := .unstaking, unlockTime := unlockTime }

/-- What an operation decides: an error, or a change. -/
def verdict (settings : Settings) (world : World MemoryStore Ledger) :
    Operation → Except RegistryError Change
  | .setAuthority caller authority => do
    let config ← world.configuration
    Registry.checkStanding .ownerOrAuthority (config.isOwnerOrAuthority caller)
    Registry.checkFormat settings authority
    Registry.checkNonZero .authority authority
    return world.reconfigure { config with authority := authority } (.authorityChanged authority)
  | .updateStakeTerms caller terms => do
    let config ← world.configuration
    Registry.checkStanding .ownerOrAuthority (config.isOwnerOrAuthority caller)
    Registry.checkFormat settings terms.token
    Registry.checkStakeTerms terms
    return world.reconfigure { config with stake := terms } (.stakeTermsChanged terms)
  | .updateRewardTerms caller terms => do
    let config ← world.configuration
    Registry.checkStanding .ownerOrAuthority (config.isOwnerOrAuthority caller)
    Registry.checkFormat settings terms.token
    return world.reconfigure { config with reward := terms } (.rewardTermsChanged terms)
  | .createReporter caller id account role name url => do
    let config ← world.configuration
    Registry.checkStanding .authority (config.isAuthority caller)
    Registry.checkFormat settings account
    if (world.store.reporters.get? id).isSome then throw (.duplicateId id)
    let created := Reporter.new id account role name url
    return ⟨world.store.withReporter created, world.ledger, .reporterCreated id account role,
      .reporter created⟩
  | .updateReporter caller id account role name url => do
    let config ← world.configuration
    Registry.checkStanding .authority (config.isAuthority caller)
    Registry.checkFormat settings account
    let previous ← world.reporter id
    let next := revised previous account role name url
    return ⟨world.store.withReporter next, world.ledger, .reporterUpdated id account role,
      .reporter next⟩
  | .activateReporter caller id => do
    let config ← world.configuration
    let previous ← world.reporter id
    Registry.checkStanding .reporterAccount (previous.account = caller)
    if previous.status ≠ .inactive then throw (.alreadyActive id)
    let amount := config.stake.required previous.role
    let ledger ← world.ledger.lock settings config.stake.token caller amount
    let next := Registry.activated previous config.stake amount
    return ⟨world.store.withReporter next, ledger, .reporterActivated id next.account amount,
      .reporter next⟩
  | .deactivateReporter caller id => do
    let config ← world.configuration
    let previous ← world.reporter id
    Registry.checkStanding .reporterAccount (previous.account = caller)
    if previous.status ≠ .active then throw (.invalidTransition id previous.status .deactivate)
    let unlockTime := config.stake.unlockAt world.now
    let next := released previous unlockTime
    return ⟨world.store.withReporter next, world.ledger, .reporterDeactivated id unlockTime,
      .reporter next⟩
  | .unstakeReporter caller id => do
    let _ ← world.configuration
    let previous ← world.reporter id
    Registry.checkStanding .reporterAccount (previous.account = caller)
    if previous.status ≠ .unstaking then
      throw (.invalidTransition id previous.status .unstake)
    if world.now < previous.unlockTime then throw (.unlockPending id previous.unlockTime)
    let amount := previous.stake
    if 0 < amount ∧ previous.stakeToken.isZero then throw .stakeTokenNotSet
    let ledger ← world.ledger.release settings previous.stakeToken caller amount
    return ⟨world.store.withReporter previous.withoutStake, ledger,
      .stakeWithdrawn id previous.account amount, .amount amount⟩

end Operation

/-! ### Grants -/

/-- What a verdict can be in favour of: an operation whose checks passed, and the
change it makes. -/
inductive Grant (settings : Settings) (world : World MemoryStore Ledger) :
    Operation → Change → Prop
  | setAuthority {caller authority : Account} {config : Configuration}
      (hconfig : world.store.config = some config)
      (hcaller : config.isOwnerOrAuthority caller = true)
      (hformat : authority.format = settings.format) (hzero : authority.isZero = false) :
      Grant settings world (.setAuthority caller authority)
        (world.reconfigure { config with authority := authority } (.authorityChanged authority))
  | updateStakeTerms {caller : Account} {terms : StakeTerms} {config : Configuration}
      (hconfig : world.store.config = some config)
      (hcaller : config.isOwnerOrAuthority caller = true)
      (hformat : terms.token.format = settings.format)
      (hduration : ¬ maxSeconds < terms.unlockDuration) :
      Grant settings world (.updateStakeTerms caller terms)
        (world.reconfigure { config with stake := terms } (.stakeTermsChanged terms))
  | updateRewardTerms {caller : Account} {terms : RewardTerms} {config : Configuration}
      (hconfig : world.store.config = some config)
      (hcaller : config.isOwnerOrAuthority caller = true)
      (hformat : terms.token.format = settings.format) :
      Grant settings world (.updateRewardTerms caller terms)
        (world.reconfigure { config with reward := terms } (.rewardTermsChanged terms))
  | createReporter {caller : Account} {id : ReporterId} {account : Account} {role : Role}
      {name url : String} {config : Configuration}
      (hconfig : world.store.config = some config) (hcaller : config.isAuthority caller = true)
      (hformat : account.format = settings.format)
      (hnew : world.store.reporters.get? id = none) :
      Grant settings world (.createReporter caller id account role name url)
        ⟨world.store.withReporter (.new id account role name url), world.ledger,
          .reporterCreated id account role, .reporter (.new id account role name url)⟩
  | updateReporter {caller : Account} {id : ReporterId} {account : Account} {role : Role}
      {name url : String} {config : Configuration} {previous : Reporter}
      (hconfig : world.store.config = some config) (hcaller : config.isAuthority caller = true)
      (hformat : account.format = settings.format)
      (hprevious : world.store.reporters.get? id = some previous) :
      Grant settings world (.updateReporter caller id account role name url)
        ⟨world.store.withReporter (Operation.revised previous account role name url), world.ledger,
          .reporterUpdated id account role,
          .reporter (Operation.revised previous account role name url)⟩
  | activateReporter {id : ReporterId} {config : Configuration} {previous : Reporter}
      {ledger : Ledger} (hconfig : world.store.config = some config)
      (hprevious : world.store.reporters.get? id = some previous)
      (hstatus : previous.status = .inactive)
      (hlock : world.ledger.lock settings config.stake.token previous.account
        (config.stake.required previous.role) = .ok ledger) :
      Grant settings world (.activateReporter previous.account id)
        ⟨world.store.withReporter
            (Registry.activated previous config.stake (config.stake.required previous.role)),
          ledger,
          .reporterActivated id previous.account (config.stake.required previous.role),
          .reporter
            (Registry.activated previous config.stake (config.stake.required previous.role))⟩
  | deactivateReporter {id : ReporterId} {config : Configuration} {previous : Reporter}
      (hconfig : world.store.config = some config)
      (hprevious : world.store.reporters.get? id = some previous)
      (hstatus : previous.status = .active) :
      Grant settings world (.deactivateReporter previous.account id)
        ⟨world.store.withReporter
            (Operation.released previous (config.stake.unlockAt world.now)),
          world.ledger, .reporterDeactivated id (config.stake.unlockAt world.now),
          .reporter (Operation.released previous (config.stake.unlockAt world.now))⟩
  | unstakeReporter {id : ReporterId} {config : Configuration} {previous : Reporter}
      {ledger : Ledger} (hconfig : world.store.config = some config)
      (hprevious : world.store.reporters.get? id = some previous)
      (hstatus : previous.status = .unstaking) (htime : ¬ world.now < previous.unlockTime)
      (htoken : ¬ (0 < previous.stake ∧ previous.stakeToken.isZero = true))
      (hrelease : world.ledger.release settings previous.stakeToken previous.account
        previous.stake = .ok ledger) :
      Grant settings world (.unstakeReporter previous.account id)
        ⟨world.store.withReporter previous.withoutStake, ledger,
          .stakeWithdrawn id previous.account previous.stake, .amount previous.stake⟩

/-- A caller passes by its standing alone. -/
theorem checkStanding_eq_ok_iff {required : Standing} {holds : Bool} {u : Unit} :
    Registry.checkStanding required holds = .ok u ↔ holds = true := by
  cases holds <;> simp [Registry.checkStanding]

theorem checkStanding_eq_error_iff {required : Standing} {holds : Bool} {error : RegistryError} :
    Registry.checkStanding required holds = .error error ↔
      holds = false ∧ error = .unauthorized required := by
  cases holds <;> simp [Registry.checkStanding, eq_comm]

/-- An account passes by its format alone; its octets are not looked at. -/
theorem checkFormat_eq_ok_iff {settings : Settings} {account : Account} {u : Unit} :
    Registry.checkFormat settings account = .ok u ↔ account.format = settings.format := by
  by_cases h : account.format = settings.format <;> simp [Registry.checkFormat, h]

theorem checkNonZero_eq_ok_iff {kind : ValueKind} {account : Account} {u : Unit} :
    Registry.checkNonZero kind account = .ok u ↔ account.isZero = false := by
  cases h : account.isZero <;> simp [Registry.checkNonZero, h]

/-- Of the terms of stakes only the duration can be refused. -/
theorem checkStakeTerms_eq_ok_iff {terms : StakeTerms} {u : Unit} :
    Registry.checkStakeTerms terms = .ok u ↔ ¬ maxSeconds < terms.unlockDuration := by
  rw [Registry.checkStakeTerms, mapError_eq_ok_iff]
  by_cases h : maxSeconds < terms.unlockDuration <;> simp [StakeTerms.validate, h]

/-- Operations go by the configuration that is stored. -/
theorem World.configuration_eq_ok_iff {world : World MemoryStore Ledger} {config : Configuration} :
    world.configuration = .ok config ↔ world.store.config = some config := by
  unfold World.configuration
  cases world.store.config <;> simp

theorem World.configuration_eq_error_iff {world : World MemoryStore Ledger}
    {error : RegistryError} :
    world.configuration = .error error ↔ world.store.config = none ∧ error = .notInitialized := by
  unfold World.configuration
  cases world.store.config <;> simp [eq_comm]

theorem World.reporter_eq_ok_iff {world : World MemoryStore Ledger} {id : ReporterId}
    {found : Reporter} :
    world.reporter id = .ok found ↔ world.store.reporters.get? id = some found := by
  unfold World.reporter
  cases world.store.reporters.get? id <;> simp

/-- A reporter that is missing is reported under the id that was asked for. -/
theorem World.reporter_eq_error_iff {world : World MemoryStore Ledger} {id : ReporterId}
    {error : RegistryError} :
    world.reporter id = .error error ↔
      world.store.reporters.get? id = none ∧ error = .notFound id := by
  unfold World.reporter
  cases world.store.reporters.get? id <;> simp [eq_comm]

/-- **A verdict in favour of a change is a grant.** -/
theorem grant_of_verdict {settings : Settings} {world : World MemoryStore Ledger}
    {operation : Operation} {change : Change}
    (h : operation.verdict settings world = .ok change) :
    Grant settings world operation change := by
  -- A verdict is a sequence of steps, so it is taken apart into the step that each case lists.
  cases operation with
  | setAuthority caller authority =>
      simp only [Operation.verdict, bind_eq_ok_iff, World.configuration_eq_ok_iff,
        checkStanding_eq_ok_iff, checkFormat_eq_ok_iff, checkNonZero_eq_ok_iff] at h
      obtain ⟨config, hconfig, -, hcaller, -, hformat, -, hzero, hchange⟩ := h
      cases hchange
      exact Grant.setAuthority hconfig hcaller hformat hzero
  | updateStakeTerms caller terms =>
      simp only [Operation.verdict, bind_eq_ok_iff, World.configuration_eq_ok_iff,
        checkStanding_eq_ok_iff, checkFormat_eq_ok_iff, checkStakeTerms_eq_ok_iff] at h
      obtain ⟨config, hconfig, -, hcaller, -, hformat, -, hduration, hchange⟩ := h
      cases hchange
      exact Grant.updateStakeTerms hconfig hcaller hformat hduration
  | updateRewardTerms caller terms =>
      simp only [Operation.verdict, bind_eq_ok_iff, World.configuration_eq_ok_iff,
        checkStanding_eq_ok_iff, checkFormat_eq_ok_iff] at h
      obtain ⟨config, hconfig, -, hcaller, -, hformat, hchange⟩ := h
      cases hchange
      exact Grant.updateRewardTerms hconfig hcaller hformat
  | createReporter caller id account role name url =>
      simp only [Operation.verdict, bind_eq_ok_iff, World.configuration_eq_ok_iff,
        checkStanding_eq_ok_iff, checkFormat_eq_ok_iff, throwIf_eq_ok_iff] at h
      obtain ⟨config, hconfig, -, hcaller, -, hformat, hnew, hchange⟩ := h
      cases hchange
      exact Grant.createReporter hconfig hcaller hformat (by simpa using hnew)
  | updateReporter caller id account role name url =>
      simp only [Operation.verdict, bind_eq_ok_iff, World.configuration_eq_ok_iff,
        checkStanding_eq_ok_iff, checkFormat_eq_ok_iff, World.reporter_eq_ok_iff] at h
      obtain ⟨config, hconfig, -, hcaller, -, hformat, previous, hprevious, hchange⟩ := h
      cases hchange
      exact Grant.updateReporter hconfig hcaller hformat hprevious
  | activateReporter caller id =>
      simp only [Operation.verdict, bind_eq_ok_iff, World.configuration_eq_ok_iff,
        checkStanding_eq_ok_iff, World.reporter_eq_ok_iff, throwIf_eq_ok_iff] at h
      obtain ⟨config, hconfig, previous, hprevious, -, hcaller, hstatus, ledger, hlock,
        hchange⟩ := h
      cases hchange
      -- Only the account of a reporter may act for it, so the caller is that account.
      obtain rfl : previous.account = caller := by simpa using hcaller
      exact Grant.activateReporter hconfig hprevious (by simpa using hstatus) hlock
  | deactivateReporter caller id =>
      simp only [Operation.verdict, bind_eq_ok_iff, World.configuration_eq_ok_iff,
        checkStanding_eq_ok_iff, World.reporter_eq_ok_iff, throwIf_eq_ok_iff] at h
      obtain ⟨config, hconfig, previous, hprevious, -, hcaller, hstatus, hchange⟩ := h
      cases hchange
      obtain rfl : previous.account = caller := by simpa using hcaller
      exact Grant.deactivateReporter hconfig hprevious (by simpa using hstatus)
  | unstakeReporter caller id =>
      simp only [Operation.verdict, bind_eq_ok_iff, World.configuration_eq_ok_iff,
        checkStanding_eq_ok_iff, World.reporter_eq_ok_iff, throwIf_eq_ok_iff] at h
      obtain ⟨config, hconfig, previous, hprevious, -, hcaller, hstatus, htime, htoken, ledger,
        hrelease, hchange⟩ := h
      cases hchange
      obtain rfl : previous.account = caller := by simpa using hcaller
      exact Grant.unstakeReporter hconfig hprevious (by simpa using hstatus) htime htoken hrelease

end ReporterRegistry
