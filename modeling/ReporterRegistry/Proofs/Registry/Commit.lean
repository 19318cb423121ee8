import ReporterRegistry.Proofs.Registry.Verdict

/-!
# Operations carry out their verdicts

Running an operation on a store that holds some records either changes nothing
and fails, or makes the change of the verdict that is taken on those records.
There is no third way: what is done before a late failure is undone.

The proof follows the code. `Follows.check` passes a step that reads or checks
and changes nothing, `Follows.throwIf` passes a refusal that does not apply, and
what is left at the end is the part that writes. `Carries` allows besides that a
reporter cannot be read.
-/

namespace ReporterRegistry

/-- The world with another store, perhaps of another kind. -/
def World.withStore {σ σ' τ : Type} (world : World σ τ) (store : σ') : World σ' τ :=
  ⟨store, world.ledger, world.now, world.outbox⟩

namespace Registry

open RecordStore

variable {σ α : Type} [Store σ] [RecordStore σ] {settings : Settings}
  {world : World MemoryStore Ledger} {store : σ}

/-- The result of a step that leaves everything as it was. -/
def settle {ω ε : Type} (state : ω) : Except ε α → EStateM.Result ε ω α
  | .ok a => .ok a state
  | .error error => .error error state

/-- The store refused to read the reporter, and nothing else happened. -/
def Refuses (action : Action σ Ledger α) (world : World MemoryStore Ledger) (store : σ) : Prop :=
  ∃ id error, Store.reporter id store = .error error store ∧
    action (world.withStore store) = .error (.store error) (world.withStore store)

/-- The action does what the verdict says, on a store that holds the records of
the world: it fails and changes nothing, or makes the change. -/
def Follows (answer : α → Outcome) (action : Action σ Ledger α)
    (verdict : Except RegistryError Change) (world : World MemoryStore Ledger) (store : σ) : Prop :=
  match verdict with
  | .error error => action (world.withStore store) = .error error (world.withStore store)
  | .ok change => ∃ a next,
      action (world.withStore store) = .ok a ((change.commit world).withStore next) ∧
        answer a = change.outcome ∧
        ((∀ config, change.store.config = some config → Fits σ config) → Holds change.store next)

/-- The action follows the verdict, unless the store refuses to read. -/
def Carries (answer : α → Outcome) (action : Action σ Ledger α)
    (verdict : Except RegistryError Change) (world : World MemoryStore Ledger) (store : σ) : Prop :=
  Refuses action world store ∨ Follows answer action verdict world store

namespace Follows

variable {answer : α → Outcome} {verdict : Except RegistryError Change}

/-- A step that changes nothing is passed on both sides. -/
theorem check {γ : Type} {step : Action σ Ledger γ} {decision : Except RegistryError γ}
    {rest : γ → Action σ Ledger α} {restVerdict : γ → Except RegistryError Change}
    (hstep : step (world.withStore store) = settle (world.withStore store) decision)
    (hrest : ∀ a, decision = .ok a → Follows answer (rest a) (restVerdict a) world store) :
    Follows answer (step >>= rest) (decision >>= restVerdict) world store := by
  cases decision with
  | error error =>
      simp only [Follows, bind, EStateM.bind, Except.bind, hstep, settle]
  | ok a =>
      have hfollows := hrest a rfl
      have hbind : (step >>= rest) (world.withStore store) = rest a (world.withStore store) := by
        simp only [bind, EStateM.bind, hstep, settle]
      have hverdict : (Except.ok a >>= restVerdict) = restVerdict a := rfl
      rw [hverdict]
      unfold Follows at hfollows ⊢
      rw [hbind]
      exact hfollows

/-- A refusal either applies on both sides or on none. -/
theorem throwIf {c : Prop} [Decidable c] {error : RegistryError}
    {skipped : Unit → Action σ Ledger α} {skippedVerdict : Unit → Except RegistryError Change}
    {rest : Action σ Ledger α}
    (hrest : ¬ c → Follows answer rest verdict world store) :
    Follows answer (if c then throw error >>= skipped else rest)
      (if c then throw error >>= skippedVerdict else verdict) world store := by
  by_cases hc : c
  · rw [if_pos hc, if_pos hc]
    rfl
  · rw [if_neg hc, if_neg hc]
    exact hrest hc

/-- The answer of an action may be given at its end. -/
theorem map {action : Action σ Ledger α} (h : Follows answer action verdict world store) :
    Follows (fun outcome => outcome) (answer <$> action) verdict world store := by
  cases verdict with
  | error error =>
      simp only [Follows] at h ⊢
      simp only [Functor.map, EStateM.map, h]
  | ok change =>
      obtain ⟨a, next, hrun, hanswer, hholds⟩ := h
      refine ⟨answer a, next, ?_, hanswer, hholds⟩
      simp only [Functor.map, EStateM.map, hrun]

end Follows

namespace Carries

variable {answer : α → Outcome} {verdict : Except RegistryError Change}

/-- A step that changes nothing is passed on both sides. -/
theorem check {γ : Type} {step : Action σ Ledger γ} {decision : Except RegistryError γ}
    {rest : γ → Action σ Ledger α} {restVerdict : γ → Except RegistryError Change}
    (hstep : step (world.withStore store) = settle (world.withStore store) decision)
    (hrest : ∀ a, decision = .ok a → Carries answer (rest a) (restVerdict a) world store) :
    Carries answer (step >>= rest) (decision >>= restVerdict) world store := by
  cases decision with
  | error error => exact Or.inr (Follows.check hstep nofun)
  | ok a =>
      rcases hrest a rfl with ⟨id, error, hread, hrun⟩ | hfollows
      · refine Or.inl ⟨id, error, hread, ?_⟩
        simp only [bind, EStateM.bind, hstep, settle]
        exact hrun
      · refine Or.inr (Follows.check hstep ?_)
        rintro _ ⟨⟩
        exact hfollows

/-- The answer of an action may be given at its end. -/
theorem map {action : Action σ Ledger α} (h : Carries answer action verdict world store) :
    Carries (fun outcome => outcome) (answer <$> action) verdict world store := by
  rcases h with ⟨id, error, hread, hrun⟩ | hfollows
  · refine Or.inl ⟨id, error, hread, ?_⟩
    simp only [Functor.map, EStateM.map, hrun]
  · exact Or.inr hfollows.map

end Carries

/-! ### Steps that change nothing -/

theorem require_settles {ω ε : Type} (check : Except ε Unit) (state : ω) :
    require check state = settle state check := by
  cases check <;> rfl

theorem configuration_settles (h : Holds world.store store) :
    configuration (world.withStore store) = settle (world.withStore store) world.configuration := by
  have hread := RecordStore.configuration h
  unfold World.configuration
  simp only [configuration, bind, EStateM.bind, onStore, World.withStore, hread]
  cases world.store.config <;> rfl

omit [RecordStore σ] in
theorem reporter_of_read {id : ReporterId}
    (hread : Store.reporter id store = .ok (world.store.reporters.get? id) store) :
    reporter id (world.withStore store)
      = settle (world.withStore store) (world.reporter id) := by
  unfold World.reporter
  simp only [reporter, bind, EStateM.bind, onStore, World.withStore, hread]
  cases world.store.reporters.get? id <;> rfl

/-- Reading a reporter gives what the records say, or is refused. -/
theorem reporter_settles (h : Holds world.store store) (id : ReporterId) :
    reporter id (world.withStore store) = settle (world.withStore store) (world.reporter id) ∨
      ∃ error, Store.reporter id store = .error error store ∧
        reporter id (world.withStore store) = .error (.store error) (world.withStore store) := by
  rcases RecordStore.reporter h id with hread | ⟨error, hread⟩
  · exact Or.inl (reporter_of_read hread)
  · refine Or.inr ⟨error, hread, ?_⟩
    simp only [reporter, bind, EStateM.bind, onStore, World.withStore, hread]

/-- A reporter is read, or the store refuses. -/
theorem Carries.read {answer : α → Outcome} (h : Holds world.store store) (id : ReporterId)
    {rest : Reporter → Action σ Ledger α} {restVerdict : Reporter → Except RegistryError Change}
    (hrest : ∀ found, world.store.reporters.get? id = some found →
      Carries answer (rest found) (restVerdict found) world store) :
    Carries answer (reporter id >>= rest) (world.reporter id >>= restVerdict) world store := by
  rcases reporter_settles h id with hstep | ⟨error, hread, hstep⟩
  · exact Carries.check hstep fun found hfound => hrest found (World.reporter_eq_ok_iff.mp hfound)
  · refine Or.inl ⟨id, error, hread, ?_⟩
    simp only [bind, EStateM.bind, hstep]

/-! ### Steps that write -/

/-- Writing another configuration and announcing it makes the change. -/
theorem carries_reconfigure (h : Holds world.store store) (config : Configuration) (event : Event) :
    Carries (fun _ => Outcome.done)
      (do onStore (Store.putConfiguration config); emit event : Action σ Ledger Unit)
      (.ok (world.reconfigure config event)) world store := by
  obtain ⟨next, hput, hholds⟩ := RecordStore.putConfiguration h config
  refine Or.inr ⟨(), next, ?_, rfl, fun hfits => hholds (hfits config rfl)⟩
  simp only [bind, EStateM.bind, onStore, World.withStore, hput, emit]
  rfl

/-- Writing a reporter that exists and announcing it makes the change. -/
theorem follows_putReporter (h : Holds world.store store) {next found : Reporter}
    (htime : ¬ maxSeconds < next.unlockTime)
    (hfound : world.store.reporters.get? next.id = some found) (event : Event) :
    Follows Outcome.reporter
      (do onStore (Store.putReporter next); emit event; pure next : Action σ Ledger Reporter)
      (.ok ⟨world.store.withReporter next, world.ledger, event, .reporter next⟩) world store := by
  obtain ⟨store', hput, hholds⟩ := RecordStore.putReporter h htime hfound
  refine ⟨next, store', ?_, rfl, fun _ => hholds⟩
  simp only [bind, EStateM.bind, onStore, World.withStore, hput, emit]
  rfl

/-- Writing a reporter under an id that is free makes the change, and one that is
taken refuses it. -/
theorem carries_insertReporter (h : Holds world.store store) {created : Reporter}
    (htime : ¬ maxSeconds < created.unlockTime) (event : Event) :
    Carries Outcome.reporter
      (do
        let inserted ← onStore (Store.insertReporter created)
        if inserted then
          emit event
          pure created
        else throw (.duplicateId created.id) : Action σ Ledger Reporter)
      (do
        if (world.store.reporters.get? created.id).isSome then throw (.duplicateId created.id)
        return ⟨world.store.withReporter created, world.ledger, event, .reporter created⟩)
      world store := by
  refine Or.inr ?_
  cases hfound : world.store.reporters.get? created.id with
  | none =>
      obtain ⟨next, hinsert, hholds⟩ := RecordStore.insertReporter h htime hfound
      refine ⟨created, next, ?_, rfl, fun _ => hholds⟩
      simp only [bind, EStateM.bind, onStore, World.withStore, hinsert]
      rfl
  | some found =>
      have hinsert := RecordStore.insertReporter_of_taken h htime hfound
      show _ = _
      simp only [bind, EStateM.bind, onStore, World.withStore, hinsert]
      rfl

/-! ### Steps that move tokens -/

omit [Store σ] [RecordStore σ] in
theorem lockStake_run (settings : Settings) (token payer : Account) (amount : Amount)
    (w : World σ Ledger) :
    lockStake settings token payer amount w =
      match w.ledger.lock settings token payer amount with
      | .ok ledger => .ok () { w with ledger := ledger }
      | .error error => .error error w := by
  unfold lockStake Ledger.lock
  by_cases hamount : 0 < amount
  · by_cases hzero : token.isZero = true
    · simp only [if_pos hamount, if_pos hzero]
      rfl
    · simp only [if_pos hamount, if_neg hzero, onLedger, TokenLedger.transferFrom, Ledger.commit]
      cases w.ledger.transferFrom token settings.custody payer settings.custody amount <;> rfl
  · simp only [if_neg hamount]
    rfl

omit [Store σ] [RecordStore σ] in
theorem payStake_run (settings : Settings) (token payee : Account) (amount : Amount)
    (w : World σ Ledger) :
    payStake settings token payee amount w =
      match w.ledger.release settings token payee amount with
      | .ok ledger => .ok () { w with ledger := ledger }
      | .error error => .error error w := by
  unfold payStake Ledger.release
  by_cases hamount : 0 < amount
  · simp only [if_pos hamount, onLedger, TokenLedger.transfer, Ledger.commit]
    cases w.ledger.move token settings.custody payee amount <;> rfl
  · simp only [if_neg hamount]
    rfl

/-- Locking a stake and writing the reporter makes the change, or the stake cannot
be locked. The store does not fail to write a reporter that exists, so nothing is
ever sent back. -/
theorem follows_lockStake (h : Holds world.store store) {next found : Reporter}
    (htime : ¬ maxSeconds < next.unlockTime)
    (hfound : world.store.reporters.get? next.id = some found) (token payer : Account)
    (amount : Amount) (event : Event) :
    Follows Outcome.reporter
      (do
        lockStake settings token payer amount
        match ← attempt (onStore (Store.putReporter next)) with
        | .ok () =>
          emit event
          pure next
        | .error error =>
          returnStake settings token payer amount
          throw error : Action σ Ledger Reporter)
      (do
        let ledger ← world.ledger.lock settings token payer amount
        return ⟨world.store.withReporter next, ledger, event, .reporter next⟩) world store := by
  obtain ⟨store', hput, hholds⟩ := RecordStore.putReporter h htime hfound
  have hlock := lockStake_run settings token payer amount (world.withStore store)
  have hledger : (world.withStore store).ledger = world.ledger := rfl
  rw [hledger] at hlock
  cases hdone : world.ledger.lock settings token payer amount with
  | error error =>
      rw [hdone] at hlock
      show _ = _
      simp only [bind, EStateM.bind, hlock]
  | ok ledger =>
      rw [hdone] at hlock
      refine ⟨next, store', ?_, rfl, fun _ => hholds⟩
      simp only [World.withStore] at hlock
      simp only [bind, EStateM.bind, hlock, attempt, onStore, World.withStore, hput]
      rfl

/-- Writing the reporter without a stake and paying the stake makes the change.
If the stake cannot be paid, the reporter that is put back is the one that stood
there, and the store is the one it was. -/
theorem follows_payStake (h : Holds world.store store) {previous next : Reporter}
    (htime : ¬ maxSeconds < next.unlockTime) (hid : next.id = previous.id)
    (hprevious : world.store.reporters.get? previous.id = some previous) (payee : Account)
    (event : Event) :
    Follows Outcome.amount
      (do
        onStore (Store.putReporter next)
        match ← attempt (payStake settings previous.stakeToken payee previous.stake) with
        | .ok () =>
          emit event
          pure previous.stake
        | .error error =>
          let _ ← attempt (onStore (Store.putReporter previous))
          throw error : Action σ Ledger Amount)
      (do
        let ledger ← world.ledger.release settings previous.stakeToken payee previous.stake
        return ⟨world.store.withReporter next, ledger, event, .amount previous.stake⟩)
      world store := by
  obtain ⟨store', hput, hholds⟩ := RecordStore.putReporter h htime (hid ▸ hprevious)
  have hrestored := MemoryStore.withReporter_withReporter_of_get? hprevious hid
  have hthere : (world.store.withReporter next).reporters.get? previous.id = some next := by
    rw [MemoryStore.reporters_withReporter, hid, OrderedMap.get?_insert_self]
  obtain ⟨store'', hback, hholds'⟩ :=
    RecordStore.putReporter hholds ((RecordStore.sound h).timely hprevious) hthere
  rw [hrestored] at hholds'
  have hsame : store'' = store := RecordStore.unique h hholds'
  subst hsame
  have hpay := payStake_run settings previous.stakeToken payee previous.stake
    (world.withStore store')
  have hledger : (world.withStore store').ledger = world.ledger := rfl
  rw [hledger] at hpay
  cases hdone : world.ledger.release settings previous.stakeToken payee previous.stake with
  | error error =>
      rw [hdone] at hpay
      show _ = _
      simp only [World.withStore] at hpay
      simp only [bind, EStateM.bind, hpay, attempt, onStore, World.withStore, hput, hback]
      rfl
  | ok ledger =>
      rw [hdone] at hpay
      refine ⟨previous.stake, store', ?_, rfl, fun _ => hholds⟩
      simp only [World.withStore] at hpay
      simp only [bind, EStateM.bind, hpay, attempt, onStore, World.withStore, hput]
      rfl

/-! ### Operations -/

theorem carries_setAuthority (h : Holds world.store store) (caller authority : Account) :
    Carries (fun _ => Outcome.done) (setAuthority settings caller authority)
      ((Operation.setAuthority caller authority).verdict settings world) world store := by
  refine Carries.check (configuration_settles h) ?_
  intro config _
  refine Carries.check (require_settles _ _) fun _ _ => ?_
  refine Carries.check (require_settles _ _) fun _ _ => ?_
  refine Carries.check (require_settles _ _) fun _ _ => ?_
  exact carries_reconfigure h _ _

theorem carries_updateStakeTerms (h : Holds world.store store) (caller : Account)
    (terms : StakeTerms) :
    Carries (fun _ => Outcome.done) (updateStakeTerms settings caller terms)
      ((Operation.updateStakeTerms caller terms).verdict settings world) world store := by
  refine Carries.check (configuration_settles h) ?_
  intro config _
  refine Carries.check (require_settles _ _) fun _ _ => ?_
  refine Carries.check (require_settles _ _) fun _ _ => ?_
  refine Carries.check (require_settles _ _) fun _ _ => ?_
  exact carries_reconfigure h _ _

theorem carries_updateRewardTerms (h : Holds world.store store) (caller : Account)
    (terms : RewardTerms) :
    Carries (fun _ => Outcome.done) (updateRewardTerms settings caller terms)
      ((Operation.updateRewardTerms caller terms).verdict settings world) world store := by
  refine Carries.check (configuration_settles h) ?_
  intro config _
  refine Carries.check (require_settles _ _) fun _ _ => ?_
  refine Carries.check (require_settles _ _) fun _ _ => ?_
  exact carries_reconfigure h _ _

theorem carries_createReporter (h : Holds world.store store) (caller : Account) (id : ReporterId)
    (account : Account) (role : Role) (name url : String) :
    Carries Outcome.reporter (createReporter settings caller id account role name url)
      ((Operation.createReporter caller id account role name url).verdict settings world)
      world store := by
  refine Carries.check (configuration_settles h) ?_
  intro config _
  refine Carries.check (require_settles _ _) fun _ _ => ?_
  refine Carries.check (require_settles _ _) fun _ _ => ?_
  have htime : ¬ maxSeconds < (Reporter.new id account role name url).unlockTime :=
    not_maxSeconds_lt_zero
  exact carries_insertReporter h htime _

theorem carries_updateReporter (h : Holds world.store store) (caller : Account) (id : ReporterId)
    (account : Account) (role : Role) (name url : String) :
    Carries Outcome.reporter (updateReporter settings caller id account role name url)
      ((Operation.updateReporter caller id account role name url).verdict settings world)
      world store := by
  refine Carries.check (configuration_settles h) ?_
  intro config _
  refine Carries.check (require_settles _ _) fun _ _ => ?_
  refine Carries.check (require_settles _ _) fun _ _ => ?_
  refine Carries.read h id ?_
  intro previous hprevious
  have hid : previous.id = id := (RecordStore.sound h).keyed hprevious
  subst hid
  have htime : ¬ maxSeconds < (Operation.revised previous account role name url).unlockTime :=
    not_maxSeconds_lt_zero
  exact Or.inr (follows_putReporter h htime hprevious _)

/-! ### Operations of a reporter's own account

They read the configuration and then one reporter. If that can be read, they follow their
verdicts. -/

/-- The reporter is read as the records have it. -/
def Reads (id : ReporterId) (world : World MemoryStore Ledger) (store : σ) : Prop :=
  reporter id (world.withStore store) = settle (world.withStore store) (world.reporter id)

/-- What follows its verdict if the reporter is read carries it out in any case. -/
theorem carries_of_reads (h : Holds world.store store) {answer : α → Outcome} (id : ReporterId)
    {rest : Configuration → Reporter → Action σ Ledger α}
    {restVerdict : Configuration → Reporter → Except RegistryError Change}
    (hfollows : Reads id world store →
      Follows answer (configuration >>= fun config => reporter id >>= rest config)
        (world.configuration >>= fun config => world.reporter id >>= restVerdict config)
        world store) :
    Carries answer (configuration >>= fun config => reporter id >>= rest config)
      (world.configuration >>= fun config => world.reporter id >>= restVerdict config)
      world store := by
  rcases reporter_settles h id with hreads | ⟨error, hread, hstep⟩
  · exact Or.inr (hfollows hreads)
  · refine Carries.check (configuration_settles h) fun config _ => Or.inl ⟨id, error, hread, ?_⟩
    simp only [bind, EStateM.bind, hstep]

theorem follows_activateReporter (h : Holds world.store store) (caller : Account)
    {id : ReporterId} (hreads : Reads id world store) :
    Follows Outcome.reporter (activateReporter settings caller id)
      ((Operation.activateReporter caller id).verdict settings world) world store := by
  refine Follows.check (configuration_settles h) ?_
  intro config _
  refine Follows.check hreads ?_
  intro previous hread
  have hprevious := World.reporter_eq_ok_iff.mp hread
  have hid : previous.id = id := (RecordStore.sound h).keyed hprevious
  subst hid
  refine Follows.check (require_settles _ _) fun _ _ => ?_
  refine Follows.throwIf fun _ => ?_
  have htime : ¬ maxSeconds <
      (activated previous config.stake (config.stake.required previous.role)).unlockTime :=
    not_maxSeconds_lt_zero
  exact follows_lockStake h htime hprevious _ _ _ _

theorem follows_deactivateReporter (settings : Settings) (h : Holds world.store store)
    (caller : Account) {id : ReporterId} (hreads : Reads id world store) :
    Follows Outcome.reporter (deactivateReporter caller id)
      ((Operation.deactivateReporter caller id).verdict settings world) world store := by
  refine Follows.check (configuration_settles h) ?_
  intro config _
  refine Follows.check hreads ?_
  intro previous hread
  have hprevious := World.reporter_eq_ok_iff.mp hread
  have hid : previous.id = id := (RecordStore.sound h).keyed hprevious
  subst hid
  refine Follows.check (require_settles _ _) fun _ _ => ?_
  refine Follows.throwIf fun _ => ?_
  have htime : ¬ maxSeconds <
      (Operation.released previous (config.stake.unlockAt world.now)).unlockTime :=
    not_maxSeconds_lt_unlockAt config.stake world.now
  exact follows_putReporter h htime hprevious _

theorem follows_unstakeReporter (h : Holds world.store store) (caller : Account)
    {id : ReporterId} (hreads : Reads id world store) :
    Follows Outcome.amount (unstakeReporter settings caller id)
      ((Operation.unstakeReporter caller id).verdict settings world) world store := by
  refine Follows.check (configuration_settles h) fun _ _ => ?_
  refine Follows.check hreads ?_
  intro previous hread
  have hprevious := World.reporter_eq_ok_iff.mp hread
  have hid : previous.id = id := (RecordStore.sound h).keyed hprevious
  subst hid
  refine Follows.check (require_settles _ _) fun _ _ => ?_
  refine Follows.throwIf fun _ => ?_
  refine Follows.throwIf fun _ => ?_
  refine Follows.throwIf fun _ => ?_
  have htime : ¬ maxSeconds < previous.withoutStake.unlockTime := not_maxSeconds_lt_zero
  have hid : previous.withoutStake.id = previous.id := rfl
  exact follows_payStake h htime hid hprevious _ _

end Registry

open Registry RecordStore

/-- **An operation carries out its verdict.** On a store that holds the records of
the world it does what was decided, unless the store refuses to read a reporter,
and then it does nothing. -/
theorem carries_run {σ : Type} [Store σ] [RecordStore σ] (settings : Settings)
    {world : World MemoryStore Ledger} {store : σ} (h : Holds world.store store)
    (operation : Operation) :
    Carries (fun outcome => outcome) (operation.run settings)
      (operation.verdict settings world) world store := by
  cases operation with
  | setAuthority caller authority =>
      exact (carries_setAuthority h caller authority).map
  | updateStakeTerms caller terms =>
      exact (carries_updateStakeTerms h caller terms).map
  | updateRewardTerms caller terms =>
      exact (carries_updateRewardTerms h caller terms).map
  | createReporter caller id account role name url =>
      exact (carries_createReporter h caller id account role name url).map
  | updateReporter caller id account role name url =>
      exact (carries_updateReporter h caller id account role name url).map
  | activateReporter caller id =>
      exact (carries_of_reads h id (follows_activateReporter h caller)).map
  | deactivateReporter caller id =>
      exact (carries_of_reads h id (follows_deactivateReporter settings h caller)).map
  | unstakeReporter caller id =>
      exact (carries_of_reads h id (follows_unstakeReporter h caller)).map

/-- **An operation on records in memory** gives its verdict. -/
theorem run_eq_verdict (settings : Settings) {world : World MemoryStore Ledger}
    (hsound : world.store.Sound) (operation : Operation) :
    operation.run settings world =
      match operation.verdict settings world with
      | .ok change => .ok change.outcome (change.commit world)
      | .error error => .error error world := by
  have hholds : Holds world.store world.store := ⟨rfl, hsound⟩
  have hcarries : Carries (fun outcome => outcome) (operation.run settings)
      (operation.verdict settings world) world world.store := carries_run settings hholds operation
  rcases hcarries with ⟨id, error, hread, -⟩ | hfollows
  · cases hread
  unfold Follows at hfollows
  cases hverdict : operation.verdict settings world with
  | error error =>
      rw [hverdict] at hfollows
      exact hfollows
  | ok change =>
      rw [hverdict] at hfollows
      obtain ⟨outcome, next, hrun, rfl, hholds⟩ := hfollows
      obtain ⟨rfl, -⟩ := hholds fun _ _ => trivial
      exact hrun

end ReporterRegistry
