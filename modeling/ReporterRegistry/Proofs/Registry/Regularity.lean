import ReporterRegistry.Proofs.Registry.Run

/-!
# Regular records

The fields of a stored reporter hang together. Nothing is staked while it is
inactive, and an unlock time is only set while it waits for its stake. The token
of a stake is a usable one of the registry's format, and where there is no stake
it is the zero address.

Each operation writes some of the fields, so none of them shows the whole. What
it leaves out is regular because the record was so before, and because the status
that the operation asks for says what stands in the other fields.
-/

namespace ReporterRegistry

open Registry

/-! ### Regular reporters -/

/-- Status, stake, token and unlock time of a reporter fit each other. -/
structure Reporter.Regular (settings : Settings) (reporter : Reporter) : Prop where
  format : reporter.account.format = settings.format
  inactive : reporter.status = .inactive → reporter.stake = 0 ∧ reporter.unlockTime = 0
  active : reporter.status = .active → reporter.unlockTime = 0
  timely : reporter.unlockTime ≤ maxSeconds
  unstaked : reporter.stake = 0 → reporter.stakeToken = .zero settings.format
  staked : 0 < reporter.stake →
    reporter.stakeToken.format = settings.format ∧ reporter.stakeToken.isZero = false

namespace Reporter.Regular

variable {settings : Settings} {reporter : Reporter}

/-- Nothing has to fit where nothing is staked. -/
theorem withoutStake (hformat : reporter.account.format = settings.format) :
    reporter.withoutStake.Regular settings where
  format := hformat
  inactive _ := ⟨rfl, rfl⟩
  active := nofun
  timely := BitVec.not_lt.mp not_maxSeconds_lt_zero
  unstaked _ := congrArg Account.zero hformat
  staked hpos := absurd hpos (BitVec.lt_irrefl 0)

theorem new (id : ReporterId) {account : Account} (role : Role) (name url : String)
    (hformat : account.format = settings.format) :
    (Reporter.new id account role name url).Regular settings := by
  have hreset : (Reporter.new id account role name url).withoutStake.Regular settings :=
    withoutStake hformat
  exact hreset

/-- The token is only written if there is a stake. If there is none, there was none
before, so the token that stays is the zero address. -/
theorem activated (h : reporter.Regular settings) (hstatus : reporter.status = .inactive)
    {terms : StakeTerms} {amount : Amount} (hformat : terms.token.format = settings.format)
    (hzero : 0 < amount → terms.token.isZero = false) :
    (Registry.activated reporter terms amount).Regular settings where
  format := h.format
  inactive := nofun
  active _ := rfl
  timely := BitVec.not_lt.mp not_maxSeconds_lt_zero
  unstaked hstake := by
    have hamount : ¬ 0 < amount := by
      have hstake' : amount = 0 := hstake
      rw [hstake']
      exact BitVec.lt_irrefl 0
    simp only [Registry.activated, if_neg hamount]
    exact h.unstaked (h.inactive hstatus).1
  staked hpos := by
    have hamount : 0 < amount := hpos
    simp only [Registry.activated, if_pos hamount]
    exact ⟨hformat, hzero hamount⟩

theorem released (h : reporter.Regular settings) (terms : StakeTerms) (now : Seconds) :
    (Operation.released reporter (terms.unlockAt now)).Regular settings where
  format := h.format
  inactive := nofun
  active := nofun
  timely := BitVec.not_lt.mp (not_maxSeconds_lt_unlockAt terms now)
  unstaked := h.unstaked
  staked := h.staked

end Reporter.Regular

/-! ### Regular records -/

/-- Every reporter is regular, and the token that is configured has the format of the
registry. -/
structure MemoryStore.Regular (settings : Settings) (store : MemoryStore) : Prop where
  token : ∀ {config : Configuration}, store.config = some config →
    config.stake.token.format = settings.format
  reporter : ∀ {id : ReporterId} {reporter : Reporter},
    store.reporters.get? id = some reporter → reporter.Regular settings

namespace MemoryStore.Regular

variable {settings : Settings} {store : MemoryStore}

theorem start {owner : Account} (hformat : owner.format = settings.format) :
    (MemoryStore.empty.withConfiguration (.new owner)).Regular settings where
  token hconfig := by
    cases hconfig
    exact hformat
  reporter h := by simp [MemoryStore.empty] at h

theorem withConfiguration (h : store.Regular settings) {config : Configuration}
    (hformat : config.stake.token.format = settings.format) :
    (store.withConfiguration config).Regular settings where
  token hconfig := by
    cases hconfig
    exact hformat
  reporter := h.reporter

theorem withReporter (h : store.Regular settings) {reporter : Reporter}
    (hreporter : reporter.Regular settings) : (store.withReporter reporter).Regular settings where
  token := h.token
  reporter hfound := by
    rcases get?_withReporter_cases hfound with ⟨-, rfl⟩ | ⟨-, hfound⟩
    · exact hreporter
    · exact h.reporter hfound

end MemoryStore.Regular

/-- **Every granted operation keeps records regular.** -/
theorem Grant.regular {settings : Settings} {world : World MemoryStore Ledger}
    {operation : Operation} {change : Change} (hgrant : Grant settings world operation change)
    (h : world.store.Regular settings) : change.store.Regular settings := by
  cases hgrant with
  | setAuthority hconfig =>
      have hformat := h.token hconfig
      exact h.withConfiguration hformat
  | updateStakeTerms _ _ hformat => exact h.withConfiguration hformat
  | updateRewardTerms hconfig =>
      have hformat := h.token hconfig
      exact h.withConfiguration hformat
  | createReporter _ _ hformat => exact h.withReporter (.new _ _ _ _ hformat)
  | updateReporter _ _ hformat => exact h.withReporter (.withoutStake hformat)
  | activateReporter hconfig hprevious hstatus hlock =>
      refine h.withReporter ((h.reporter hprevious).activated hstatus (h.token hconfig) ?_)
      intro hpos
      rcases Ledger.lock_eq_ok_iff.mp hlock with ⟨hnot, -⟩ | ⟨-, htoken, -⟩
      · exact absurd hpos hnot
      · exact htoken
  | deactivateReporter _ hprevious => exact h.withReporter ((h.reporter hprevious).released _ _)
  | unstakeReporter _ hprevious =>
      exact h.withReporter (.withoutStake (h.reporter hprevious).format)

/-- **Every turn keeps records regular.** -/
theorem Effect.regular {settings : Settings} {world next : World MemoryStore Ledger} {turn : Turn}
    (heffect : Effect settings world turn next) (h : world.store.Regular settings) :
    next.store.Regular settings := by
  cases heffect with
  | refused => exact h
  | granted hgrant => exact hgrant.regular h
  | ledger => exact h
  | aside => exact h

/-- **Stored reporters are regular.** After every run of a registry that was started on
an empty store in memory, every reporter stands under its own id, and its fields fit
each other. -/
theorem regular_of_stored {settings : Settings} {owner : Account} {store : MemoryStore}
    (hstart : establish settings owner MemoryStore.empty = .ok () store) (ledger : Ledger)
    (now : Seconds) (turns : List Turn) {id : ReporterId} {reporter : Reporter}
    (hstored : (World.run settings turns ⟨store, ledger, now, .empty⟩).store.reporters.get? id
      = some reporter) :
    reporter.id = id ∧ reporter.Regular settings := by
  obtain ⟨-, hformat, -⟩ := establish_inv hstart
  rw [eq_started_of_establish hstart] at hstored
  have hregular : (World.started owner ledger now).store.Regular settings := .start hformat
  obtain ⟨hsound, hregular⟩ := run_induction (P := fun world => world.store.Regular settings)
    (fun _ _ h heffect => heffect.regular h) (World.sound_started owner ledger now) hregular
  exact ⟨hsound.keyed hstored, hregular.reporter hstored⟩

/-- The reporter that waits for its stake at the end of the sample run has a stake of
five, in the token that was configured when it was locked. -/
theorem regular_of_stored_sample :
    let reporter : Reporter :=
      ⟨Sample.id, Sample.worker, "", "", .validator, .unstaking, 5, Sample.token, 10⟩
    (Sample.world.run Sample.settings Sample.beforeWithdrawal).store.reporters.get? Sample.id
        = some reporter ∧
      reporter.id = Sample.id ∧ reporter.Regular Sample.settings := by
  intro reporter
  have hstored : (Sample.world.run Sample.settings Sample.beforeWithdrawal).store.reporters.get?
      Sample.id = some reporter := by decide +kernel
  exact ⟨hstored, regular_of_stored Sample.established Sample.ledger 0 Sample.beforeWithdrawal
    hstored⟩

end ReporterRegistry
