import ReporterRegistry.Proofs.Registry.Run

/-!
# Solvency

The registry's account holds, of every token, at least what is staked in it. The
stakes are summed up token by token, since the token that is configured changes
while stakes are locked. A reporter whose account is the registry's own does not
count: it pays itself, and no token moves.

The sum follows the records: writing a reporter moves it by what the reporter
counts for after and before (`owed_withReporter`). What is then left to compare
is the effect of locking and releasing a stake on the registry's balance.
-/

namespace ReporterRegistry

/-! ### What is owed -/

/-- What a reporter counts for in a token. -/
def Reporter.claim (custody token : Account) (reporter : Reporter) : Nat :=
  if reporter.stakeToken = token ∧ reporter.account ≠ custody then reporter.stake.toNat else 0

theorem Reporter.claim_of_not_pos {custody token : Account} {reporter : Reporter}
    (h : ¬ 0 < reporter.stake) : reporter.claim custody token = 0 := by
  rw [claim, Ledger.toNat_of_not_pos h]
  split <;> rfl

theorem Reporter.not_pos_stake_withoutStake (reporter : Reporter) :
    ¬ 0 < reporter.withoutStake.stake :=
  BitVec.lt_irrefl 0

theorem Registry.stakeToken_activated {previous : Reporter} {terms : StakeTerms} {amount : Amount}
    (h : 0 < (activated previous terms amount).stake) :
    (activated previous terms amount).stakeToken = terms.token :=
  if_pos h

namespace MemoryStore

/-- All that is staked in a token. -/
def owed (custody token : Account) (store : MemoryStore) : Nat :=
  (store.reporters.values.map (Reporter.claim custody token)).sum

theorem owed_withReporter (store : MemoryStore) (reporter : Reporter) (custody token : Account) :
    (store.withReporter reporter).owed custody token
        + (store.reporters.get? reporter.id).elim 0 (Reporter.claim custody token)
      = store.owed custody token + reporter.claim custody token :=
  OrderedMap.sum_values_insert store.reporters reporter.id reporter (Reporter.claim custody token)

/-- A reporter without a stake adds nothing. -/
theorem owed_withReporter_le {store : MemoryStore} {reporter : Reporter}
    (h : ¬ 0 < reporter.stake) (custody token : Account) :
    (store.withReporter reporter).owed custody token ≤ store.owed custody token := by
  have hsum := owed_withReporter store reporter custody token
  rw [Reporter.claim_of_not_pos h] at hsum
  omega

/-- What one reporter counts for is owed. -/
theorem claim_le_owed {store : MemoryStore} {reporter : Reporter}
    (h : store.reporters.get? reporter.id = some reporter) (custody token : Account) :
    reporter.claim custody token ≤ store.owed custody token := by
  have hsum := owed_withReporter store reporter.withoutStake custody token
  have hpos : ¬ 0 < reporter.withoutStake.stake := Reporter.not_pos_stake_withoutStake reporter
  have hzero : reporter.withoutStake.claim custody token = 0 := Reporter.claim_of_not_pos hpos
  have hget : store.reporters.get? reporter.withoutStake.id = some reporter := h
  rw [hget, hzero, Option.elim_some] at hsum
  omega

end MemoryStore

/-- The registry's account can pay all stakes. -/
def Solvent (settings : Settings) (store : MemoryStore) (ledger : Ledger) : Prop :=
  ∀ token, store.owed settings.custody token ≤ (ledger.balance token settings.custody).toNat

/-! ### The registry's balance -/

namespace Ledger

variable {settings : Settings} {token holder : Account} {amount : Amount} {ledger next : Ledger}

/-- Locking a stake adds it to the registry's balance, unless the registry pays. -/
theorem balance_of_lock (h : ledger.lock settings token holder amount = .ok next)
    (token' : Account) :
    (next.balance token' settings.custody).toNat
      = (ledger.balance token' settings.custody).toNat
        + (if token = token' ∧ holder ≠ settings.custody then amount.toNat else 0) := by
  rcases lock_eq_ok_iff.mp h with ⟨hamount, rfl⟩ | ⟨-, -, hpull⟩
  · rw [toNat_of_not_pos hamount]
    split <;> rfl
  · obtain ⟨moved, hmove, hbalance⟩ := balance_of_transferFrom hpull
    have heffect := toNat_balance_of_move hmove token' settings.custody
    rw [hbalance]
    by_cases hself : holder = settings.custody
    · simpa [hself] using heffect
    · simpa [hself, Ne.symm hself, eq_comm] using heffect

/-- Releasing a stake takes it off the registry's balance, unless the registry is
paid. -/
theorem balance_of_release (h : ledger.release settings token holder amount = .ok next)
    (token' : Account) :
    (next.balance token' settings.custody).toNat
        + (if token = token' ∧ holder ≠ settings.custody then amount.toNat else 0)
      = (ledger.balance token' settings.custody).toNat := by
  rcases release_eq_ok_iff.mp h with ⟨hamount, rfl⟩ | ⟨-, hmove⟩
  · rw [toNat_of_not_pos hamount]
    split <;> rfl
  · have heffect := toNat_balance_of_move hmove token' settings.custody
    by_cases hself : holder = settings.custody
    · simpa [hself] using heffect
    · simpa [hself, Ne.symm hself, eq_comm] using heffect

/-- A stake that the registry can pay is refused only because the payee would hold
more than fits. -/
theorem release_eq_error {error : RegistryError}
    (h : ledger.release settings token holder amount = .error error)
    (hfunds : ¬ ledger.balance token settings.custody < amount) :
    2 ^ 128 ≤ (ledger.balance token holder).toNat + amount.toNat ∧
      error = .transferFailed (.transferFailed .balanceOverflow) := by
  unfold release at h
  by_cases hamount : 0 < amount
  · rw [if_pos hamount] at h
    cases hmove : ledger.move token settings.custody holder amount with
    | ok next =>
        rw [hmove] at h
        cases h
    | error fault =>
        rw [hmove] at h
        rcases move_eq_error hmove with ⟨hlt, -⟩ | ⟨-, -, hrange, rfl⟩
        · exact absurd hlt hfunds
        · cases h
          exact ⟨hrange, rfl⟩
  · rw [if_neg hamount] at h
    cases h

end Ledger

/-- A call takes nothing from anyone but its payer. -/
theorem LedgerCall.balance_le_apply {call : LedgerCall} {holder : Account}
    (h : call.payer? ≠ some holder) (ledger : Ledger) (token : Account) :
    (ledger.balance token holder).toNat ≤ ((call.apply ledger).balance token holder).toNat := by
  cases call with
  | mint token' holder' amount => exact Ledger.balance_le_mint ledger token' holder' amount _ _
  | approve token' owner spender amount => exact Nat.le_refl _
  | transfer token' payer payee amount =>
      have hne : payer ≠ holder := by
        intro heq
        exact h (congrArg some heq)
      simp only [apply, left, TokenLedger.transfer, Ledger.commit]
      cases hmove : ledger.move token' payer payee amount with
      | error error => exact Nat.le_refl _
      | ok next => exact Ledger.balance_le_of_move hmove hne token
  | transferFrom token' spender payer payee amount =>
      have hne : payer ≠ holder := by
        intro heq
        exact h (congrArg some heq)
      simp only [apply, left, TokenLedger.transferFrom, Ledger.commit]
      cases hpull : ledger.transferFrom token' spender payer payee amount with
      | error error => exact Nat.le_refl _
      | ok next => exact Ledger.balance_le_of_transferFrom hpull hne token

/-! ### Solvency of one step -/

namespace Solvent

variable {settings : Settings} {store : MemoryStore} {ledger next : Ledger}

/-- A reporter may be written in place of one that counts for no less. -/
theorem replace (h : Solvent settings store ledger) {previous reporter : Reporter}
    (hprevious : store.reporters.get? reporter.id = some previous)
    (hclaim : ∀ token,
      reporter.claim settings.custody token ≤ previous.claim settings.custody token) :
    Solvent settings (store.withReporter reporter) ledger := by
  intro token
  have hsum := MemoryStore.owed_withReporter store reporter settings.custody token
  rw [hprevious, Option.elim_some] at hsum
  have hbefore := h token
  have hle := hclaim token
  omega

/-- The balance gains what a newly locked stake counts for. -/
theorem lock (h : Solvent settings store ledger) {previous : Reporter} {terms : StakeTerms}
    {amount : Amount}
    (hlock : ledger.lock settings terms.token previous.account amount = .ok next) :
    Solvent settings (store.withReporter (Registry.activated previous terms amount)) next := by
  intro token
  have hsum := MemoryStore.owed_withReporter store (Registry.activated previous terms amount)
    settings.custody token
  have hbalance := Ledger.balance_of_lock hlock token
  have hgain : (Registry.activated previous terms amount).claim settings.custody token
      ≤ if terms.token = token ∧ previous.account ≠ settings.custody then amount.toNat else 0 := by
    by_cases hpos : 0 < amount
    · simp only [Reporter.claim, Registry.activated, if_pos hpos]
      exact Nat.le_refl _
    · rw [Reporter.claim_of_not_pos hpos]
      exact Nat.zero_le _
  have hbefore := h token
  omega

/-- The balance loses what a released stake counted for. -/
theorem release (h : Solvent settings store ledger) {previous : Reporter}
    (hprevious : store.reporters.get? previous.id = some previous)
    (hrelease : ledger.release settings previous.stakeToken previous.account previous.stake
      = .ok next) :
    Solvent settings (store.withReporter previous.withoutStake) next := by
  intro token
  have hsum := MemoryStore.owed_withReporter store previous.withoutStake settings.custody token
  have hget : store.reporters.get? previous.withoutStake.id = some previous := hprevious
  have hzero := Reporter.not_pos_stake_withoutStake previous
  rw [hget, Option.elim_some, Reporter.claim_of_not_pos hzero] at hsum
  have hbalance := Ledger.balance_of_release hrelease token
  have hclaim : previous.claim settings.custody token
      = if previous.stakeToken = token ∧ previous.account ≠ settings.custody then
          previous.stake.toNat else 0 := rfl
  rw [← hclaim] at hbalance
  have hbefore := h token
  omega

end Solvent

/-! ### The books -/

/-- What withdrawals rely on: the registry is configured, it can pay all stakes,
and every stake is in some token. -/
structure Covered (settings : Settings) (world : World MemoryStore Ledger) : Prop where
  configured : ∃ config, world.store.config = some config
  solvent : Solvent settings world.store world.ledger
  backed : ∀ {id : ReporterId} {reporter : Reporter},
    world.store.reporters.get? id = some reporter →
      0 < reporter.stake → reporter.stakeToken.isZero = false

namespace Covered

variable {settings : Settings} {world : World MemoryStore Ledger}

theorem reconfigure (h : Covered settings world) (config : Configuration) (event : Event) :
    Covered settings ((world.reconfigure config event).commit world) where
  configured := ⟨config, rfl⟩
  solvent := h.solvent
  backed := h.backed

/-- Writing a reporter keeps the books if the sum and the balance go along, and if
a stake is in some token. -/
theorem withReporter (h : Covered settings world) {reporter : Reporter} {ledger : Ledger}
    {event : Event} {outcome : Outcome}
    (hsolvent : Solvent settings (world.store.withReporter reporter) ledger)
    (hbacked : 0 < reporter.stake → reporter.stakeToken.isZero = false) :
    Covered settings
      (Change.commit ⟨world.store.withReporter reporter, ledger, event, outcome⟩ world) where
  configured := h.configured
  solvent := hsolvent
  backed {id found} hfound hstake := by
    rcases MemoryStore.get?_withReporter_cases hfound with ⟨-, rfl⟩ | ⟨-, hfound⟩
    · exact hbacked hstake
    · exact h.backed hfound hstake

/-- Writing a reporter that has nothing staked keeps the books. -/
theorem withReporter_of_not_pos (h : Covered settings world) {reporter : Reporter} {event : Event}
    {outcome : Outcome} (hstake : ¬ 0 < reporter.stake) :
    Covered settings
      (Change.commit ⟨world.store.withReporter reporter, world.ledger, event, outcome⟩ world) := by
  refine h.withReporter ?_ ?_
  · intro token
    exact Nat.le_trans (MemoryStore.owed_withReporter_le hstake _ _) (h.solvent token)
  · intro hpos
    exact absurd hpos hstake

/-- Every change keeps the books. -/
theorem grant (h : Covered settings world) (hsound : world.store.Sound) {operation : Operation}
    {change : Change} (hgrant : Grant settings world operation change) :
    Covered settings (change.commit world) := by
  cases hgrant with
  | setAuthority => exact h.reconfigure _ _
  | updateStakeTerms => exact h.reconfigure _ _
  | updateRewardTerms => exact h.reconfigure _ _
  | createReporter => exact h.withReporter_of_not_pos (BitVec.lt_irrefl 0)
  | updateReporter => exact h.withReporter_of_not_pos (BitVec.lt_irrefl 0)
  | activateReporter _ _ _ hlock =>
      refine h.withReporter (h.solvent.lock hlock) ?_
      intro hpos
      rcases Ledger.lock_eq_ok_iff.mp hlock with ⟨hnot, -⟩ | ⟨-, htoken, -⟩
      · exact absurd hpos hnot
      · rw [Registry.stakeToken_activated hpos]
        exact htoken
  | @deactivateReporter id config previous _ hprevious _ =>
      have hbacked : 0 < previous.stake → previous.stakeToken.isZero = false := h.backed hprevious
      have hget : world.store.reporters.get?
          (Operation.released previous (config.stake.unlockAt world.now)).id = some previous :=
        hsound.get?_id hprevious
      refine h.withReporter (h.solvent.replace hget ?_) hbacked
      intro token
      exact Nat.le_refl _
  | unstakeReporter _ hprevious _ _ _ hrelease =>
      refine h.withReporter (h.solvent.release (hsound.get?_id hprevious) hrelease) ?_
      intro hpos
      exact absurd hpos (Reporter.not_pos_stake_withoutStake _)

/-- Every turn keeps the books, unless it takes from the registry's account. -/
theorem effect (h : Covered settings world) (hsound : world.store.Sound) {turn : Turn}
    {next : World MemoryStore Ledger} (hpayer : turn.payer? ≠ some settings.custody)
    (heffect : Effect settings world turn next) : Covered settings next := by
  cases heffect with
  | refused => exact h
  | granted hgrant => exact h.grant hsound hgrant
  | ledger call =>
      refine ⟨h.configured, ?_, h.backed⟩
      intro token
      exact Nat.le_trans (h.solvent token) (LedgerCall.balance_le_apply hpayer world.ledger token)
  | aside => exact ⟨h.configured, h.solvent, h.backed⟩

/-- The books of a registry that was just started. -/
theorem start (settings : Settings) (owner : Account) (ledger : Ledger) (now : Seconds)
    (outbox : Outbox) :
    Covered settings ⟨MemoryStore.empty.withConfiguration (.new owner), ledger, now, outbox⟩ where
  configured := ⟨.new owner, rfl⟩
  solvent _ := Nat.zero_le _
  backed h := by simp [MemoryStore.empty] at h

/-- **The books are kept by every run** in which nobody takes from the registry's
account. -/
theorem run {turns : List Turn} (h : Covered settings world) (hsound : world.store.Sound)
    (hpayer : ∀ turn ∈ turns, turn.payer? ≠ some settings.custody) :
    (world.run settings turns).store.Sound ∧ Covered settings (world.run settings turns) :=
  run_induction
    (fun hmem hsound hcovered heffect => hcovered.effect hsound (hpayer _ hmem) heffect) hsound h

end Covered

/-! ### Solvency of a registry -/

/-- A reporter whose stake may be withdrawn now. -/
structure Due (settings : Settings) (world : World MemoryStore Ledger) (reporter : Reporter) :
    Prop where
  stored : reporter ∈ world.store.reporters.values
  status : reporter.status = .unstaking
  account : reporter.account ≠ settings.custody
  time : reporter.unlockTime ≤ world.now

/-- A reporter that asks for its stake gets all of it, or is told that it would hold
more than fits, which is then so. -/
def Pays {σ : Type} [Store σ] (settings : Settings) (world : World σ Ledger)
    (reporter : Reporter) : Prop :=
  let answer := (Operation.unstakeReporter reporter.account reporter.id).run settings world
  (∃ next, answer = .ok (.amount reporter.stake) next) ∨
    (answer = .error (.transferFailed (.transferFailed .balanceOverflow)) world ∧
      2 ^ 128 ≤ (world.ledger.balance reporter.stakeToken reporter.account).toNat
        + reporter.stake.toNat)

section

variable {settings : Settings} {world : World MemoryStore Ledger} {reporter : Reporter}

/-- A stake that is unlocked is paid back to its reporter, unless what the reporter
holds would leave the range of amounts. -/
theorem Covered.verdict_unstakeReporter (h : Covered settings world)
    (hsound : world.store.Sound) (hdue : Due settings world reporter) :
    (∃ change, (Operation.unstakeReporter reporter.account reporter.id).verdict settings world
          = .ok change ∧ change.outcome = .amount reporter.stake) ∨
      ((Operation.unstakeReporter reporter.account reporter.id).verdict settings world
          = .error (.transferFailed (.transferFailed .balanceOverflow)) ∧
        2 ^ 128 ≤ (world.ledger.balance reporter.stakeToken reporter.account).toNat
          + reporter.stake.toNat) := by
  obtain ⟨config, hconfig⟩ := h.configured
  obtain ⟨id, hid⟩ := OrderedMap.mem_values.mp hdue.stored
  have hget := hsound.get?_id hid
  have hunlocked : ¬ world.now < reporter.unlockTime := BitVec.not_lt.mpr hdue.time
  have htoken : ¬ (0 < reporter.stake ∧ reporter.stakeToken.isZero = true) := by
    rintro ⟨hpos, hzero⟩
    rw [h.backed hid hpos] at hzero
    cases hzero
  have hverdict : (Operation.unstakeReporter reporter.account reporter.id).verdict settings world
      = (world.ledger.release settings reporter.stakeToken reporter.account reporter.stake).map
          fun ledger => ⟨world.store.withReporter reporter.withoutStake, ledger,
            .stakeWithdrawn reporter.id reporter.account reporter.stake,
            .amount reporter.stake⟩ := by
    simp only [Operation.verdict, World.configuration, hconfig, World.reporter, hget,
      Registry.checkStanding, ok_bind, decide_true, hdue.status, hunlocked, htoken, ne_eq,
      not_true_eq_false, if_true, if_false]
    cases world.ledger.release settings reporter.stakeToken reporter.account reporter.stake <;> rfl
  rw [hverdict]
  cases hrelease : world.ledger.release settings reporter.stakeToken reporter.account
    reporter.stake with
  | ok ledger => exact Or.inl ⟨_, rfl, rfl⟩
  | error error =>
      have hclaim := MemoryStore.claim_le_owed hget settings.custody reporter.stakeToken
      rw [Reporter.claim, if_pos ⟨rfl, hdue.account⟩] at hclaim
      have hfunds : ¬ world.ledger.balance reporter.stakeToken settings.custody < reporter.stake :=
        BitVec.not_lt.mpr (Nat.le_trans hclaim (h.solvent reporter.stakeToken))
      obtain ⟨hrange, rfl⟩ := Ledger.release_eq_error hrelease hfunds
      exact Or.inr ⟨rfl, hrange⟩

/-- What shows the books pays, unless the store does not want to read a record. -/
theorem Covered.pays {σ : Type} [Store σ] [RecordStore σ] {shown : World σ Ledger}
    (h : Covered settings world) (hshows : Shows world shown) (hdue : Due settings world reporter) :
    Pays settings shown reporter ∨
      (Operation.unstakeReporter reporter.account reporter.id).Unread settings shown := by
  have hsound := RecordStore.sound hshows.holds
  rcases hshows.answer settings (.unstakeReporter reporter.account reporter.id) with
    hrefused | hanswer
  · exact Or.inr hrefused
  refine Or.inl ?_
  rcases h.verdict_unstakeReporter hsound hdue with ⟨change, hverdict, houtcome⟩ |
    ⟨hverdict, hrange⟩
  · rw [hverdict] at hanswer
    obtain ⟨store, hrun, -⟩ := hanswer
    rw [houtcome] at hrun
    exact Or.inl ⟨_, hrun⟩
  · rw [hverdict] at hanswer
    rw [← hshows.ledger] at hrange
    exact Or.inr ⟨hanswer, hrange⟩

end

/-- **The registry is solvent.** After every run in which nobody else takes from the
registry's account, that account holds of each token what is staked in it, and a stake
that is due is never refused for want of funds. A database may besides refuse to read
the reporter, and what it holds are the rows of some records. -/
theorem solvency {settings : Settings} {turns : List Turn}
    (hpayer : ∀ turn ∈ turns, turn.payer? ≠ some settings.custody)
    (owner : Account) (ledger : Ledger) (now : Seconds) :
    (∀ store, Registry.establish settings owner MemoryStore.empty = .ok () store →
      let world := World.run settings turns ⟨store, ledger, now, .empty⟩
      Solvent settings world.store world.ledger ∧
        ∀ reporter, Due settings world reporter → Pays settings world reporter) ∧
    ∀ db, Registry.establish settings owner Database.fresh = .ok () db → owner.Sized →
      (∀ turn ∈ turns, turn.Sized) →
      let world := World.run settings turns ⟨db, ledger, now, .empty⟩
      ∃ records, world.store = Database.ofMemory records ∧
        Solvent settings records world.ledger ∧
          ∀ reporter, Due settings (world.withStore records) reporter →
            Pays settings world reporter ∨
              (Operation.unstakeReporter reporter.account reporter.id).Unread settings world := by
  have hsound := World.sound_started owner ledger now
  have hstarted : Covered settings (World.started owner ledger now) := Covered.start ..
  constructor
  · intro store hstart
    rw [eq_started_of_establish hstart]
    obtain ⟨hsound', hcovered⟩ := hstarted.run hsound hpayer
    refine ⟨hcovered.solvent, ?_⟩
    intro reporter hdue
    rcases hcovered.pays (Shows.refl hsound') hdue with hpays | ⟨id, error, hread, -⟩
    · exact hpays
    · cases hread
  · intro db hstart howner hturns
    obtain ⟨turns', hsub, hshows⟩ := shows_database_run hstart howner hturns ledger now
    have hpayer' : ∀ turn ∈ turns', turn.payer? ≠ some settings.custody := by
      intro turn hmem
      exact hpayer turn (hsub.subset hmem)
    obtain ⟨-, hcovered⟩ := hstarted.run hsound hpayer'
    obtain ⟨-, -, hstore⟩ := hshows.holds
    refine ⟨_, hstore, ?_, ?_⟩
    · rw [hshows.same]
      exact hcovered.solvent
    · intro reporter hdue
      refine hcovered.pays hshows ?_
      rw [hshows.same] at hdue
      exact hdue

/-- The stake in the first token is due at the end of the sample run, and it is paid
as soon as it fits. With a database the registry is as solvent. -/
theorem solvency_sample :
    (∀ turn ∈ Sample.beforeOverflow, turn.payer? ≠ some Sample.settings.custody) ∧
      (∃ reporter, Due Sample.settings
          (Sample.world.run Sample.settings Sample.beforeOverflow) reporter ∧
        Pays Sample.settings (Sample.world.run Sample.settings Sample.beforeOverflow) reporter) ∧
      ∃ records, (Sample.databaseWorld.run Sample.settings Sample.beforeOverflow).store
          = Database.ofMemory records ∧
        Solvent Sample.settings records
          (Sample.databaseWorld.run Sample.settings Sample.beforeOverflow).ledger := by
  have hpayer : ∀ turn ∈ Sample.beforeOverflow,
      turn.payer? ≠ some Sample.settings.custody := by decide
  obtain ⟨hmemory, hdatabase⟩ := solvency hpayer Sample.owner Sample.ledger 0
  have hpays := (hmemory Sample.world.store Sample.established).2
  have hdue : Due Sample.settings (Sample.world.run Sample.settings Sample.beforeOverflow)
      ⟨Sample.id, Sample.worker, "", "", .validator, .unstaking, 5, Sample.token, 10⟩ := {
    stored := by decide +kernel
    status := rfl
    account := by decide
    time := by decide +kernel }
  obtain ⟨records, hstore, hsolvent, -⟩ := hdatabase Sample.databaseWorld.store
    Sample.established_database Sample.sized_owner Sample.sized_beforeOverflow
  exact ⟨hpayer, ⟨_, hdue, hpays _ hdue⟩, records, hstore, hsolvent⟩

end ReporterRegistry
