import ReporterRegistry.Proofs.Registry.Compensation
import ReporterRegistry.Proofs.Registry.Permissions

/-!
# What an activation moves

An activation pulls the stake of a reporter into the registry's account and records it.
If the reporter's account is another one, then the recorded stake has left it and has
arrived there, and the allowance was used up to that extent (`Ledger.Pulled`).

Nothing keeps the registry's account from being the account of a reporter, as it is an
account of the right format. Such a reporter pays itself. That needs the balance and uses
the allowance, and moves nothing; the stake is recorded all the same
(`stake_recorded_not_moved`). Balances and allowances are then as if the stake had been
pulled from another account and sent back.
-/

namespace ReporterRegistry

open Registry RecordStore

/-! ### Pulling a stake -/

namespace Ledger

variable {settings : Settings} {token payer : Account} {amount : Amount}
  {ledger next : Ledger}

/-- The amount went from the payer to the registry, at the cost of the registry's
allowance, and nothing else happened. -/
structure Pulled (settings : Settings) (token payer : Account) (amount : Amount)
    (before after : Ledger) : Prop where
  arrived : (after.balance token settings.custody).toNat
    = (before.balance token settings.custody).toNat + amount.toNat
  gone : (after.balance token payer).toNat + amount.toNat = (before.balance token payer).toNat
  spent : (after.allowance token payer settings.custody).toNat + amount.toNat
    = (before.allowance token payer settings.custody).toNat
  others : OnlyEntries token [payer, settings.custody] [(payer, settings.custody)] before after

/-- A stake that is locked is pulled from any account but the registry's own. -/
theorem pulled_of_lock (h : ledger.lock settings token payer amount = .ok next)
    (hamount : 0 < amount) (hne : payer ≠ settings.custody) :
    Pulled settings token payer amount ledger next := by
  rcases lock_eq_ok_iff.mp h with ⟨hnot, -⟩ | ⟨-, -, hpull⟩
  · exact absurd hamount hnot
  obtain ⟨moved, hmove, hbalance⟩ := balance_of_transferFrom hpull
  refine ⟨?_, ?_, toNat_allowance_of_transferFrom hpull, OnlyEntries.lock h⟩
  · rw [hbalance]
    exact toNat_balance_payee_of_move hne hmove
  · rw [hbalance]
    exact toNat_balance_payer_of_move hne hmove

/-- A stake that the registry's account locks stays where it is. -/
theorem refunded_of_lock (h : ledger.lock settings token settings.custody amount = .ok next)
    (hamount : 0 < amount) : Refunded settings token settings.custody amount ledger next := by
  rcases lock_eq_ok_iff.mp h with ⟨hnot, -⟩ | ⟨-, -, hpull⟩
  · exact absurd hamount hnot
  obtain ⟨moved, hmove, hbalance⟩ := balance_of_transferFrom hpull
  have hsame : moved = ledger := by
    rcases (move_eq_ok_iff.mp hmove).2 with ⟨-, hsame⟩ | ⟨hne, -⟩
    · exact hsame
    · exact absurd rfl hne
  refine ⟨?_, toNat_allowance_of_transferFrom hpull, ?_⟩
  · intro token' holder
    rw [hbalance, hsame]
  · intro token' owner spender hne
    refine (OnlyEntries.lock h).allowance token' owner spender ?_
    rintro ⟨rfl, hmem⟩
    obtain ⟨rfl, rfl⟩ := Prod.mk.inj (List.mem_singleton.mp hmem)
    exact hne rfl

end Ledger

/-! ### Activating -/

/-- What a successful activation did: it read the configuration and an inactive reporter of
the caller, locked the stake, and recorded it. -/
theorem Shows.activated {σ : Type} [Store σ] [RecordStore σ] {settings : Settings}
    {records : World MemoryStore Ledger} {world next : World σ Ledger} (h : Shows records world)
    {caller : Account} {id : ReporterId} {recorded : Reporter}
    (hrun : (Operation.activateReporter caller id).run settings world
      = .ok (.reporter recorded) next) :
    ∃ config previous, records.store.config = some config ∧
      records.store.reporters.get? id = some previous ∧ previous.account = caller ∧
      recorded = withStake config previous ∧
      world.ledger.lock settings config.stake.token caller (stakeOf config previous)
        = .ok next.ledger ∧
      Holds (records.store.withReporter recorded) next.store := by
  rcases h.answer settings (.activateReporter caller id) with ⟨_, error, -, hunread⟩ | hanswer
  · rw [hunread] at hrun
    cases hrun
  cases hverdict : (Operation.activateReporter caller id).verdict settings records with
  | error error =>
      rw [hverdict] at hanswer
      rw [hanswer] at hrun
      cases hrun
  | ok change =>
      rw [hverdict] at hanswer
      obtain ⟨store, hok, hholds⟩ := hanswer
      rw [hok] at hrun
      obtain ⟨houtcome, rfl⟩ := EStateM.Result.ok.inj hrun
      cases grant_of_verdict hverdict with
      | @activateReporter _ config previous ledger hconfig hprevious hstatus hlock =>
          obtain rfl := Outcome.reporter.inj houtcome
          rw [← h.ledger] at hlock
          exact ⟨config, previous, hconfig, hprevious, rfl, rfl, hlock,
            hholds fun config' hconfig' => RecordStore.fits h.holds hconfig'⟩

/-- The activated reporter stands under its id in the records that the store holds. -/
theorem Shows.recorded {σ : Type} [Store σ] [RecordStore σ] {settings : Settings}
    {records : World MemoryStore Ledger} {world next : World σ Ledger} (h : Shows records world)
    {caller : Account} {id : ReporterId} {recorded : Reporter}
    (hrun : (Operation.activateReporter caller id).run settings world
      = .ok (.reporter recorded) next) :
    (records.store.withReporter recorded).reporters.get? id = some recorded ∧
      Holds (records.store.withReporter recorded) next.store := by
  obtain ⟨config, previous, -, hprevious, -, rfl, -, hholds⟩ := h.activated hrun
  refine ⟨?_, hholds⟩
  have hkeyed : previous.id = id := (RecordStore.sound h.holds).keyed hprevious
  have hid : (withStake config previous).id = id := hkeyed
  rw [MemoryStore.reporters_withReporter, hid]
  exact OrderedMap.get?_insert_self _ _ _

/-- A positive stake was recorded, and in the token that was configured. -/
theorem Registry.stakeToken_withStake {config : Configuration} {previous : Reporter}
    (hstake : 0 < (withStake config previous).stake) :
    (withStake config previous).stakeToken = config.stake.token :=
  if_pos hstake

/-- What the recorded stake of a caller is to the ledgers before and after. -/
structure Moves (settings : Settings) (caller : Account) (recorded : Reporter)
    (before after : Ledger) : Prop where
  /-- It came from the caller. -/
  pulled : caller ≠ settings.custody →
    Ledger.Pulled settings recorded.stakeToken caller recorded.stake before after
  /-- The registry's own account gave nothing, and used up its allowance for itself. -/
  kept : caller = settings.custody →
    Ledger.Refunded settings recorded.stakeToken settings.custody recorded.stake before after

theorem Shows.moves {σ : Type} [Store σ] [RecordStore σ] {settings : Settings}
    {records : World MemoryStore Ledger} {world next : World σ Ledger} (h : Shows records world)
    {caller : Account} {id : ReporterId} {recorded : Reporter}
    (hrun : (Operation.activateReporter caller id).run settings world
      = .ok (.reporter recorded) next)
    (hstake : 0 < recorded.stake) :
    Moves settings caller recorded world.ledger next.ledger := by
  obtain ⟨config, previous, -, -, -, rfl, hlock, -⟩ := h.activated hrun
  have htoken := stakeToken_withStake hstake
  rw [← htoken] at hlock
  refine ⟨Ledger.pulled_of_lock hlock hstake, ?_⟩
  rintro rfl
  exact Ledger.refunded_of_lock hlock hstake

/-- **A recorded stake was moved**, from the caller to the registry and at the cost of the
allowance, after every run and with both stores. There is one exception: if the caller is
the registry's own account, then no balance changes. -/
theorem recorded_stake_moved (settings : Settings) (owner : Account) (ledger : Ledger)
    (now : Seconds) (turns : List Turn) (caller : Account) (id : ReporterId)
    {recorded : Reporter} (hstake : 0 < recorded.stake) :
    (∀ {store : MemoryStore} {next : World MemoryStore Ledger},
      establish settings owner MemoryStore.empty = .ok () store →
      let before := World.run settings turns ⟨store, ledger, now, .empty⟩
      (Operation.activateReporter caller id).run settings before
          = .ok (.reporter recorded) next →
        next.store.reporters.get? id = some recorded ∧
        Moves settings caller recorded before.ledger next.ledger) ∧
    ∀ {db : Database} {next : World Database Ledger},
      establish settings owner Database.fresh = .ok () db → owner.Sized →
      (∀ turn ∈ turns, turn.Sized) →
      let before := World.run settings turns ⟨db, ledger, now, .empty⟩
      (Operation.activateReporter caller id).run settings before
          = .ok (.reporter recorded) next →
        (∃ records, next.store = .ofMemory records ∧
          records.reporters.get? id = some recorded) ∧
        Moves settings caller recorded before.ledger next.ledger := by
  constructor
  · intro store next hstart before hrun
    have hsound : before.store.Sound := by
      show (World.run settings turns ⟨store, ledger, now, .empty⟩).store.Sound
      rw [eq_started_of_establish hstart]
      exact World.sound_run settings (World.sound_started owner ledger now) turns
    have hshows := Shows.refl hsound
    obtain ⟨hget, hstore, -⟩ := hshows.recorded hrun
    exact ⟨hstore ▸ hget, hshows.moves hrun hstake⟩
  · intro db next hstart howner hturns before hrun
    obtain ⟨turns', -, hshows⟩ := shows_database_run hstart howner hturns ledger now
    obtain ⟨hget, -, -, hstore⟩ := hshows.recorded hrun
    exact ⟨⟨_, hstore, hget⟩, hshows.moves hrun hstake⟩

namespace Sample

/-- The worker comes to activate its reporter. -/
def beforeActivation : List Turn := beforeWithdrawal.take 2

/-- The worker's reporter with its stake. -/
def staked : Reporter := withStake staking (created worker)

theorem sized_beforeActivation : ∀ turn ∈ beforeActivation, turn.Sized := fun turn hmem =>
  sized_beforeWithdrawal turn (List.mem_of_mem_take hmem)

/-- The registry's account has become a reporter, and comes to activate it. It has eight of
the token, and lets itself pull them. -/
def beforeSelfPayment : List Turn :=
  [.operate (.updateStakeTerms owner ⟨token, 10, 5, 5, 5, 5⟩),
    .operate (.createReporter owner id custody .validator "" ""),
    .ledger (.mint token custody 8),
    .ledger (.approve token custody custody 8)]

end Sample

/-- The worker's stake of five arrives, with both stores. -/
theorem recorded_stake_moved_sample :
    ∃ next nextDatabase,
      (Operation.activateReporter Sample.worker Sample.id).run Sample.settings
        (Sample.world.run Sample.settings Sample.beforeActivation)
          = .ok (.reporter Sample.staked) next ∧
      (Operation.activateReporter Sample.worker Sample.id).run Sample.settings
        (Sample.databaseWorld.run Sample.settings Sample.beforeActivation)
          = .ok (.reporter Sample.staked) nextDatabase ∧
      Ledger.Pulled Sample.settings Sample.token Sample.worker 5
        (Sample.world.run Sample.settings Sample.beforeActivation).ledger next.ledger ∧
      Ledger.Pulled Sample.settings Sample.token Sample.worker 5
        (Sample.databaseWorld.run Sample.settings Sample.beforeActivation).ledger
        nextDatabase.ledger := by
  have hstake : 0 < Sample.staked.stake := by decide
  have hcaller : Sample.worker ≠ Sample.settings.custody := by decide
  obtain ⟨next, hrun⟩ := Operation.outcome?_eq_some_iff.mp (by decide +kernel :
    (Operation.activateReporter Sample.worker Sample.id).outcome? Sample.settings
      (Sample.world.run Sample.settings Sample.beforeActivation)
        = some (.reporter Sample.staked))
  obtain ⟨nextDatabase, hrunDatabase⟩ := Operation.outcome?_eq_some_iff.mp (by decide +kernel :
    (Operation.activateReporter Sample.worker Sample.id).outcome? Sample.settings
      (Sample.databaseWorld.run Sample.settings Sample.beforeActivation)
        = some (.reporter Sample.staked))
  obtain ⟨hmemory, hdatabase⟩ := recorded_stake_moved Sample.settings Sample.owner Sample.ledger
    0 Sample.beforeActivation Sample.worker Sample.id hstake
  have hmoves := (hmemory Sample.established hrun).2
  have hmovesDatabase := (hdatabase Sample.established_database Sample.sized_owner
    Sample.sized_beforeActivation hrunDatabase).2
  exact ⟨next, nextDatabase, hrun, hrunDatabase, hmoves.pulled hcaller,
    hmovesDatabase.pulled hcaller⟩

/-- The registry's account records a stake of five, and holds no more than before. -/
theorem stake_recorded_not_moved :
    ∃ recorded next,
      (Operation.activateReporter Sample.custody Sample.id).run Sample.settings
        (Sample.world.run Sample.settings Sample.beforeSelfPayment)
          = .ok (.reporter recorded) next ∧
      0 < recorded.stake ∧
      (next.ledger.balance recorded.stakeToken Sample.settings.custody).toNat
        ≠ ((Sample.world.run Sample.settings Sample.beforeSelfPayment).ledger.balance
            recorded.stakeToken Sample.settings.custody).toNat + recorded.stake.toNat := by
  have houtcome : (Operation.activateReporter Sample.custody Sample.id).outcome? Sample.settings
      (Sample.world.run Sample.settings Sample.beforeSelfPayment)
        = some (.reporter (withStake Sample.staking (Sample.created Sample.custody))) := by
    decide +kernel
  obtain ⟨next, hrun⟩ := Operation.outcome?_eq_some_iff.mp houtcome
  refine ⟨_, next, hrun, by decide, ?_⟩
  rw [← Turn.apply_operate_of_ok hrun]
  decide +kernel

end ReporterRegistry
