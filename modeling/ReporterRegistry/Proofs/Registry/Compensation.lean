import ReporterRegistry.Faults
import ReporterRegistry.Proofs.Registry.Run

/-!
# Activations that are not written

An activation pulls its stake before it writes the reporter. If the store fails to
write, the stake is sent back. Sending back is a transfer, while pulling was a
transfer on behalf of the registry: the transfer restores every balance, but not
the allowance that the pull has used up (`Ledger.Refunded`).

So the caller has its tokens back and cannot simply try again. It can if it had
allowed the registry to pull the stake twice (`activation_after_failed_write`).
-/

namespace ReporterRegistry

open Registry

/-! ### Back and forth -/

namespace Ledger

variable {ledger pulled returned : Ledger} {token payer payee : Account} {amount : Amount}

/-- The payee can pay the amount, also if it is the payer. -/
theorem not_balance_payee_lt_of_move {moved : Ledger}
    (hmove : ledger.move token payer payee amount = .ok moved) :
    ¬ moved.balance token payee < amount := by
  rcases move_eq_ok_iff.mp hmove with ⟨hfunds, ⟨rfl, rfl⟩ | ⟨hne, -⟩⟩
  · exact hfunds
  · have hcredit := toNat_balance_payee_of_move hne hmove
    rw [BitVec.lt_def]
    omega

/-- What was moved can be moved back, whatever happened to allowances in between: the payee
has it, and the payer held it before. Then every balance is what it was. -/
theorem exists_move_back {moved : Ledger}
    (hmove : ledger.move token payer payee amount = .ok moved)
    (hpulled : ∀ token' holder, pulled.balance token' holder = moved.balance token' holder) :
    ∃ returned, pulled.move token payee payer amount = .ok returned ∧
      ∀ token' holder, returned.balance token' holder = ledger.balance token' holder := by
  cases hback : pulled.move token payee payer amount with
  | ok returned =>
      refine ⟨returned, rfl, fun token' holder => BitVec.eq_of_toNat_eq ?_⟩
      have hforth := toNat_balance_of_move hmove token' holder
      have hreturn := toNat_balance_of_move hback token' holder
      have hne : payee ≠ payer ↔ payer ≠ payee := ne_comm
      rw [hpulled] at hreturn
      simp only [hne] at hreturn
      omega
  | error error =>
      -- Neither reason applies: what the payer gets back is no more than it gave away.
      rcases move_eq_error hback with ⟨hshort, -⟩ | ⟨-, hne, hfull, -⟩
      · rw [hpulled] at hshort
        exact absurd hshort (not_balance_payee_lt_of_move hmove)
      · have hpayer := toNat_balance_payer_of_move hne.symm hmove
        have hrange := (ledger.balance token payer).isLt
        rw [hpulled] at hfull
        omega

/-- Whether an amount can be moved depends on balances alone. -/
theorem exists_move_of_balance_eq {moved : Ledger}
    (hmove : ledger.move token payer payee amount = .ok moved)
    (hbalance : ∀ token' holder, returned.balance token' holder = ledger.balance token' holder) :
    ∃ moved', returned.move token payer payee amount = .ok moved' := by
  obtain ⟨hfunds, hcases⟩ := move_eq_ok_iff.mp hmove
  rw [← hbalance] at hfunds
  rcases hcases with ⟨hself, -⟩ | ⟨hne, credited, hsum, -⟩
  · exact ⟨_, move_eq_ok_iff.mpr ⟨hfunds, Or.inl ⟨hself, rfl⟩⟩⟩
  · rw [← hbalance] at hsum
    exact ⟨_, move_eq_ok_iff.mpr ⟨hfunds, Or.inr ⟨hne, credited, hsum, rfl⟩⟩⟩

/-- What a stake that was pulled and sent back leaves behind: all balances are as before,
and of the allowances only the one that was used, which is lower by the stake. -/
structure Refunded (settings : Settings) (token payer : Account) (amount : Amount)
    (ledger returned : Ledger) : Prop where
  balance : ∀ token' holder, returned.balance token' holder = ledger.balance token' holder
  spent : (returned.allowance token payer settings.custody).toNat + amount.toNat
    = (ledger.allowance token payer settings.custody).toNat
  allowance : ∀ {token' owner spender : Account},
    (token', owner, spender) ≠ (token, payer, settings.custody) →
      returned.allowance token' owner spender = ledger.allowance token' owner spender

/-- **A stake that was locked can always be sent back.** -/
theorem exists_refund {settings : Settings}
    (hlock : ledger.lock settings token payer amount = .ok pulled) :
    ∃ returned, pulled.release settings token payer amount = .ok returned ∧
      Refunded settings token payer amount ledger returned := by
  rcases lock_eq_ok_iff.mp hlock with ⟨hamount, rfl⟩ | ⟨hamount, -, hpull⟩
  · refine ⟨pulled, release_eq_ok_iff.mpr (Or.inl ⟨hamount, rfl⟩), ?_⟩
    refine ⟨fun _ _ => rfl, ?_, fun _ => rfl⟩
    rw [toNat_of_not_pos hamount, Nat.add_zero]
  obtain ⟨hallowed, moved, hmove, rfl⟩ := transferFrom_eq_ok_iff.mp hpull
  obtain ⟨returned, hback, hbalance⟩ := exists_move_back hmove fun token' holder =>
    balance_withAllowance moved _ _ _ _ token' holder
  -- Moving back leaves allowances alone, so what counts is what pulling made of them.
  have hallowance := allowance_of_move hback
  refine ⟨returned, release_eq_ok_iff.mpr (Or.inr ⟨hamount, hback⟩), hbalance, ?_, ?_⟩
  · rw [hallowance, allowance_withAllowance_self]
    exact toNat_sub_of_not_lt hallowed
  · intro token' owner spender hne
    rw [hallowance, allowance_withAllowance_of_ne _ _ hne]
    exact allowance_of_move hmove token' owner spender

section

variable {settings : Settings}

/-- A stake that was sent back cannot be locked again if the allowance was for less than
two. -/
theorem Refunded.lock_of_lt (h : Refunded settings token payer amount ledger returned)
    (hlock : ledger.lock settings token payer amount = .ok pulled)
    (hshort : (ledger.allowance token payer settings.custody).toNat < 2 * amount.toNat) :
    returned.lock settings token payer amount = .error
      (.insufficientAllowance amount (returned.allowance token payer settings.custody)) := by
  have hspent := h.spent
  have hleft : returned.allowance token payer settings.custody < amount := by
    rw [BitVec.lt_def]
    omega
  rcases lock_eq_ok_iff.mp hlock with ⟨hamount, -⟩ | ⟨hamount, htoken, -⟩
  · rw [toNat_of_not_pos hamount] at hshort
    omega
  · unfold lock transferFrom
    simp only [if_pos hamount, if_pos hleft, htoken, Bool.false_eq_true, if_false]
    rfl

/-- It can be locked again if the allowance was for two: the balances are still there. -/
theorem Refunded.exists_lock_of_le (h : Refunded settings token payer amount ledger returned)
    (hlock : ledger.lock settings token payer amount = .ok pulled)
    (henough : 2 * amount.toNat ≤ (ledger.allowance token payer settings.custody).toNat) :
    ∃ pulled', returned.lock settings token payer amount = .ok pulled' := by
  have hspent := h.spent
  rcases lock_eq_ok_iff.mp hlock with ⟨hamount, -⟩ | ⟨hamount, htoken, hpull⟩
  · exact ⟨returned, lock_eq_ok_iff.mpr (Or.inl ⟨hamount, rfl⟩)⟩
  obtain ⟨-, moved, hmove, -⟩ := transferFrom_eq_ok_iff.mp hpull
  obtain ⟨moved', hmove'⟩ := exists_move_of_balance_eq hmove h.balance
  have hallowed : ¬ returned.allowance token payer settings.custody < amount := by
    rw [BitVec.lt_def]
    omega
  have hpull' := transferFrom_eq_ok_iff.mpr ⟨hallowed, moved', hmove', rfl⟩
  exact ⟨_, lock_eq_ok_iff.mpr (Or.inr ⟨hamount, htoken, hpull'⟩)⟩

end

end Ledger

/-! ### One activation -/

namespace Registry

theorem returnStake_run {σ : Type} {settings : Settings} {world : World σ Ledger}
    {token payee : Account} {amount : Amount} {ledger : Ledger}
    (h : world.ledger.release settings token payee amount = .ok ledger) :
    returnStake settings token payee amount world = .ok () { world with ledger := ledger } := by
  rcases Ledger.release_eq_ok_iff.mp h with ⟨hamount, rfl⟩ | ⟨hamount, hmove⟩
  · unfold returnStake
    rw [if_neg hamount]
    rfl
  · unfold returnStake
    simp only [if_pos hamount, bind, EStateM.bind, attempt, onLedger, TokenLedger.transfer,
      Ledger.commit, hmove]
    rfl

variable {σ : Type} [Store σ] {settings : Settings} {caller : Account} {id : ReporterId}
  {config : Configuration} {previous : Reporter}

/-- What an activation reads of a store, and finds in order: the configuration, and an
inactive reporter of the caller. The store is left in a state `read`. -/
structure Ready (caller : Account) (id : ReporterId) (config : Configuration)
    (previous : Reporter) (store read : σ) : Prop where
  reads : ∃ between, Store.configuration store = .ok (some config) between ∧
    Store.reporter id between = .ok (some previous) read
  account : previous.account = caller
  status : previous.status = .inactive

/-- The stake of the reporter under a configuration. -/
def stakeOf (config : Configuration) (reporter : Reporter) : Amount :=
  config.stake.required reporter.role

/-- What the reporter becomes when its stake is locked. -/
def withStake (config : Configuration) (reporter : Reporter) : Reporter :=
  activated reporter config.stake (stakeOf config reporter)

variable {world : World σ Ledger} {read : σ}

/-- After the checks, an activation is what it does with the stake and the record. -/
theorem activateReporter_of_ready (h : Ready caller id config previous world.store read) :
    activateReporter settings caller id world =
      (do
        lockStake settings config.stake.token caller (stakeOf config previous)
        match ← attempt (onStore (Store.putReporter (withStake config previous))) with
        | .ok () =>
          emit (.reporterActivated id previous.account (stakeOf config previous))
          pure (withStake config previous)
        | .error error =>
          returnStake settings config.stake.token caller (stakeOf config previous)
          throw error : Action σ Ledger Reporter) { world with store := read } := by
  obtain ⟨⟨between, hconfig, hreporter⟩, haccount, hstatus⟩ := h
  have hconfiguration : configuration world = .ok config { world with store := between } := by
    simp only [configuration, bind, EStateM.bind, onStore, hconfig]
    rfl
  have hread : Registry.reporter id ({ world with store := between } : World σ Ledger)
      = .ok previous { world with store := read } := by
    simp only [Registry.reporter, bind, EStateM.bind, onStore, hreporter]
    rfl
  have hstanding : checkStanding .reporterAccount (decide (previous.account = caller)) = .ok () :=
    checkStanding_eq_ok_iff.mpr (decide_eq_true haccount)
  unfold activateReporter
  simp only [bind, EStateM.bind, hconfiguration, hread, hstanding, require]
  rw [if_neg (not_not_intro hstatus)]
  rfl

theorem activateReporter_of_lock_error (h : Ready caller id config previous world.store read)
    {error : RegistryError}
    (hlock : world.ledger.lock settings config.stake.token caller (stakeOf config previous)
      = .error error) :
    activateReporter settings caller id world = .error error { world with store := read } := by
  have hrun := lockStake_run settings config.stake.token caller (stakeOf config previous)
    { world with store := read }
  simp only [hlock] at hrun
  rw [activateReporter_of_ready h]
  simp only [bind, EStateM.bind, hrun]

theorem activateReporter_of_write_ok (h : Ready caller id config previous world.store read)
    {pulled : Ledger} {written : σ}
    (hlock : world.ledger.lock settings config.stake.token caller (stakeOf config previous)
      = .ok pulled)
    (hput : Store.putReporter (withStake config previous) read = .ok () written) :
    activateReporter settings caller id world = .ok (withStake config previous)
      ⟨written, pulled, world.now, world.outbox.emit
        (.reporterActivated id previous.account (stakeOf config previous))⟩ := by
  have hrun := lockStake_run settings config.stake.token caller (stakeOf config previous)
    { world with store := read }
  simp only [hlock] at hrun
  rw [activateReporter_of_ready h]
  simp only [bind, EStateM.bind, hrun, attempt, onStore, hput, emit]
  rfl

theorem activateReporter_of_write_error (h : Ready caller id config previous world.store read)
    {pulled returned : Ledger} {error : StoreError} {failed : σ}
    (hlock : world.ledger.lock settings config.stake.token caller (stakeOf config previous)
      = .ok pulled)
    (hput : Store.putReporter (withStake config previous) read = .error error failed)
    (hreturn : pulled.release settings config.stake.token caller (stakeOf config previous)
      = .ok returned) :
    activateReporter settings caller id world
      = .error (.store error) { world with store := failed, ledger := returned } := by
  have hrun := lockStake_run settings config.stake.token caller (stakeOf config previous)
    { world with store := read }
  simp only [hlock] at hrun
  have hback : returnStake settings config.stake.token caller (stakeOf config previous)
      ({ world with store := failed, ledger := pulled } : World σ Ledger)
        = .ok () { world with store := failed, ledger := returned } := returnStake_run hreturn
  rw [activateReporter_of_ready h]
  simp only [bind, EStateM.bind, hrun, attempt, onStore, hput, hback]
  rfl

end Registry

/-- **An activation whose write fails answers the error of the store.** Then its stake has
been sent back: records, journal and balances are as they were before, and of the allowances
only that of the registry from the caller has gone down, by the stake. When the store works
again, the same activation succeeds if the allowance was for two stakes, and lacks allowance
if it was for less. -/
theorem activation_after_failed_write {σ : Type} [Store σ] {settings : Settings}
    {caller : Account} {id : ReporterId} {config : Configuration} {previous : Reporter}
    {world : World σ Ledger} {read failed : σ} {pulled : Ledger} {error : StoreError}
    (hready : Ready caller id config previous world.store read)
    (hlock : world.ledger.lock settings config.stake.token caller (stakeOf config previous)
      = .ok pulled)
    (hput : Store.putReporter (withStake config previous) read = .error error failed) :
    ∃ returned,
      activateReporter settings caller id world
        = .error (.store error) { world with store := failed, ledger := returned } ∧
      Ledger.Refunded settings config.stake.token caller (stakeOf config previous) world.ledger
        returned ∧
      ∀ {again reread written : σ}, Ready caller id config previous again reread →
        Store.putReporter (withStake config previous) reread = .ok () written →
        (2 * (stakeOf config previous).toNat ≤
            (world.ledger.allowance config.stake.token caller settings.custody).toNat →
          ∃ next, activateReporter settings caller id
            { world with store := again, ledger := returned }
              = .ok (withStake config previous) next) ∧
        ((world.ledger.allowance config.stake.token caller settings.custody).toNat <
            2 * (stakeOf config previous).toNat →
          activateReporter settings caller id { world with store := again, ledger := returned }
            = .error (.insufficientAllowance (stakeOf config previous)
                (returned.allowance config.stake.token caller settings.custody))
              { world with store := reread, ledger := returned }) := by
  obtain ⟨returned, hreturn, hrefunded⟩ := Ledger.exists_refund hlock
  refine ⟨returned, activateReporter_of_write_error hready hlock hput hreturn, hrefunded, ?_⟩
  intro again reread written hagain hwrite
  constructor
  · intro henough
    obtain ⟨pulled', hlock'⟩ := hrefunded.exists_lock_of_le hlock henough
    exact ⟨_, activateReporter_of_write_ok hagain hlock' hwrite⟩
  · intro hshort
    have hlock' := hrefunded.lock_of_lt hlock hshort
    exact activateReporter_of_lock_error hagain hlock'

/-! ### A store that fails once -/

namespace Faulty

variable {κ σ ε α : Type} [DecidableEq κ] {method : κ} {fault : ε} {operation : EStateM ε σ α}
  {faulty : Faulty κ σ}

@[simp] theorem setPlan_self (faulty : Faulty κ σ) (method : κ) :
    faulty.setPlan method (faulty.plan method) = faulty := by
  have hplan : (fun other => if other = method then faulty.plan method else faulty.plan other)
      = faulty.plan := by
    funext other
    split
    · next h => rw [h]
    · rfl
  simp only [setPlan, hplan]

/-- Where nothing is planned, a call that succeeds is a call of the collaborator. -/
theorem call_of_unplanned (hplan : faulty.plan method = []) {a : α} {inner : σ}
    (h : operation faulty.inner = .ok a inner) :
    call method fault operation faulty = .ok a { faulty with inner := inner } := by
  have hnext : faulty.setPlan method [] = faulty := by
    rw [← hplan, setPlan_self]
  unfold call
  simp only [hplan, List.head?_nil, reduceCtorEq, if_false, List.tail_nil, hnext, h]

/-- A call that is to fail changes nothing but the plan. -/
theorem call_of_planned {plan : List Bool} (hplan : faulty.plan method = true :: plan) :
    call method fault operation faulty = .error fault (faulty.setPlan method plan) := by
  unfold call
  simp only [hplan, List.head?_cons, if_true, List.tail_cons]

end Faulty

/-- What is ready in a store is ready if faults are planned for writing only. -/
theorem Registry.Ready.faulty {σ : Type} [Store σ] {caller : Account} {id : ReporterId}
    {config : Configuration} {previous : Reporter} {store : Faulty StoreMethod σ} {read : σ}
    (h : Ready caller id config previous store.inner read)
    (hconfiguration : store.plan .configuration = []) (hreporter : store.plan .reporter = []) :
    Ready caller id config previous store { store with inner := read } := by
  obtain ⟨⟨between, hconfig, hread⟩, haccount, hstatus⟩ := h
  have hfirst : Store.configuration store = .ok (some config) { store with inner := between } :=
    Faulty.call_of_unplanned hconfiguration hconfig
  have hplan : ({ store with inner := between } : Faulty StoreMethod σ).plan .reporter = [] :=
    hreporter
  have hsecond : Store.reporter id ({ store with inner := between } : Faulty StoreMethod σ)
      = .ok (some previous) { store with inner := read } :=
    Faulty.call_of_unplanned hplan hread
  exact ⟨⟨_, hfirst, hsecond⟩, haccount, hstatus⟩

namespace Sample

/-- The world in which the worker comes to activate its reporter. -/
def idle : World MemoryStore Ledger := world.run settings (beforeWithdrawal.take 2)

/-- What is configured there. -/
def staking : Configuration := { Configuration.new owner with stake := ⟨token, 10, 5, 5, 5, 5⟩ }

/-- The same world, with a store that fails to write a reporter for once. -/
def unwritable : World (Faulty StoreMethod MemoryStore) Ledger :=
  idle.withStore ((Faulty.reliable idle.store).setPlan .putReporter [true])

/-- The store after it has failed. -/
def failed : Faulty StoreMethod MemoryStore := unwritable.store.setPlan .putReporter []

theorem ready_idle : Ready worker id staking (created worker) idle.store idle.store :=
  ⟨⟨_, rfl, rfl⟩, rfl, rfl⟩

theorem ready_unwritable :
    Ready worker id staking (created worker) unwritable.store unwritable.store :=
  Ready.faulty ready_idle rfl rfl

theorem ready_failed : Ready worker id staking (created worker) failed failed :=
  Ready.faulty ready_idle rfl rfl

theorem lock_unwritable : ∃ pulled,
    unwritable.ledger.lock settings token worker 5 = .ok pulled := ⟨_, rfl⟩

theorem putReporter_unwritable (reporter : Reporter) :
    Store.putReporter reporter unwritable.store = .error StoreMethod.fault failed :=
  Faulty.call_of_planned rfl

end Sample

/-- The stake is five, and the sample's worker has allowed the registry to pull eight. -/
theorem activation_after_failed_write_sample :
    ∃ returned,
      activateReporter Sample.settings Sample.worker Sample.id Sample.unwritable
        = .error (.store StoreMethod.fault)
          { Sample.unwritable with store := Sample.failed, ledger := returned } ∧
      Ledger.Refunded Sample.settings Sample.token Sample.worker 5 Sample.unwritable.ledger
        returned ∧
      activateReporter Sample.settings Sample.worker Sample.id
        { Sample.unwritable with store := Sample.failed, ledger := returned }
          = .error (.insufficientAllowance 5
              (returned.allowance Sample.token Sample.worker Sample.custody))
            { Sample.unwritable with store := Sample.failed, ledger := returned } := by
  obtain ⟨pulled, hlock⟩ := Sample.lock_unwritable
  obtain ⟨returned, hrun, hrefunded, hagain⟩ := activation_after_failed_write
    Sample.ready_unwritable hlock (Sample.putReporter_unwritable _)
  have hwrite : Store.putReporter (withStake Sample.staking (Sample.created Sample.worker))
      Sample.failed = .ok () _ := rfl
  exact ⟨returned, hrun, hrefunded, (hagain Sample.ready_failed hwrite).2 (by decide +kernel)⟩

/-- The worker has its tokens back, but cannot stake them. -/
theorem activation_not_undone :
    ∃ returned,
      activateReporter Sample.settings Sample.worker Sample.id Sample.unwritable
        = .error (.store StoreMethod.fault)
          { Sample.unwritable with store := Sample.failed, ledger := returned } ∧
      returned.allowance Sample.token Sample.worker Sample.custody
        ≠ Sample.unwritable.ledger.allowance Sample.token Sample.worker Sample.custody ∧
      ∀ reporter next, activateReporter Sample.settings Sample.worker Sample.id
        { Sample.unwritable with store := Sample.failed, ledger := returned }
          ≠ .ok reporter next := by
  obtain ⟨pulled, hlock⟩ := Sample.lock_unwritable
  obtain ⟨returned, hreturn, hrefunded⟩ := Ledger.exists_refund hlock
  refine ⟨returned, activateReporter_of_write_error Sample.ready_unwritable hlock
    (Sample.putReporter_unwritable _) hreturn, ?_, ?_⟩
  · intro hsame
    have hspent : (returned.allowance Sample.token Sample.worker Sample.custody).toNat + 5
        = (Sample.unwritable.ledger.allowance Sample.token Sample.worker Sample.custody).toNat :=
      hrefunded.spent
    rw [hsame] at hspent
    omega
  · have hshort := hrefunded.lock_of_lt hlock (by decide +kernel)
    rw [activateReporter_of_lock_error Sample.ready_failed hshort]
    intro reporter next h
    cases h

end ReporterRegistry
