import ReporterRegistry.Proofs.Ledger.Supply
import ReporterRegistry.Proofs.Registry.Permissions
import ReporterRegistry.Proofs.Registry.Solvency

/-!
# What reporters do for themselves

The three operations of a reporter's own account have one form. They read the
configuration and one reporter, and make a plan from these and the time: the next record
of the reporter, an event, an answer, and a movement of tokens between the account and
the registry's (`Plan`). Then they carry it out.

A plan that is made is carried out, or refused for what the account itself holds and has
allowed (`Movement.refusal`). The registry can pay what it has locked, and no balance
leaves its range as long as all that is held of a token is in range. So what others do
makes no difference.
-/

namespace ReporterRegistry

open Registry RecordStore

/-! ### Movements of tokens -/

namespace Ledger

/-- All that is held of a token could be one amount. -/
def InRange (ledger : Ledger) : Prop := ∀ token, ledger.supply token < 2 ^ 128

/-- In range, a payer that can pay somebody else does. -/
theorem exists_move {ledger : Ledger} (hrange : ledger.InRange) {token payer payee : Account}
    {amount : Amount} (hne : payer ≠ payee) (hfunds : ¬ ledger.balance token payer < amount) :
    ∃ next, ledger.move token payer payee amount = .ok next := by
  cases hmove : ledger.move token payer payee amount with
  | ok next => exact ⟨next, rfl⟩
  | error error =>
      rcases move_eq_error hmove with ⟨hshort, -⟩ | ⟨-, -, hfull, -⟩
      · exact absurd hshort hfunds
      · have htotal := balance_add_balance_le_supply ledger token hne
        have hbound := hrange token
        rw [BitVec.lt_def] at hfunds
        omega

/-- The ledgers are the same for a holder and for what the registry may pull from it. -/
structure SameFor (settings : Settings) (holder : Account) (ledger ledger' : Ledger) : Prop where
  balance : ∀ token, ledger'.balance token holder = ledger.balance token holder
  allowance : ∀ token, ledger'.allowance token holder settings.custody
    = ledger.allowance token holder settings.custody

end Ledger

/-- What an operation does with the tokens of an account. -/
inductive Movement where
  | none
  /-- The registry pulls an amount. -/
  | lock (token : Account) (amount : Amount)
  /-- The registry pays an amount. -/
  | release (token : Account) (amount : Amount)
  deriving DecidableEq, Repr

namespace Movement

section

variable (settings : Settings) (holder : Account)

/-- The ledger after a movement. -/
def apply (ledger : Ledger) : Movement → Except RegistryError Ledger
  | .none => .ok ledger
  | .lock token amount => ledger.lock settings token holder amount
  | .release token amount => ledger.release settings token holder amount

/-- What a movement takes from somebody. -/
def debit (token other : Account) : Movement → Nat
  | .none => 0
  | .lock moved amount => if token = moved ∧ other = holder then amount.toNat else 0
  | .release moved amount => if token = moved ∧ other = settings.custody then amount.toNat else 0

/-- What a movement gives to somebody. -/
def credit (token other : Account) : Movement → Nat
  | .none => 0
  | .lock moved amount => if token = moved ∧ other = settings.custody then amount.toNat else 0
  | .release moved amount => if token = moved ∧ other = holder then amount.toNat else 0

/-- How much of an allowance a movement uses. -/
def spent (token owner spender : Account) : Movement → Nat
  | .lock moved amount =>
    if (token, owner, spender) = (moved, holder, settings.custody) then amount.toNat else 0
  | _ => 0

/-- Why a movement is refused, as far as the account itself is the reason. -/
def refusal (ledger : Ledger) : Movement → Option RegistryError
  | .lock token amount =>
    if 0 < amount then
      if token.isZero then some .stakeTokenNotSet
      else if ledger.allowance token holder settings.custody < amount then
        some (.insufficientAllowance amount (ledger.allowance token holder settings.custody))
      else if ledger.balance token holder < amount then
        some (.transferFailed (.insufficientBalance amount (ledger.balance token holder)))
      else .none
    else .none
  | _ => .none

/-- The registry has what it is to pay. -/
def Payable (ledger : Ledger) : Movement → Prop
  | .release token amount => ¬ ledger.balance token settings.custody < amount
  | _ => True

end

variable {settings : Settings} {holder : Account} {ledger next : Ledger} {movement : Movement}

/-- A movement takes and gives what it says, and changes no other balance. -/
theorem toNat_balance_of_apply (hne : holder ≠ settings.custody)
    (h : movement.apply settings holder ledger = .ok next) (token other : Account) :
    (next.balance token other).toNat + movement.debit settings holder token other
      = (ledger.balance token other).toNat + movement.credit settings holder token other := by
  cases movement with
  | none =>
      cases h
      rfl
  | lock moved amount =>
      simp only [debit, credit]
      rcases Ledger.lock_eq_ok_iff.mp h with ⟨hamount, rfl⟩ | ⟨-, -, hpull⟩
      · rw [Ledger.toNat_of_not_pos hamount, ite_self, ite_self]
      · obtain ⟨after, hmove, hbalance⟩ := Ledger.balance_of_transferFrom hpull
        have heffect := Ledger.toNat_balance_of_move hmove token other
        simpa only [hbalance, hne, ne_eq, not_false_eq_true, true_and] using heffect
  | release moved amount =>
      simp only [debit, credit]
      rcases Ledger.release_eq_ok_iff.mp h with ⟨hamount, rfl⟩ | ⟨-, hmove⟩
      · rw [Ledger.toNat_of_not_pos hamount, ite_self, ite_self]
      · have heffect := Ledger.toNat_balance_of_move hmove token other
        simpa only [hne.symm, ne_eq, not_false_eq_true, true_and] using heffect

/-- A movement uses up what it pulls of the registry's allowance, and nothing of any other. -/
theorem toNat_allowance_of_apply (h : movement.apply settings holder ledger = .ok next)
    (token owner spender : Account) :
    (next.allowance token owner spender).toNat + movement.spent settings holder token owner spender
      = (ledger.allowance token owner spender).toNat := by
  cases movement with
  | none =>
      cases h
      rfl
  | lock moved amount =>
      simp only [spent]
      rcases Ledger.lock_eq_ok_iff.mp h with ⟨hamount, rfl⟩ | ⟨-, -, hpull⟩
      · rw [Ledger.toNat_of_not_pos hamount, ite_self, Nat.add_zero]
      · by_cases hsame : (token, owner, spender) = (moved, holder, settings.custody)
        · cases hsame
          rw [if_pos rfl]
          exact Ledger.toNat_allowance_of_transferFrom hpull
        · rw [if_neg hsame, Nat.add_zero, (OnlyEntries.transferFrom hpull).allowance]
          rintro ⟨rfl, hmem⟩
          obtain ⟨rfl, rfl⟩ := Prod.mk.inj (List.mem_singleton.mp hmem)
          exact hsame rfl
  | release moved amount =>
      have hkept : next.allowance token owner spender = ledger.allowance token owner spender :=
        (OnlyEntries.release h).allowance token owner spender (by simp)
      rw [hkept]
      rfl

theorem supply_of_apply (h : movement.apply settings holder ledger = .ok next) (token : Account) :
    next.supply token = ledger.supply token := by
  cases movement with
  | none =>
      cases h
      rfl
  | lock moved amount =>
      rcases Ledger.lock_eq_ok_iff.mp h with ⟨-, rfl⟩ | ⟨-, -, hpull⟩
      · rfl
      · exact Ledger.supply_of_transferFrom hpull token
  | release moved amount =>
      rcases Ledger.release_eq_ok_iff.mp h with ⟨-, rfl⟩ | ⟨-, hmove⟩
      · rfl
      · exact Ledger.supply_of_move hmove token

theorem inRange_of_apply (h : movement.apply settings holder ledger = .ok next)
    (hrange : ledger.InRange) : next.InRange := by
  intro token
  rw [supply_of_apply h]
  exact hrange token

/-- For anybody but the account and the registry, nothing has happened. -/
theorem sameFor_of_apply (h : movement.apply settings holder ledger = .ok next)
    {other : Account} (hholder : other ≠ holder) (hcustody : other ≠ settings.custody)
    (hne : holder ≠ settings.custody) : Ledger.SameFor settings other ledger next where
  balance token := by
    have heffect := toNat_balance_of_apply hne h token other
    refine BitVec.eq_of_toNat_eq ?_
    cases movement <;> simpa [debit, credit, hholder, hcustody] using heffect
  allowance token := by
    have heffect := toNat_allowance_of_apply h token other settings.custody
    refine BitVec.eq_of_toNat_eq ?_
    cases movement <;> simpa [spent, hholder] using heffect

/-- **A movement is refused for a reason of the account itself, or it takes place**, if the
registry has what it is to pay and the ledger is in range. -/
theorem apply_cases (hne : holder ≠ settings.custody) (hrange : ledger.InRange)
    (hpayable : movement.Payable settings ledger) :
    match movement.refusal settings holder ledger with
    | some error => movement.apply settings holder ledger = .error error
    | .none => ∃ next, movement.apply settings holder ledger = .ok next := by
  cases movement with
  | none => exact ⟨ledger, rfl⟩
  | lock token amount =>
      simp only [refusal, apply, Ledger.lock]
      by_cases hamount : 0 < amount
      · simp only [if_pos hamount]
        cases htoken : token.isZero with
        | true => rfl
        | false =>
            simp only [Bool.false_eq_true, if_false, Ledger.transferFrom]
            by_cases hallowed : ledger.allowance token holder settings.custody < amount
            · simp only [if_pos hallowed]
              rfl
            by_cases hfunds : ledger.balance token holder < amount
            · simp only [if_neg hallowed, if_pos hfunds, Ledger.move]
              rfl
            · obtain ⟨moved, hmove⟩ := Ledger.exists_move hrange hne hfunds
              simp only [if_neg hallowed, if_neg hfunds, hmove]
              exact ⟨_, rfl⟩
      · simp only [if_neg hamount]
        exact ⟨ledger, rfl⟩
  | release token amount =>
      simp only [refusal, apply, Ledger.release]
      by_cases hamount : 0 < amount
      · obtain ⟨moved, hmove⟩ := Ledger.exists_move hrange hne.symm hpayable
        simp only [if_pos hamount, hmove]
        exact ⟨moved, rfl⟩
      · simp only [if_neg hamount]
        exact ⟨ledger, rfl⟩

/-- A refusal depends on the account's own entries alone. -/
theorem refusal_congr {ledger' : Ledger} (h : Ledger.SameFor settings holder ledger ledger') :
    movement.refusal settings holder ledger' = movement.refusal settings holder ledger := by
  cases movement <;> simp only [refusal, h.balance, h.allowance]

end Movement

/-! ### Plans -/

/-- What an operation of a reporter's own account is going to do. -/
structure Plan where
  next : Reporter
  movement : Movement
  event : Event
  outcome : Outcome

/-- The change of a plan that leaves a ledger. -/
def Plan.change (plan : Plan) (world : World MemoryStore Ledger) (ledger : Ledger) : Change :=
  ⟨world.store.withReporter plan.next, ledger, plan.event, plan.outcome⟩

/-- The plan, unless its movement is refused. -/
def Plan.unlessRefused (settings : Settings) (caller : Account) (ledger : Ledger) (plan : Plan) :
    Except RegistryError Plan :=
  match plan.movement.refusal settings caller ledger with
  | some error => .error error
  | none => .ok plan

theorem Plan.eq_of_unlessRefused {settings : Settings} {caller : Account} {ledger : Ledger}
    {plan plan' : Plan} (h : plan.unlessRefused settings caller ledger = .ok plan') :
    plan = plan' := by
  unfold unlessRefused at h
  cases hrefusal : plan.movement.refusal settings caller ledger with
  | some error =>
      rw [hrefusal] at h
      cases h
  | none =>
      rw [hrefusal] at h
      exact Except.ok.inj h

/-- An operation of a reporter's own account. -/
inductive SelfService where
  | activate
  | deactivate
  | unstake
  deriving DecidableEq, Repr

namespace SelfService

/-- The operation, with its arguments. -/
def operation (caller : Account) (id : ReporterId) : SelfService → Operation
  | .activate => .activateReporter caller id
  | .deactivate => .deactivateReporter caller id
  | .unstake => .unstakeReporter caller id

/-- The plan for a reporter. -/
def planFor (config : Configuration) (now : Seconds) (id : ReporterId) (previous : Reporter) :
    SelfService → Except RegistryError Plan
  | .activate => do
    if previous.status ≠ .inactive then throw (.alreadyActive id)
    let amount := config.stake.required previous.role
    let next := activated previous config.stake amount
    return ⟨next, .lock config.stake.token amount, .reporterActivated id next.account amount,
      .reporter next⟩
  | .deactivate => do
    if previous.status ≠ .active then throw (.invalidTransition id previous.status .deactivate)
    let unlockTime := config.stake.unlockAt now
    let next := Operation.released previous unlockTime
    return ⟨next, .none, .reporterDeactivated id unlockTime, .reporter next⟩
  | .unstake => do
    if previous.status ≠ .unstaking then
      throw (.invalidTransition id previous.status .unstake)
    if now < previous.unlockTime then throw (.unlockPending id previous.unlockTime)
    let amount := previous.stake
    if 0 < amount ∧ previous.stakeToken.isZero then throw .stakeTokenNotSet
    return ⟨previous.withoutStake, .release previous.stakeToken amount,
      .stakeWithdrawn id previous.account amount, .amount amount⟩

/-- The plan of a caller. -/
def plan (world : World MemoryStore Ledger) (caller : Account) (id : ReporterId)
    (step : SelfService) : Except RegistryError Plan := do
  let config ← world.configuration
  let previous ← world.reporter id
  checkStanding .reporterAccount (previous.account = caller)
  step.planFor config world.now id previous

variable {settings : Settings} {world : World MemoryStore Ledger} {caller : Account}
  {id : ReporterId} {step : SelfService} {plan : Plan}

/-- **The verdict on an operation is a plan and its movement.** -/
theorem verdict_eq (settings : Settings) (world : World MemoryStore Ledger) (caller : Account)
    (id : ReporterId) (step : SelfService) :
    (step.operation caller id).verdict settings world = (do
      let plan ← step.plan world caller id
      let ledger ← plan.movement.apply settings caller world.ledger
      return plan.change world ledger) := by
  -- Both begin by reading and checking in the same way; what is left is the plan itself.
  cases step with
  | activate =>
      simp only [operation, Operation.verdict, SelfService.plan, bind_assoc]
      refine bind_congr fun config => bind_congr fun previous => bind_congr fun _ => ?_
      by_cases hstatus : previous.status ≠ .inactive
      · simp only [planFor, if_pos hstatus]
        rfl
      · simp only [planFor, if_neg hstatus]
        rfl
  | deactivate =>
      simp only [operation, Operation.verdict, SelfService.plan, bind_assoc]
      refine bind_congr fun config => bind_congr fun previous => bind_congr fun _ => ?_
      by_cases hstatus : previous.status ≠ .active
      · simp only [planFor, if_pos hstatus]
        rfl
      · simp only [planFor, if_neg hstatus]
        rfl
  | unstake =>
      simp only [operation, Operation.verdict, SelfService.plan, bind_assoc]
      refine bind_congr fun config => bind_congr fun previous => bind_congr fun _ => ?_
      by_cases hstatus : previous.status ≠ .unstaking
      · simp only [planFor, if_pos hstatus]
        rfl
      by_cases htime : world.now < previous.unlockTime
      · simp only [planFor, if_neg hstatus, if_pos htime]
        rfl
      by_cases htoken : 0 < previous.stake ∧ previous.stakeToken.isZero = true
      · simp only [planFor, if_neg hstatus, if_neg htime, if_pos htoken]
        rfl
      · simp only [planFor, if_neg hstatus, if_neg htime, if_neg htoken]
        rfl

/-- What a plan was made from. -/
theorem plan_inv (h : step.plan world caller id = .ok plan) :
    ∃ config previous, world.store.config = some config ∧
      world.store.reporters.get? id = some previous ∧ previous.account = caller ∧
      step.planFor config world.now id previous = .ok plan := by
  simp only [SelfService.plan, bind_eq_ok_iff, World.configuration_eq_ok_iff,
    World.reporter_eq_ok_iff, checkStanding_eq_ok_iff, decide_eq_true_eq] at h
  obtain ⟨config, hconfig, previous, hprevious, -, hcaller, hplan⟩ := h
  exact ⟨config, previous, hconfig, hprevious, hcaller, hplan⟩

/-- A plan changes the reporter that it is for. If it pays, it pays the stake. -/
theorem planFor_inv {config : Configuration} {now : Seconds} {previous : Reporter}
    (h : step.planFor config now id previous = .ok plan) :
    plan.next.id = previous.id ∧
      ∀ token amount, plan.movement = .release token amount →
        token = previous.stakeToken ∧ amount = previous.stake := by
  cases step with
  | activate =>
      simp only [planFor, throwIf_eq_ok_iff] at h
      obtain ⟨-, h⟩ := h
      cases h
      exact ⟨rfl, nofun⟩
  | deactivate =>
      simp only [planFor, throwIf_eq_ok_iff] at h
      obtain ⟨-, h⟩ := h
      cases h
      exact ⟨rfl, nofun⟩
  | unstake =>
      simp only [planFor, throwIf_eq_ok_iff] at h
      obtain ⟨-, -, -, h⟩ := h
      cases h
      refine ⟨rfl, ?_⟩
      rintro token amount ⟨⟩
      exact ⟨rfl, rfl⟩

/-- Plans are made from the configuration, the time, and one record. -/
theorem plan_congr {world' : World MemoryStore Ledger}
    (hconfig : world'.store.config = world.store.config) (hnow : world'.now = world.now)
    (hrecord : world'.store.reporters.get? id = world.store.reporters.get? id) :
    step.plan world' caller id = step.plan world caller id := by
  simp only [SelfService.plan, World.configuration, World.reporter, hconfig, hnow, hrecord]

/-- What is planned to be paid is there. -/
theorem payable_of_plan (hcovered : Covered settings world) (hsound : world.store.Sound)
    (hcaller : caller ≠ settings.custody) (h : step.plan world caller id = .ok plan) :
    plan.movement.Payable settings world.ledger := by
  obtain ⟨config, previous, -, hprevious, haccount, hplan⟩ := plan_inv h
  obtain ⟨-, hpays⟩ := planFor_inv hplan
  cases hmovement : plan.movement with
  | none => trivial
  | lock token amount => trivial
  | release token amount =>
      obtain ⟨rfl, rfl⟩ := hpays token amount hmovement
      have hclaim := MemoryStore.claim_le_owed (hsound.get?_id hprevious) settings.custody
        previous.stakeToken
      rw [Reporter.claim, if_pos ⟨rfl, haccount ▸ hcaller⟩] at hclaim
      exact BitVec.not_lt.mpr (Nat.le_trans hclaim (hcovered.solvent previous.stakeToken))

end SelfService

/-! ### Decisions -/

/-- The answer of a result, without the state. -/
def answered {ω ε α : Type} : EStateM.Result ε ω α → Except ε α
  | .ok a _ => .ok a
  | .error error _ => .error error

namespace SelfService

variable {σ : Type} [Store σ] {settings : Settings} {caller : Account} {id : ReporterId}
  {step : SelfService} {plan : Plan}

/-- What is decided in a world that shows records: an error, or the plan that is carried
out. -/
def decision (settings : Settings) (records : World MemoryStore Ledger) (world : World σ Ledger)
    (caller : Account) (id : ReporterId) (step : SelfService) : Except RegistryError Plan := do
  let _ ← (answered (Store.reporter id world.store)).mapError RegistryError.store
  let plan ← step.plan records caller id
  plan.unlessRefused settings caller records.ledger

/-- An operation fails if it cannot read the reporter. -/
theorem run_of_read_error {world : World σ Ledger} {config : Configuration}
    {error : RegistryError} (hconfig : Registry.configuration world = .ok config world)
    (hread : Registry.reporter id world = .error error world) :
    (step.operation caller id).run settings world = .error error world := by
  cases step <;>
    simp only [operation, Operation.run, activateReporter, deactivateReporter, unstakeReporter,
      Functor.map, EStateM.map, bind, EStateM.bind, hconfig, hread]

variable [RecordStore σ] {records : World MemoryStore Ledger} {world : World σ Ledger}

/-- An operation follows its verdict if it can read the reporter. -/
theorem follows_run {store : σ} (h : Holds records.store store) (hreads : Reads id records store) :
    Follows (fun outcome => outcome) ((step.operation caller id).run settings)
      ((step.operation caller id).verdict settings records) records store := by
  cases step with
  | activate => exact (follows_activateReporter h caller hreads).map
  | deactivate => exact (follows_deactivateReporter settings h caller hreads).map
  | unstake => exact (follows_unstakeReporter h caller hreads).map

/-- What the operations rely on: the books are kept, and the ledger is in range. -/
structure Prepared (settings : Settings) (records : World MemoryStore Ledger) : Prop where
  covered : Covered settings records
  range : records.ledger.InRange

/-- An operation carried out a plan. -/
structure Carried (settings : Settings) (operation : Operation) (caller : Account) (plan : Plan)
    (records : World MemoryStore Ledger) (world : World σ Ledger)
    (records' : World MemoryStore Ledger) (world' : World σ Ledger) : Prop where
  run : operation.run settings world = .ok plan.outcome world'
  shows : Shows records' world'
  prepared : Prepared settings records'
  store : records'.store = records.store.withReporter plan.next
  ledger : plan.movement.apply settings caller records.ledger = .ok records'.ledger
  now : records'.now = records.now
  outbox : records'.outbox = records.outbox.emit plan.event

/-- An operation does what was decided. It fails and leaves the world as it was, or it
carries out the plan. -/
def Does (settings : Settings) (operation : Operation) (caller : Account)
    (records : World MemoryStore Ledger) (world : World σ Ledger) :
    Except RegistryError Plan → Prop
  | .error error => operation.run settings world = .error error world
  | .ok plan => ∃ records' world',
      Carried settings operation caller plan records world records' world'

/-- A plan that is not refused is carried out. -/
theorem carried_of_verdict (h : Shows records world) (hprepared : Prepared settings records)
    {ledger : Ledger} (hverdict : (step.operation caller id).verdict settings records
      = .ok (plan.change records ledger))
    (hledger : plan.movement.apply settings caller records.ledger = .ok ledger) {store : σ}
    (hrun : (step.operation caller id).run settings world
      = .ok plan.outcome (((plan.change records ledger).commit records).withStore store))
    (hholds : (∀ config, (plan.change records ledger).store.config = some config →
      RecordStore.Fits σ config) → Holds (plan.change records ledger).store store) :
    Carried settings (step.operation caller id) caller plan records world
      ((plan.change records ledger).commit records)
      (((plan.change records ledger).commit records).withStore store) where
  run := hrun
  shows := ⟨hholds fun _ hconfig => RecordStore.fits h.holds hconfig, rfl⟩
  prepared := ⟨hprepared.covered.grant (RecordStore.sound h.holds) (grant_of_verdict hverdict),
    Movement.inRange_of_apply hledger hprepared.range⟩
  store := rfl
  ledger := hledger
  now := rfl
  outbox := rfl

/-- What a plan comes to is decided before it is carried out. -/
theorem verdict_of_plan (hprepared : Prepared settings records) (hsound : records.store.Sound)
    (hcaller : caller ≠ settings.custody) (hplan : step.plan records caller id = .ok plan) :
    (∃ error, plan.unlessRefused settings caller records.ledger = .error error ∧
      (step.operation caller id).verdict settings records = .error error) ∨
    (plan.unlessRefused settings caller records.ledger = .ok plan ∧
      ∃ ledger, plan.movement.apply settings caller records.ledger = .ok ledger ∧
        (step.operation caller id).verdict settings records
          = .ok (plan.change records ledger)) := by
  have happly := Movement.apply_cases hcaller hprepared.range
    (payable_of_plan hprepared.covered hsound hcaller hplan)
  rw [verdict_eq, hplan, ok_bind, Plan.unlessRefused]
  cases hrefusal : plan.movement.refusal settings caller records.ledger with
  | some error =>
      rw [hrefusal] at happly
      refine Or.inl ⟨error, rfl, ?_⟩
      rw [happly]
      rfl
  | none =>
      rw [hrefusal] at happly
      obtain ⟨ledger, hledger⟩ := happly
      refine Or.inr ⟨rfl, ledger, hledger, ?_⟩
      rw [hledger]
      rfl

/-- An operation that can read the reporter carries out its plan, unless that is refused. -/
theorem does_plan (h : Shows records world) (hprepared : Prepared settings records)
    (haccount : ∀ {previous}, records.store.reporters.get? id = some previous →
      previous.account ≠ settings.custody) (hreads : Reads id records world.store) :
    Does settings (step.operation caller id) caller records world
      (step.plan records caller id >>= Plan.unlessRefused settings caller records.ledger) := by
  have hsound := RecordStore.sound h.holds
  have hfollows : Follows (fun outcome => outcome) ((step.operation caller id).run settings)
      ((step.operation caller id).verdict settings records) records world.store :=
    follows_run h.holds hreads
  unfold Follows at hfollows
  rw [← h.same] at hfollows
  cases hplan : step.plan records caller id with
  | error error =>
      rw [verdict_eq, hplan] at hfollows
      exact hfollows
  | ok plan =>
      obtain ⟨_, previous, -, hprevious, rfl, -⟩ := plan_inv hplan
      rw [ok_bind]
      rcases verdict_of_plan hprepared hsound (haccount hprevious) hplan with
        ⟨error, hrefused, hverdict⟩ | ⟨haccepted, ledger, hledger, hverdict⟩
      · rw [hverdict] at hfollows
        rw [hrefused]
        exact hfollows
      · rw [hverdict] at hfollows
        obtain ⟨_, store, hrun, rfl, hholds⟩ := hfollows
        rw [haccepted]
        exact ⟨_, _, carried_of_verdict h hprepared hverdict hledger hrun hholds⟩

/-- **An operation does what is decided.** -/
theorem does_decision (h : Shows records world) (hprepared : Prepared settings records)
    (haccount : ∀ {previous}, records.store.reporters.get? id = some previous →
      previous.account ≠ settings.custody) :
    Does settings (step.operation caller id) caller records world
      (step.decision settings records world caller id) := by
  rw [decision]
  rcases RecordStore.reporter h.holds id with hread | ⟨error, hread⟩
  · rw [hread]
    exact does_plan h hprepared haccount (reporter_of_read hread)
  · obtain ⟨config, hconfig⟩ := hprepared.covered.configured
    have hsettles := configuration_settles h.holds
    rw [← h.same, World.configuration_eq_ok_iff.mpr hconfig] at hsettles
    rw [hread]
    refine run_of_read_error hsettles ?_
    simp only [Registry.reporter, bind, EStateM.bind, onStore, hread]

end SelfService

end ReporterRegistry
