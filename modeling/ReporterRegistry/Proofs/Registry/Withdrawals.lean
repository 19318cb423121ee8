import ReporterRegistry.Proofs.Ledger.Supply
import ReporterRegistry.Proofs.Registry.Run

/-!
# What a withdrawal pays back

A run leaves a log of the operations that succeeded. In the log, a withdrawal is
preceded by an activation of the same reporter that locked what the withdrawal
pays back: the same amount, in the same token, from the account that is paid. On
the way from one to the other the reporter was deactivated once, and nothing else
happened to it. So there is an activation between any two withdrawals.

The induction is on the run. It carries, for every reporter whose stake is locked,
the activation that locked it (`Locked`): the record of the reporter says what was
taken, and the log what has happened to the reporter since.

Activation and withdrawal are compared by the ledger calls they made, and then by what
these calls did to balances (`withdrawal_returns_amount`).
-/

namespace ReporterRegistry

/-! ### Logs -/

/-- An operation that succeeded, with the world before and after. -/
structure Success where
  operation : Operation
  outcome : Outcome
  before : World MemoryStore Ledger
  after : World MemoryStore Ledger

/-- The success that a turn is, if it is one. -/
def Turn.success? (settings : Settings) (world : World MemoryStore Ledger) : Turn → Option Success
  | .operate operation =>
    match operation.run settings world with
    | .ok outcome after => some ⟨operation, outcome, world, after⟩
    | .error _ _ => none
  | _ => none

/-- The log of a run. -/
def World.log (settings : Settings) (world : World MemoryStore Ledger) : List Turn → List Success
  | [] => []
  | turn :: turns =>
    (turn.success? settings world).toList ++ log settings (turn.apply settings world) turns

/-- What may be done to a reporter. -/
inductive CourseStep where
  | create
  | update
  | activate
  | deactivate
  | unstake
  deriving DecidableEq, Repr

/-- What an operation does to a reporter. -/
def Operation.courseStep? (id : ReporterId) : Operation → Option CourseStep
  | .createReporter _ other _ _ _ _ => if other = id then some .create else none
  | .updateReporter _ other _ _ _ _ => if other = id then some .update else none
  | .activateReporter _ other => if other = id then some .activate else none
  | .deactivateReporter _ other => if other = id then some .deactivate else none
  | .unstakeReporter _ other => if other = id then some .unstake else none
  | _ => none

/-- What was done to a reporter. -/
def course (id : ReporterId) (log : List Success) : List CourseStep :=
  log.filterMap fun entry => entry.operation.courseStep? id

theorem course_append (id : ReporterId) (log later : List Success) :
    course id (log ++ later) = course id log ++ course id later :=
  List.filterMap_append

/-! ### Locked stakes -/

/-- The log has the activation that locked a reporter's stake, followed by these
steps. -/
def Locked (settings : Settings) (id : ReporterId) (reporter : Reporter) (since : List CourseStep)
    (log : List Success) : Prop :=
  ∃ before lock between, log = before ++ lock :: between ∧
    lock.operation = .activateReporter reporter.account id ∧
    (∃ activated, lock.outcome = .reporter activated ∧ activated.stake = reporter.stake) ∧
    lock.before.ledger.lock settings reporter.stakeToken reporter.account reporter.stake
      = .ok lock.after.ledger ∧
    course id between = since

/-- The entry pays back what an activation in the log before it locked. -/
def PaidBack (settings : Settings) (earlier : List Success) (entry : Success) : Prop :=
  ∀ caller id, entry.operation = .unstakeReporter caller id →
    ∃ reporter : Reporter, reporter.account = caller ∧ entry.outcome = .amount reporter.stake ∧
      entry.before.ledger.release settings reporter.stakeToken reporter.account reporter.stake
        = .ok entry.after.ledger ∧
      Locked settings id reporter [.deactivate] earlier

variable {settings : Settings} {id : ReporterId} {reporter : Reporter} {since : List CourseStep}
  {log : List Success}

/-- A locked stake stays locked while the log gets longer. -/
theorem Locked.append (h : Locked settings id reporter since log) (later : List Success) :
    Locked settings id reporter (since ++ course id later) (log ++ later) := by
  obtain ⟨before, lock, between, rfl, hoperation, houtcome, hledger, hcourse⟩ := h
  refine ⟨before, lock, between ++ later, ?_, hoperation, houtcome, hledger, ?_⟩
  · rw [List.append_assoc, List.cons_append]
  · rw [course_append, hcourse]

theorem Locked.concat (h : Locked settings id reporter since log) {last : Success}
    (hlast : last.operation.courseStep? id = none) :
    Locked settings id reporter since (log ++ [last]) := by
  have happend := h.append [last]
  have hnothing : course id [last] = [] := List.filterMap_cons_none hlast
  rwa [hnothing, List.append_nil] at happend

theorem Locked.deactivate (h : Locked settings id reporter [] log) {last : Success}
    (hlast : last.operation.courseStep? id = some .deactivate) :
    Locked settings id reporter [.deactivate] (log ++ [last]) := by
  have happend := h.append [last]
  have hstep : course id [last] = [.deactivate] := List.filterMap_cons_some hlast
  rwa [hstep, List.nil_append] at happend

/-- Every withdrawal in a log pays back what was locked before. -/
def Paid (settings : Settings) (log : List Success) : Prop :=
  ∀ earlier entry later, log = earlier ++ entry :: later → PaidBack settings earlier entry

theorem Paid.nil : Paid settings [] := by
  intro earlier entry later h
  simp at h

theorem Paid.concat (h : Paid settings log) {last : Success} (hlast : PaidBack settings log last) :
    Paid settings (log ++ [last]) := by
  intro earlier entry later hlog
  rcases List.eq_nil_or_concat later with rfl | ⟨later, e, rfl⟩
  · obtain ⟨rfl, hentry⟩ := List.append_inj' hlog rfl
    cases hentry
    exact hlast
  · have hsplit : log ++ [last] = (earlier ++ entry :: later) ++ [e] := by
      rw [hlog, List.concat_eq_append, List.append_assoc, List.cons_append]
    exact h earlier entry later (List.append_inj' hsplit rfl).1

/-! ### The invariant -/

/-- The records agree with the log: every stake that is locked was locked by an
activation, and every withdrawal paid back what was locked. -/
structure Books (settings : Settings) (log : List Success) (store : MemoryStore) : Prop where
  active : ∀ {id : ReporterId} {reporter : Reporter}, store.reporters.get? id = some reporter →
    reporter.status = .active → Locked settings id reporter [] log
  unstaking : ∀ {id : ReporterId} {reporter : Reporter}, store.reporters.get? id = some reporter →
    reporter.status = .unstaking → Locked settings id reporter [.deactivate] log
  paid : Paid settings log

namespace Books

variable {store : MemoryStore} {last : Success}

theorem empty (settings : Settings) (config : Configuration) :
    Books settings [] (MemoryStore.empty.withConfiguration config) where
  active h := by simp [MemoryStore.empty] at h
  unstaking h := by simp [MemoryStore.empty] at h
  paid := Paid.nil

/-- An operation that is about no reporter leaves the agreement alone. -/
theorem withConfiguration (h : Books settings log store) (config : Configuration)
    (hnone : ∀ id, last.operation.courseStep? id = none) (hpaid : PaidBack settings log last) :
    Books settings (log ++ [last]) (store.withConfiguration config) where
  active hfound hstatus := (h.active hfound hstatus).concat (hnone _)
  unstaking hfound hstatus := (h.unstaking hfound hstatus).concat (hnone _)
  paid := h.paid.concat hpaid

/-- After an operation that is about one reporter, the agreement is only in question
for that reporter. -/
theorem withReporter (h : Books settings log store)
    (hothers : ∀ id, id ≠ reporter.id → last.operation.courseStep? id = none)
    (hactive : reporter.status = .active →
      Locked settings reporter.id reporter [] (log ++ [last]))
    (hunstaking : reporter.status = .unstaking →
      Locked settings reporter.id reporter [.deactivate] (log ++ [last]))
    (hpaid : PaidBack settings log last) :
    Books settings (log ++ [last]) (store.withReporter reporter) where
  active {id found} hfound hstatus := by
    rcases MemoryStore.get?_withReporter_cases hfound with ⟨rfl, rfl⟩ | ⟨hid, hfound⟩
    · exact hactive hstatus
    · exact (h.active hfound hstatus).concat (hothers id hid)
  unstaking {id found} hfound hstatus := by
    rcases MemoryStore.get?_withReporter_cases hfound with ⟨rfl, rfl⟩ | ⟨hid, hfound⟩
    · exact hunstaking hstatus
    · exact (h.unstaking hfound hstatus).concat (hothers id hid)
  paid := h.paid.concat hpaid

end Books

/-! ### Every step keeps the agreement -/

/-- Locking a stake goes by the token that is recorded with it. -/
theorem Ledger.lock_activated (settings : Settings) (previous : Reporter) (terms : StakeTerms)
    (payer : Account) (amount : Amount) (ledger : Ledger) :
    ledger.lock settings (Registry.activated previous terms amount).stakeToken payer amount
      = ledger.lock settings terms.token payer amount := by
  unfold lock
  by_cases hpos : 0 < amount
  · simp only [Registry.activated, if_pos hpos]
  · simp only [if_neg hpos]

/-- What a granted operation leaves in the log. -/
def Change.success (change : Change) (operation : Operation) (world : World MemoryStore Ledger) :
    Success :=
  ⟨operation, change.outcome, world, change.commit world⟩

namespace Books

variable {world : World MemoryStore Ledger} {operation : Operation} {change : Change}

/-- A withdrawal that is granted pays back what was locked. -/
theorem paidBack_of_grant (h : Books settings log world.store)
    (hgrant : Grant settings world operation change) :
    PaidBack settings log (change.success operation world) := by
  intro caller id hoperation
  have hunstake : operation = .unstakeReporter caller id := hoperation
  subst hunstake
  cases hgrant with
  | unstakeReporter _ hprevious hstatus _ _ hrelease =>
      exact ⟨_, rfl, rfl, hrelease, h.unstaking hprevious hstatus⟩

/-- **Every granted operation keeps the agreement** between the records and the log. -/
theorem grant (h : Books settings log world.store) (hsound : world.store.Sound)
    (hgrant : Grant settings world operation change) :
    Books settings (log ++ [change.success operation world]) change.store := by
  have hpaid := h.paidBack_of_grant hgrant
  cases hgrant with
  | setAuthority => exact h.withConfiguration _ (fun _ => rfl) hpaid
  | updateStakeTerms => exact h.withConfiguration _ (fun _ => rfl) hpaid
  | updateRewardTerms => exact h.withConfiguration _ (fun _ => rfl) hpaid
  | createReporter =>
      exact h.withReporter (fun _ hne => if_neg (Ne.symm hne)) nofun nofun hpaid
  | updateReporter _ _ _ hprevious =>
      obtain rfl := hsound.keyed hprevious
      exact h.withReporter (fun _ hne => if_neg (Ne.symm hne)) nofun nofun hpaid
  | activateReporter _ hprevious _ hlock =>
      obtain rfl := hsound.keyed hprevious
      refine h.withReporter (fun _ hne => if_neg (Ne.symm hne)) ?_ nofun hpaid
      intro _
      refine ⟨log, _, [], rfl, rfl, ⟨_, rfl, rfl⟩, ?_, rfl⟩
      exact (Ledger.lock_activated settings _ _ _ _ _).trans hlock
  | deactivateReporter _ hprevious hstatus =>
      obtain rfl := hsound.keyed hprevious
      refine h.withReporter (fun _ hne => if_neg (Ne.symm hne)) nofun ?_ hpaid
      intro _
      exact (h.active hprevious hstatus).deactivate (if_pos rfl)
  | unstakeReporter _ hprevious =>
      obtain rfl := hsound.keyed hprevious
      exact h.withReporter (fun _ hne => if_neg (Ne.symm hne)) nofun nofun hpaid

theorem effect (h : Books settings log world.store) (hsound : world.store.Sound) {turn : Turn}
    {next : World MemoryStore Ledger} (heffect : Effect settings world turn next) :
    Books settings (log ++ (turn.success? settings world).toList) next.store := by
  cases heffect with
  | @refused operation error hrun =>
      have hnone : (Turn.operate operation).success? settings world = none := by
        simp only [Turn.success?, hrun]
      rw [hnone, Option.toList_none, List.append_nil]
      exact h
  | @granted operation change hgrant hrun =>
      have hsome : (Turn.operate operation).success? settings world
          = some (change.success operation world) := by
        simp only [Turn.success?, hrun, Change.success]
      rw [hsome, Option.toList_some]
      exact h.grant hsound hgrant
  | ledger call =>
      rw [Turn.success?, Option.toList_none, List.append_nil]
      · exact h
      · simp
  | aside hturn =>
      have hnone : turn.success? settings world = none := by
        cases turn with
        | operate operation => exact absurd rfl (hturn operation)
        | ledger call => rfl
        | clock change => rfl
        | drain => rfl
        | subscribe => rfl
        | reopen => rfl
      rw [hnone, Option.toList_none, List.append_nil]
      exact h

/-- **The agreement holds after every run.** -/
theorem run (h : Books settings log world.store) (hsound : world.store.Sound)
    (turns : List Turn) :
    Books settings (log ++ world.log settings turns) (world.run settings turns).store := by
  induction turns generalizing world log with
  | nil =>
      rw [World.log, List.append_nil]
      exact h
  | cons turn turns ih =>
      have heffect := effect_apply settings hsound turn
      have hnext := ih (h.effect hsound heffect) (heffect.sound hsound)
      rw [List.append_assoc] at hnext
      exact hnext

end Books

/-! ### Withdrawals -/

/-- What a withdrawal pays back, read off the ledgers. -/
theorem PaidBack.exists_activation {earlier : List Success} {entry : Success} {caller : Account}
    {amount : Amount} (h : PaidBack settings earlier entry)
    (hoperation : entry.operation = .unstakeReporter caller id)
    (houtcome : entry.outcome = .amount amount) :
    ∃ before lock between, earlier = before ++ lock :: between ∧
      lock.operation = .activateReporter caller id ∧ course id between = [.deactivate] ∧
      (∃ activated, lock.outcome = .reporter activated ∧ activated.stake = amount) ∧
      (amount = 0 → lock.after.ledger = lock.before.ledger ∧
        entry.after.ledger = entry.before.ledger) ∧
      (0 < amount → ∃ token,
        lock.before.ledger.transferFrom token settings.custody caller settings.custody amount
            = .ok lock.after.ledger ∧
          entry.before.ledger.move token settings.custody caller amount
            = .ok entry.after.ledger) := by
  obtain ⟨reporter, rfl, hpaid, hrelease, before, lock, between, hearlier, hlock, hactivated,
    hledger, hcourse⟩ := h caller id hoperation
  obtain rfl : reporter.stake = amount := by
    rw [hpaid] at houtcome
    cases houtcome
    rfl
  refine ⟨before, lock, between, hearlier, hlock, hcourse, hactivated, ?_, ?_⟩
  · intro hzero
    have hnot : ¬ 0 < reporter.stake := by
      rw [hzero]
      exact BitVec.lt_irrefl 0
    rcases Ledger.lock_eq_ok_iff.mp hledger with ⟨-, hsame⟩ | ⟨hpos, -⟩
    · rcases Ledger.release_eq_ok_iff.mp hrelease with ⟨-, hsame'⟩ | ⟨hpos, -⟩
      · exact ⟨hsame, hsame'⟩
      · exact absurd hpos hnot
    · exact absurd hpos hnot
  · intro hpos
    refine ⟨reporter.stakeToken, ?_, ?_⟩
    · rcases Ledger.lock_eq_ok_iff.mp hledger with ⟨hnot, -⟩ | ⟨-, -, hpull⟩
      · exact absurd hpos hnot
      · exact hpull
    · rcases Ledger.release_eq_ok_iff.mp hrelease with ⟨hnot, -⟩ | ⟨-, hmove⟩
      · exact absurd hpos hnot
      · exact hmove

/-- An activation stands between two withdrawals of the same reporter, if the second
of them pays back what one locked. -/
theorem PaidBack.activate_mem {earlier between : List Success} {first second : Success}
    {caller caller' : Account}
    (h : PaidBack settings (earlier ++ first :: between) second)
    (hfirst : first.operation = .unstakeReporter caller id)
    (hsecond : second.operation = .unstakeReporter caller' id) :
    .activate ∈ course id between := by
  obtain ⟨reporter, -, -, -, before, lock, between', hearlier, hlock, -, -, hcourse⟩ :=
    h caller' id hsecond
  have hactivate : lock.operation.courseStep? id = some .activate := by
    rw [hlock]
    exact if_pos rfl
  have hunstake : first.operation.courseStep? id = some .unstake := by
    rw [hfirst]
    exact if_pos rfl
  have hne : first ≠ lock := by
    rintro rfl
    rw [hactivate] at hunstake
    cases hunstake
  rcases List.append_eq_append_iff.mp hearlier with ⟨gap, rfl, hrest⟩ | ⟨gap, rfl, hrest⟩
  · -- The first withdrawal comes before the activation.
    cases gap with
    | nil =>
        cases hrest
        exact absurd rfl hne
    | cons entry gap =>
        cases hrest
        exact List.mem_filterMap.mpr ⟨lock, by simp, hactivate⟩
  · -- It cannot come after: nothing but a deactivation does.
    cases gap with
    | nil =>
        cases hrest
        exact absurd rfl hne
    | cons entry gap =>
        cases hrest
        have hdone : course id (gap ++ first :: between) = [.deactivate] := hcourse
        have hmem : CourseStep.unstake ∈ course id (gap ++ first :: between) :=
          List.mem_filterMap.mpr ⟨first, by simp, hunstake⟩
        rw [hdone] at hmem
        simp at hmem

/-- The log of a registry that was started in memory is one in which every withdrawal
pays back what was locked. -/
theorem paid_of_establish {settings : Settings} {owner : Account} {store : MemoryStore}
    (hstart : Registry.establish settings owner MemoryStore.empty = .ok () store)
    (ledger : Ledger) (now : Seconds) (turns : List Turn) :
    Paid settings (World.log settings ⟨store, ledger, now, .empty⟩ turns) := by
  rw [eq_started_of_establish hstart]
  have hbooks := Books.run (Books.empty settings (.new owner))
    (World.sound_started owner ledger now) turns
  rw [List.nil_append] at hbooks
  exact hbooks.paid

/-- **What is paid back is what was locked, once.** In every run of a registry that
was started on an empty store in memory, a withdrawal of a reporter is preceded by
an activation of the reporter by the same caller, between which and the withdrawal
one deactivation is all that happened to the reporter. The activation answered with
the amount that is paid back. If the amount is zero, neither moved a token;
otherwise there is one token that the activation pulled from the caller and the
withdrawal pays to the caller. And there is an activation between any two
withdrawals of a reporter. -/
theorem withdrawal_pays_back_activation {settings : Settings} {owner : Account}
    {store : MemoryStore}
    (hstart : Registry.establish settings owner MemoryStore.empty = .ok () store)
    (ledger : Ledger) (now : Seconds) (turns : List Turn) :
    (∀ earlier entry later caller id amount,
      World.log settings ⟨store, ledger, now, .empty⟩ turns = earlier ++ entry :: later →
      entry.operation = .unstakeReporter caller id → entry.outcome = .amount amount →
      ∃ before lock between, earlier = before ++ lock :: between ∧
        lock.operation = .activateReporter caller id ∧ course id between = [.deactivate] ∧
        (∃ activated, lock.outcome = .reporter activated ∧ activated.stake = amount) ∧
        (amount = 0 → lock.after.ledger = lock.before.ledger ∧
          entry.after.ledger = entry.before.ledger) ∧
        (0 < amount → ∃ token,
          lock.before.ledger.transferFrom token settings.custody caller settings.custody amount
              = .ok lock.after.ledger ∧
            entry.before.ledger.move token settings.custody caller amount
              = .ok entry.after.ledger)) ∧
    ∀ earlier first between second later caller caller' id,
      World.log settings ⟨store, ledger, now, .empty⟩ turns
          = (earlier ++ first :: between) ++ second :: later →
      first.operation = .unstakeReporter caller id →
      second.operation = .unstakeReporter caller' id → .activate ∈ course id between := by
  have hpaid := paid_of_establish hstart ledger now turns
  constructor
  · intro earlier entry later caller id amount hlog hoperation houtcome
    exact (hpaid earlier entry later hlog).exists_activation hoperation houtcome
  · intro earlier first between second later caller caller' id hlog hfirst hsecond
    exact (hpaid _ second later hlog).activate_mem hfirst hsecond

/-- The withdrawal at the end of a run pays in the token that was staked, not in the
one that is configured by then. -/
theorem withdrawal_pays_back_activation_sample :
    ∃ earlier entry,
      Sample.world.log Sample.settings
          (Sample.beforeWithdrawal ++ [.operate (.unstakeReporter Sample.worker Sample.id)])
        = earlier ++ [entry] ∧
      ∃ before lock between, earlier = before ++ lock :: between ∧
        lock.operation = .activateReporter Sample.worker Sample.id ∧
        course Sample.id between = [.deactivate] ∧ ∃ token,
          lock.before.ledger.transferFrom token Sample.custody Sample.worker Sample.custody 5
              = .ok lock.after.ledger ∧
            entry.before.ledger.move token Sample.custody Sample.worker 5
              = .ok entry.after.ledger := by
  have hruns := withdrawal_pays_back_activation Sample.established Sample.ledger 0
    (Sample.beforeWithdrawal ++ [.operate (.unstakeReporter Sample.worker Sample.id)])
  have hlog : Sample.world.log Sample.settings
        (Sample.beforeWithdrawal ++ [.operate (.unstakeReporter Sample.worker Sample.id)])
      = Sample.world.log Sample.settings Sample.beforeWithdrawal
        ++ [⟨.unstakeReporter Sample.worker Sample.id, .amount 5,
          Sample.world.run Sample.settings Sample.beforeWithdrawal,
          Sample.world.run Sample.settings
            (Sample.beforeWithdrawal ++ [.operate (.unstakeReporter Sample.worker Sample.id)])⟩] :=
    rfl
  obtain ⟨before, lock, between, hearlier, hlock, hcourse, -, -, htoken⟩ :=
    hruns.1 _ _ [] Sample.worker Sample.id 5 hlog rfl rfl
  exact ⟨_, _, hlog, before, lock, between, hearlier, hlock, hcourse, htoken (by decide)⟩

/-! ### Balances -/

/-- The second change brings an amount of a token back from custody, which the first
took from its holder on an allowance. Neither touched any other balance or
allowance. -/
structure Returned (token custody holder : Account) (amount : Amount) (taking giving : Success) :
    Prop where
  taken : Moved token holder custody amount taking.before.ledger taking.after.ledger
  allowance : (taking.after.ledger.allowance token holder custody).toNat + amount.toNat
    = (taking.before.ledger.allowance token holder custody).toNat
  takenOnly : OnlyEntries token [holder, custody] [(holder, custody)]
    taking.before.ledger taking.after.ledger
  given : Moved token custody holder amount giving.before.ledger giving.after.ledger
  givenOnly : OnlyEntries token [custody, holder] [] giving.before.ledger giving.after.ledger

/-- Nothing is returned where nothing was taken. -/
theorem Returned.of_same {taking giving : Success}
    (htaking : taking.after.ledger = taking.before.ledger)
    (hgiving : giving.after.ledger = giving.before.ledger) (token custody holder : Account) :
    Returned token custody holder 0 taking giving := by
  constructor
  · rw [htaking]
    exact Moved.zero token holder custody _
  · rw [htaking]
    rfl
  · rw [htaking]
    exact OnlyEntries.refl token _ _ _
  · rw [hgiving]
    exact Moved.zero token custody holder _
  · rw [hgiving]
    exact OnlyEntries.refl token _ _ _

/-- What a withdrawal pays back, read off the balances. -/
theorem PaidBack.exists_returned {earlier : List Success} {entry : Success} {caller : Account}
    {amount : Amount} (h : PaidBack settings earlier entry)
    (hoperation : entry.operation = .unstakeReporter caller id)
    (houtcome : entry.outcome = .amount amount) :
    ∃ before lock between token, earlier = before ++ lock :: between ∧
      lock.operation = .activateReporter caller id ∧ course id between = [.deactivate] ∧
      Returned token settings.custody caller amount lock entry := by
  obtain ⟨before, lock, between, hearlier, hlock, hcourse, -, hzero, hpos⟩ :=
    h.exists_activation hoperation houtcome
  by_cases hamount : 0 < amount
  · obtain ⟨token, hpull, hmove⟩ := hpos hamount
    refine ⟨before, lock, between, token, hearlier, hlock, hcourse, ?_⟩
    exact {
      taken := Moved.of_transferFrom hpull
      allowance := Ledger.toNat_allowance_of_transferFrom hpull
      takenOnly := OnlyEntries.transferFrom hpull
      given := Moved.of_move hmove
      givenOnly := OnlyEntries.move hmove }
  · obtain rfl : amount = 0 := BitVec.eq_of_toNat_eq (Ledger.toNat_of_not_pos hamount)
    obtain ⟨htaking, hgiving⟩ := hzero rfl
    -- No token was moved, so that any will do.
    exact ⟨before, lock, between, settings.custody, hearlier, hlock, hcourse,
      Returned.of_same htaking hgiving _ _ _⟩

/-- **A withdrawal brings back the amount that an activation took**, balance by balance. In
every run of a registry that was started on an empty store in memory, a withdrawal of a
reporter is preceded by an activation of the reporter by the same caller, with one
deactivation in between, and there is a token of which the one gives to the caller what
the other took. -/
theorem withdrawal_returns_amount {settings : Settings} {owner : Account} {store : MemoryStore}
    (hstart : Registry.establish settings owner MemoryStore.empty = .ok () store)
    (ledger : Ledger) (now : Seconds) (turns : List Turn) {earlier later : List Success}
    {entry : Success} {caller : Account} {id : ReporterId} {amount : Amount}
    (hlog : World.log settings ⟨store, ledger, now, .empty⟩ turns = earlier ++ entry :: later)
    (hoperation : entry.operation = .unstakeReporter caller id)
    (houtcome : entry.outcome = .amount amount) :
    ∃ before lock between token, earlier = before ++ lock :: between ∧
      lock.operation = .activateReporter caller id ∧ course id between = [.deactivate] ∧
      Returned token settings.custody caller amount lock entry := by
  have hpaid := paid_of_establish hstart ledger now turns
  exact (hpaid earlier entry later hlog).exists_returned hoperation houtcome

end ReporterRegistry
