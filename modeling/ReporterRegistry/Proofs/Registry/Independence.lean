import ReporterRegistry.Proofs.Registry.SelfService

/-!
# Reporters do not depend on each other

Two reporters share the registry's account and the configuration. Still, what one of them
does for itself never decides what the other one can do: no operation of theirs changes
the configuration, the registry's account holds all stakes at any time, and how much it
holds keeps nobody from paying more into it. So operations of two reporters may change
places (`self_service_commutes`). Only the order of their events tells the difference.

A plan is made from one record and refused for the entries of one account
(`Carried.decision_eq`), and carrying it out adds to balances and takes from them, which
can be done in any order (`Carried.toNat_balance`).
-/

namespace ReporterRegistry

open Registry RecordStore SelfService

/-! ### What is read does not depend on others -/

/-- The store reads a record in the same way whatever else it holds. -/
def ReadsLocally (σ : Type) [Store σ] [RecordStore σ] : Prop :=
  ∀ {records records' : MemoryStore} {store store' : σ} {id : ReporterId},
    Holds records store → Holds records' store' →
    records'.reporters.get? id = records.reporters.get? id →
      answered (Store.reporter id store') = answered (Store.reporter id store)

theorem MemoryStore.readsLocally : ReadsLocally MemoryStore := by
  rintro records records' store store' id ⟨rfl, -⟩ ⟨rfl, -⟩ hrecord
  show Except.ok _ = Except.ok _
  rw [hrecord]

theorem Database.answered_answer {α : Type} (query : Database → Except StoreError α)
    (db : Database) : answered (answer query db) = query db := by
  unfold answer
  cases query db <;> rfl

theorem Database.readsLocally : ReadsLocally Database := by
  rintro records records' store store' id ⟨hsound, -, rfl⟩ ⟨hsound', -, rfl⟩ hrecord
  have hread : ∀ db : Database, answered (Store.reporter id db) = db.reporter id := fun db =>
    answered_answer (fun db => db.reporter id) db
  rw [hread, hread, reporter_ofMemory hsound, reporter_ofMemory hsound', hrecord]

/-- What is read is stored. -/
theorem Database.get?_of_reporter {records : MemoryStore} {db : Database} {id : ReporterId}
    {reporter : Reporter} (h : Holds records db) (hread : db.reporter id = .ok (some reporter)) :
    records.reporters.get? id = some reporter := by
  rw [← answered_answer (fun db => db.reporter id) db] at hread
  rcases RecordStore.reporter h id with hrecord | ⟨error, hrecord⟩
  · exact Except.ok.inj ((congrArg answered hrecord).symm.trans hread)
  · exact nomatch (congrArg answered hrecord).symm.trans hread

/-! ### One operation after another -/

namespace SelfService

variable {σ : Type} [Store σ] [RecordStore σ] {settings : Settings} {caller caller' : Account}
  {id : ReporterId} {step : SelfService} {plan plan' : Plan}
  {operation operation' : Operation}
  {records recordsNext recordsLast : World MemoryStore Ledger} {world next last : World σ Ledger}

namespace Carried

theorem get?_of_ne (h : Carried settings operation caller plan records world recordsNext next)
    (hne : id ≠ plan.next.id) :
    recordsNext.store.reporters.get? id = records.store.reporters.get? id := by
  rw [h.store]
  exact OrderedMap.get?_insert_of_ne _ _ hne

/-- **What one account decides is not changed by another's operation.** -/
theorem decision_eq (hlocal : ReadsLocally σ) (hshows : Shows records world)
    (h : Carried settings operation caller plan records world recordsNext next)
    (hne : id ≠ plan.next.id) (hcaller : caller ≠ settings.custody)
    (haccount : ∀ {previous}, records.store.reporters.get? id = some previous →
      previous.account ≠ caller ∧ previous.account ≠ settings.custody) :
    step.decision settings recordsNext next caller' id
      = step.decision settings records world caller' id := by
  have hrecord := h.get?_of_ne hne
  have hread := hlocal hshows.holds h.shows.holds hrecord
  have hconfig : recordsNext.store.config = records.store.config := by
    rw [h.store]
    rfl
  have hplan : step.plan recordsNext caller' id = step.plan records caller' id :=
    plan_congr hconfig h.now hrecord
  rw [decision, decision, hread, hplan]
  refine bind_congr fun _ => ?_
  cases hmade : step.plan records caller' id with
  | error error => rfl
  | ok made =>
      obtain ⟨_, previous, -, hprevious, rfl, -⟩ := plan_inv hmade
      obtain ⟨hother, hcustody⟩ := haccount hprevious
      have hsame := Movement.sameFor_of_apply h.ledger hother hcustody hcaller
      simp only [ok_bind, Plan.unlessRefused, Movement.refusal_congr hsame]

/-- What two plans take from a balance and add to it. -/
theorem toNat_balance (h : Carried settings operation caller plan records world recordsNext next)
    (h' : Carried settings operation' caller' plan' recordsNext next recordsLast last)
    (hcaller : caller ≠ settings.custody) (hcaller' : caller' ≠ settings.custody)
    (token holder : Account) :
    (recordsLast.ledger.balance token holder).toNat
        + plan.movement.debit settings caller token holder
        + plan'.movement.debit settings caller' token holder
      = (records.ledger.balance token holder).toNat
        + plan.movement.credit settings caller token holder
        + plan'.movement.credit settings caller' token holder := by
  have hfirst := Movement.toNat_balance_of_apply hcaller h.ledger token holder
  have hsecond := Movement.toNat_balance_of_apply hcaller' h'.ledger token holder
  omega

/-- What two plans use up of an allowance. -/
theorem toNat_allowance (h : Carried settings operation caller plan records world recordsNext next)
    (h' : Carried settings operation' caller' plan' recordsNext next recordsLast last)
    (token owner spender : Account) :
    (recordsLast.ledger.allowance token owner spender).toNat
        + plan.movement.spent settings caller token owner spender
        + plan'.movement.spent settings caller' token owner spender
      = (records.ledger.allowance token owner spender).toNat := by
  have hfirst := Movement.toNat_allowance_of_apply h.ledger token owner spender
  have hsecond := Movement.toNat_allowance_of_apply h'.ledger token owner spender
  omega

/-- One event is announced. -/
theorem journal_eq (hshows : Shows records world)
    (h : Carried settings operation caller plan records world recordsNext next) :
    next.outbox.journal = world.outbox.journal ++ [plan.event] := by
  rw [h.shows.outbox, h.outbox, hshows.outbox, Outbox.journal_emit]

end Carried

end SelfService

/-! ### Operations that may change places -/

section

variable {σ : Type} [Store σ] {settings : Settings} {world : World σ Ledger}
  {operation operation' : Operation}

/-- In either order two operations have the same results and leave the same, except for the
order of their events. -/
structure Commute (settings : Settings) (world : World σ Ledger)
    (operation operation' : Operation) : Prop where
  result : answered (operation.run settings (world.run settings [.operate operation']))
    = answered (operation.run settings world)
  result' : answered (operation'.run settings (world.run settings [.operate operation]))
    = answered (operation'.run settings world)
  store : (world.run settings [.operate operation, .operate operation']).store
    = (world.run settings [.operate operation', .operate operation]).store
  balance : ∀ token holder,
    (world.run settings [.operate operation, .operate operation']).ledger.balance token holder
      = (world.run settings [.operate operation', .operate operation]).ledger.balance token
          holder
  allowance : ∀ token owner spender,
    (world.run settings [.operate operation, .operate operation']).ledger.allowance token owner
        spender
      = (world.run settings [.operate operation', .operate operation]).ledger.allowance token
          owner spender
  now : (world.run settings [.operate operation, .operate operation']).now
    = (world.run settings [.operate operation', .operate operation]).now
  journal : ∃ events events' : List Event, events.length ≤ 1 ∧ events'.length ≤ 1 ∧
    (world.run settings [.operate operation, .operate operation']).outbox.journal
      = world.outbox.journal ++ events ++ events' ∧
    (world.run settings [.operate operation', .operate operation]).outbox.journal
      = world.outbox.journal ++ events' ++ events

theorem Commute.symm (h : Commute settings world operation operation') :
    Commute settings world operation' operation where
  result := h.result'
  result' := h.result
  store := h.store.symm
  balance token holder := (h.balance token holder).symm
  allowance token owner spender := (h.allowance token owner spender).symm
  now := h.now.symm
  journal := by
    obtain ⟨events, events', hlength, hlength', hjournal, hjournal'⟩ := h.journal
    exact ⟨events', events, hlength', hlength, hjournal', hjournal⟩

/-- An operation that is refused in either order might as well not be there. -/
theorem commute_of_refused {error : RegistryError} {next : World σ Ledger}
    (hnext : world.run settings [.operate operation'] = next)
    (hrun : operation.run settings world = .error error world)
    (hrun' : operation.run settings next = .error error next)
    (hjournal : ∃ events : List Event, events.length ≤ 1 ∧
      next.outbox.journal = world.outbox.journal ++ events) :
    Commute settings world operation operation' := by
  have halone : world.run settings [.operate operation] = world :=
    Turn.apply_operate_of_error hrun
  have hlast : world.run settings [.operate operation', .operate operation] = next := by
    rw [← hnext] at hrun' ⊢
    exact Turn.apply_operate_of_error hrun'
  have hlast' : world.run settings [.operate operation, .operate operation'] = next := by
    rw [World.run_cons, Turn.apply_operate_of_error hrun, hnext]
  have hsame := hlast'.trans hlast.symm
  obtain ⟨events, hlength, hjournal⟩ := hjournal
  exact {
    result := by
      rw [hnext, hrun, hrun']
      rfl
    result' := by rw [halone]
    store := by rw [hsame]
    balance := by simp only [hsame, implies_true]
    allowance := by simp only [hsame, implies_true]
    now := by rw [hsame]
    journal := by
      refine ⟨[], events, Nat.zero_le 1, hlength, ?_, ?_⟩
      · rw [hlast', hjournal, List.append_nil]
      · rw [hlast, hjournal, List.append_nil] }

end

/-! ### Two reporters -/

section

variable {σ : Type} [Store σ] [RecordStore σ] {settings : Settings}
  {records : World MemoryStore Ledger} {world : World σ Ledger} {caller caller' : Account}
  {first second : Reporter} {step step' : SelfService}

/-- Two stored reporters, each with an id and an account of its own, neither of which is the
registry's account. -/
structure Apart (settings : Settings) (store : MemoryStore) (first second : Reporter) : Prop where
  stored : store.reporters.get? first.id = some first
  stored' : store.reporters.get? second.id = some second
  id : first.id ≠ second.id
  account : first.account ≠ second.account
  custody : first.account ≠ settings.custody
  custody' : second.account ≠ settings.custody

theorem Apart.symm {store : MemoryStore} (h : Apart settings store first second) :
    Apart settings store second first :=
  ⟨h.stored', h.stored, h.id.symm, h.account.symm, h.custody', h.custody⟩

omit [Store σ] [RecordStore σ] in
/-- The first record belongs neither to the other account nor to the registry's. -/
theorem Apart.accounts {store : MemoryStore} (h : Apart settings store first second)
    {previous : Reporter} (hprevious : store.reporters.get? first.id = some previous) :
    previous.account ≠ second.account ∧ previous.account ≠ settings.custody := by
  obtain rfl := Option.some.inj (h.stored.symm.trans hprevious)
  exact ⟨h.account, h.custody⟩

theorem Apart.does_decision (h : Apart settings records.store first second)
    (hshows : Shows records world) (hprepared : Prepared settings records) (caller : Account)
    (step : SelfService) :
    Does settings (step.operation caller first.id) caller records world
      (step.decision settings records world caller first.id) :=
  SelfService.does_decision hshows hprepared fun hprevious => (h.accounts hprevious).2

omit [RecordStore σ] in
/-- A plan that is carried out is the reporter's own. -/
theorem SelfService.planned_of_decision {plan : Plan}
    (hstored : records.store.reporters.get? first.id = some first)
    (h : step.decision settings records world caller first.id = .ok plan) :
    first.account = caller ∧ plan.next.id = first.id := by
  obtain ⟨_, -, h⟩ := bind_eq_ok_iff.mp h
  obtain ⟨made, hmade, hunless⟩ := bind_eq_ok_iff.mp h
  obtain rfl := Plan.eq_of_unlessRefused hunless
  obtain ⟨_, previous, -, hprevious, haccount, hplan⟩ := plan_inv hmade
  obtain rfl := Option.some.inj (hstored.symm.trans hprevious)
  exact ⟨haccount, (planFor_inv hplan).1⟩

/-- After the plan of one of them, the other one can do as much as before. -/
theorem Apart.does_after (hlocal : ReadsLocally σ) (hshows : Shows records world)
    (h : Apart settings records.store first second) {plan : Plan}
    (hplan : step'.decision settings records world caller' second.id = .ok plan)
    {recordsNext : World MemoryStore Ledger} {next : World σ Ledger}
    (hcarried : Carried settings (step'.operation caller' second.id) caller' plan records world
      recordsNext next) (caller : Account) (step : SelfService) :
    Does settings (step.operation caller first.id) caller recordsNext next
      (step.decision settings records world caller first.id) := by
  obtain ⟨rfl, hid⟩ := planned_of_decision h.stored' hplan
  have hne : first.id ≠ plan.next.id := hid ▸ h.id
  have hdecision : step.decision settings recordsNext next caller first.id
      = step.decision settings records world caller first.id :=
    hcarried.decision_eq hlocal hshows hne h.custody' h.accounts
  rw [← hdecision]
  refine SelfService.does_decision hcarried.shows hcarried.prepared ?_
  intro previous hprevious
  rw [hcarried.get?_of_ne hne] at hprevious
  exact (h.accounts hprevious).2

/-- An operation that is refused is refused after the other one as well. -/
theorem commute_of_decision_error (hlocal : ReadsLocally σ) (hshows : Shows records world)
    (hprepared : Prepared settings records) (h : Apart settings records.store first second)
    {error : RegistryError}
    (hrefused : step.decision settings records world caller first.id = .error error) :
    Commute settings world (step.operation caller first.id)
      (step'.operation caller' second.id) := by
  have hrun := h.does_decision hshows hprepared caller step
  rw [hrefused] at hrun
  have hother := h.symm.does_decision hshows hprepared caller' step'
  cases hdecision : step'.decision settings records world caller' second.id with
  | error error' =>
      rw [hdecision] at hother
      have hnext : world.run settings [.operate (step'.operation caller' second.id)] = world :=
        Turn.apply_operate_of_error hother
      exact commute_of_refused hnext hrun hrun ⟨[], Nat.zero_le 1, (List.append_nil _).symm⟩
  | ok plan =>
      rw [hdecision] at hother
      obtain ⟨recordsNext, next, hcarried⟩ := hother
      have hnext : world.run settings [.operate (step'.operation caller' second.id)] = next :=
        Turn.apply_operate_of_ok hcarried.run
      have hafter := h.does_after hlocal hshows hdecision hcarried caller step
      rw [hrefused] at hafter
      exact commute_of_refused hnext hrun hafter
        ⟨[plan.event], Nat.le_refl 1, hcarried.journal_eq hshows⟩

/-- Plans that are both carried out, in either order, come to the same. -/
theorem commute_of_carried (hshows : Shows records world) {plan plan' : Plan}
    {operation operation' : Operation}
    {records₁ records₂ records₁₂ records₂₁ : World MemoryStore Ledger}
    {world₁ world₂ world₁₂ world₂₁ : World σ Ledger}
    (hcaller : caller ≠ settings.custody) (hcaller' : caller' ≠ settings.custody)
    (hid : plan.next.id ≠ plan'.next.id)
    (hstored : records.store.reporters.get? plan.next.id ≠ none)
    (h₁ : Carried settings operation caller plan records world records₁ world₁)
    (h₂ : Carried settings operation' caller' plan' records world records₂ world₂)
    (h₁₂ : Carried settings operation' caller' plan' records₁ world₁ records₁₂ world₁₂)
    (h₂₁ : Carried settings operation caller plan records₂ world₂ records₂₁ world₂₁) :
    Commute settings world operation operation' := by
  have hafter : world.run settings [.operate operation] = world₁ :=
    Turn.apply_operate_of_ok h₁.run
  have hafter' : world.run settings [.operate operation'] = world₂ :=
    Turn.apply_operate_of_ok h₂.run
  have hboth : world.run settings [.operate operation, .operate operation'] = world₁₂ := by
    rw [World.run_cons, Turn.apply_operate_of_ok h₁.run]
    exact Turn.apply_operate_of_ok h₁₂.run
  have hboth' : world.run settings [.operate operation', .operate operation] = world₂₁ := by
    rw [World.run_cons, Turn.apply_operate_of_ok h₂.run]
    exact Turn.apply_operate_of_ok h₂₁.run
  -- The records have different ids, and the first one is there, so neither moves the other.
  have hrecords : records₁₂.store = records₂₁.store := by
    rw [h₁₂.store, h₁.store, h₂₁.store, h₂.store]
    exact congrArg (MemoryStore.mk _) (OrderedMap.insert_comm hid _ _ hstored).symm
  exact {
    result := by
      rw [hafter', h₂₁.run, h₁.run]
      rfl
    result' := by
      rw [hafter, h₁₂.run, h₂.run]
      rfl
    store := by
      have hholds : Holds records₂₁.store world₁₂.store := hrecords ▸ h₁₂.shows.holds
      rw [hboth, hboth']
      exact RecordStore.unique h₂₁.shows.holds hholds
    balance := by
      intro token holder
      rw [hboth, hboth', h₁₂.shows.ledger, h₂₁.shows.ledger]
      have htotal := h₁.toNat_balance h₁₂ hcaller hcaller' token holder
      have htotal' := h₂.toNat_balance h₂₁ hcaller' hcaller token holder
      exact BitVec.eq_of_toNat_eq (by omega)
    allowance := by
      intro token owner spender
      rw [hboth, hboth', h₁₂.shows.ledger, h₂₁.shows.ledger]
      have htotal := h₁.toNat_allowance h₁₂ token owner spender
      have htotal' := h₂.toNat_allowance h₂₁ token owner spender
      exact BitVec.eq_of_toNat_eq (by omega)
    now := by
      rw [hboth, hboth', h₁₂.shows.now, h₂₁.shows.now, h₁₂.now, h₁.now, h₂₁.now, h₂.now]
    journal := by
      refine ⟨[plan.event], [plan'.event], Nat.le_refl 1, Nat.le_refl 1, ?_, ?_⟩
      · rw [hboth, h₁₂.journal_eq h₁.shows, h₁.journal_eq hshows]
      · rw [hboth', h₂₁.journal_eq h₂.shows, h₂.journal_eq hshows] }

/-- **Operations of two reporters may change places** in a world that shows records. -/
theorem commute_of_shows (hlocal : ReadsLocally σ) (hshows : Shows records world)
    (hprepared : Prepared settings records) (h : Apart settings records.store first second)
    (caller caller' : Account) (step step' : SelfService) :
    Commute settings world (step.operation caller first.id)
      (step'.operation caller' second.id) := by
  cases hdecision : step.decision settings records world caller first.id with
  | error error => exact commute_of_decision_error hlocal hshows hprepared h hdecision
  | ok plan =>
      cases hdecision' : step'.decision settings records world caller' second.id with
      | error error =>
          exact (commute_of_decision_error hlocal hshows hprepared h.symm hdecision').symm
      | ok plan' =>
          obtain ⟨haccount, hid⟩ := planned_of_decision h.stored hdecision
          obtain ⟨haccount', hid'⟩ := planned_of_decision h.stored' hdecision'
          have halone := h.does_decision hshows hprepared caller step
          rw [hdecision] at halone
          obtain ⟨records₁, world₁, h₁⟩ := halone
          have halone' := h.symm.does_decision hshows hprepared caller' step'
          rw [hdecision'] at halone'
          obtain ⟨records₂, world₂, h₂⟩ := halone'
          have hafter := h.symm.does_after hlocal hshows hdecision h₁ caller' step'
          rw [hdecision'] at hafter
          obtain ⟨records₁₂, world₁₂, h₁₂⟩ := hafter
          have hafter' := h.does_after hlocal hshows hdecision' h₂ caller step
          rw [hdecision] at hafter'
          obtain ⟨records₂₁, world₂₁, h₂₁⟩ := hafter'
          have hstored : records.store.reporters.get? plan.next.id ≠ none := by
            rw [hid, h.stored]
            exact Option.some_ne_none first
          refine commute_of_carried hshows (haccount ▸ h.custody) (haccount' ▸ h.custody') ?_
            hstored h₁ h₂ h₁₂ h₂₁
          rw [hid, hid']
          exact h.id

end

/-- **Reporters do not depend on each other.** After every run in which nobody else takes
from the registry's account, and with all that is held of a token in range, operations of
two reporters for themselves may change places, whoever calls them. A database holds the
rows of the records. -/
theorem self_service_commutes {settings : Settings} {turns : List Turn}
    (hpayer : ∀ turn ∈ turns, turn.payer? ≠ some settings.custody)
    (owner : Account) (ledger : Ledger) (now : Seconds) :
    (∀ store, Registry.establish settings owner MemoryStore.empty = .ok () store →
      let world := World.run settings turns ⟨store, ledger, now, .empty⟩
      world.ledger.InRange →
      ∀ first second, Apart settings world.store first second →
      ∀ caller caller' (step step' : SelfService),
        Commute settings world (step.operation caller first.id)
          (step'.operation caller' second.id)) ∧
    ∀ db, Registry.establish settings owner Database.fresh = .ok () db → owner.Sized →
      (∀ turn ∈ turns, turn.Sized) →
      let world := World.run settings turns ⟨db, ledger, now, .empty⟩
      world.ledger.InRange →
      ∃ records, Holds records world.store ∧
        ∀ first second, Apart settings records first second →
        ∀ caller caller' (step step' : SelfService),
          Commute settings world (step.operation caller first.id)
            (step'.operation caller' second.id) := by
  have hsound := World.sound_started owner ledger now
  have hstarted : Covered settings (World.started owner ledger now) := Covered.start ..
  constructor
  · intro store hstart
    rw [eq_started_of_establish hstart]
    obtain ⟨hsound', hcovered⟩ := hstarted.run hsound hpayer
    intro world hrange first second h caller caller' step step'
    exact commute_of_shows MemoryStore.readsLocally (Shows.refl hsound') ⟨hcovered, hrange⟩ h
      caller caller' step step'
  · intro db hstart howner hturns world hrange
    obtain ⟨turns', hsub, hshows⟩ := shows_database_run hstart howner hturns ledger now
    have hpayer' : ∀ turn ∈ turns', turn.payer? ≠ some settings.custody := by
      intro turn hmem
      exact hpayer turn (hsub.subset hmem)
    obtain ⟨-, hcovered⟩ := hstarted.run hsound hpayer'
    refine ⟨_, hshows.holds, ?_⟩
    intro first second h caller caller' step step'
    exact commute_of_shows Database.readsLocally hshows ⟨hcovered, hshows.ledger ▸ hrange⟩ h caller
      caller' step step'

/-- All balances together bound what is held of a token. -/
theorem Ledger.inRange_of_sum_lt {ledger : Ledger}
    (h : (ledger.balances.entries.map fun entry => entry.2.toNat).sum < 2 ^ 128) :
    ledger.InRange := by
  intro token
  refine Nat.lt_of_le_of_lt (List.sum_le_sum ?_) h
  rintro ⟨⟨token', holder⟩, balance⟩ -
  unfold share
  split
  · exact Nat.le_refl _
  · exact Nat.zero_le _

namespace Sample

def colleague : Account := ⟨.plain, [5]⟩

/-- The reporter that is created for the colleague. -/
def second : Reporter := .new ⟨8⟩ colleague .validator "" ""

/-- The worker's reporter waiting for its stake. -/
def unstaking : Reporter :=
  ⟨id, worker, "", "", .validator, .unstaking, 5, token, 10⟩

/-- The worker's stake of five can be withdrawn, and the colleague has what it is to stake
of the same token. -/
def beforeBoth : List Turn :=
  [.operate (.updateStakeTerms owner ⟨token, 10, 5, 5, 5, 5⟩),
    .operate (.createReporter owner id worker .validator "" ""),
    .operate (.createReporter owner ⟨8⟩ colleague .validator "" ""),
    .operate (.activateReporter worker id),
    .operate (.deactivateReporter worker id),
    .clock (.advance 20),
    .ledger (.mint token colleague 5),
    .ledger (.approve token colleague custody 5)]

theorem sized_beforeBoth : ∀ turn ∈ beforeBoth, turn.Sized := by
  simp only [beforeBoth, List.forall_mem_cons]
  exact ⟨sized_single 4, trivial, trivial, trivial, trivial, trivial, trivial, trivial, by simp⟩

end Sample

/-- The worker withdraws and the colleague stakes, in either order and with both stores. -/
theorem self_service_commutes_sample :
    ((Operation.unstakeReporter Sample.worker Sample.id).outcome? Sample.settings
        (Sample.world.run Sample.settings Sample.beforeBoth) = some (.amount 5) ∧
      ((Operation.activateReporter Sample.colleague ⟨8⟩).outcome? Sample.settings
        (Sample.world.run Sample.settings Sample.beforeBoth)).isSome) ∧
      Commute Sample.settings (Sample.world.run Sample.settings Sample.beforeBoth)
        (.unstakeReporter Sample.worker Sample.id) (.activateReporter Sample.colleague ⟨8⟩) ∧
      Commute Sample.settings (Sample.databaseWorld.run Sample.settings Sample.beforeBoth)
        (.unstakeReporter Sample.worker Sample.id) (.activateReporter Sample.colleague ⟨8⟩) := by
  have hpayer : ∀ turn ∈ Sample.beforeBoth, turn.payer? ≠ some Sample.settings.custody := by
    decide
  obtain ⟨hmemory, hdatabase⟩ := self_service_commutes hpayer Sample.owner Sample.ledger 0
  have hapart : ∀ {records : MemoryStore},
      records.reporters.get? Sample.id = some Sample.unstaking →
      records.reporters.get? ⟨8⟩ = some Sample.second →
      Apart Sample.settings records Sample.unstaking Sample.second := fun hfirst hsecond =>
    ⟨hfirst, hsecond, by decide, by decide, by decide, by decide⟩
  have hcommute := hmemory Sample.world.store Sample.established
    (Ledger.inRange_of_sum_lt (by decide +kernel)) _ _
    (hapart (by decide +kernel) (by decide +kernel)) Sample.worker Sample.colleague .unstake
    .activate
  obtain ⟨records, hholds, hcommutes⟩ := hdatabase Sample.databaseWorld.store
    Sample.established_database Sample.sized_owner Sample.sized_beforeBoth
    (Ledger.inRange_of_sum_lt (by decide +kernel))
  have hcommute' := hcommutes _ _
    (hapart (Database.get?_of_reporter hholds (by decide +kernel))
      (Database.get?_of_reporter hholds (by decide +kernel))) Sample.worker Sample.colleague
    .unstake .activate
  exact ⟨⟨by decide +kernel, by decide +kernel⟩, hcommute, hcommute'⟩

end ReporterRegistry
