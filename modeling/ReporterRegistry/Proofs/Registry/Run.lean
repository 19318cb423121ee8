import ReporterRegistry.Clock
import ReporterRegistry.Proofs.Ledger.Calls
import ReporterRegistry.Proofs.Registry.Commit
import ReporterRegistry.Proofs.Store.Tables

/-!
# What happens to a registry

A registry is started once. After that its operations come in any order, in
between others that use the ledger, move the clock, read the journal, subscribe,
or start to work on the same store anew. A `Turn` is one such thing.

With the records in memory a turn has one of a few effects (`Effect`). With any
other store, what is behind it is a run in memory: the same turns, without the
operations that were refused because the store did not want to read a record
(`shows_run`). So it is enough to prove in memory what is to hold of all stores.
-/

namespace ReporterRegistry

open Registry RecordStore

/-- What an operation answers, if it succeeds. -/
def Operation.outcome? {σ : Type} [Store σ] (settings : Settings) (operation : Operation)
    (world : World σ Ledger) : Option Outcome :=
  match operation.run settings world with
  | .ok outcome _ => some outcome
  | .error _ _ => none

theorem Operation.outcome?_eq_some_iff {σ : Type} [Store σ] {settings : Settings}
    {operation : Operation} {world : World σ Ledger} {outcome : Outcome} :
    operation.outcome? settings world = some outcome ↔
      ∃ next, operation.run settings world = .ok outcome next := by
  unfold outcome?
  cases operation.run settings world <;> simp

/-! ### Turns -/

/-- One thing that happens. -/
inductive Turn where
  | operate (operation : Operation)
  | ledger (call : LedgerCall)
  | clock (change : ClockChange)
  | drain
  | subscribe
  /-- Another registry of the same settings takes over the store. -/
  | reopen
  deriving DecidableEq, Repr

namespace Turn

variable {σ : Type} [Store σ]

/-- The world after a turn. -/
def apply (settings : Settings) (world : World σ Ledger) : Turn → World σ Ledger
  | .operate operation => left (operation.run settings) world
  | .ledger call => { world with ledger := call.apply world.ledger }
  | .clock change => { world with now := change.apply world.now }
  | .drain => { world with outbox := world.outbox.drain.2 }
  | .subscribe => { world with outbox := world.outbox.subscribe }
  | .reopen =>
    match attach settings world.store with
    | .ok () store => { world with store := store, outbox := .empty }
    | .error _ store => { world with store := store }

theorem apply_operate_of_ok {settings : Settings} {operation : Operation} {outcome : Outcome}
    {world next : World σ Ledger} (h : operation.run settings world = .ok outcome next) :
    (Turn.operate operation).apply settings world = next := by
  show left (operation.run settings) world = next
  rw [left, h]

theorem apply_operate_of_error {settings : Settings} {operation : Operation}
    {error : RegistryError} {world next : World σ Ledger}
    (h : operation.run settings world = .error error next) :
    (Turn.operate operation).apply settings world = next := by
  show left (operation.run settings) world = next
  rw [left, h]

/-- Whose balance is moved from outside the registry. -/
def payer? : Turn → Option Account
  | .ledger call => call.payer?
  | _ => none

end Turn

/-- The world after some turns. -/
def World.run {σ : Type} [Store σ] (settings : Settings) (turns : List Turn)
    (world : World σ Ledger) : World σ Ledger :=
  turns.foldl (Turn.apply settings) world

section Run

variable {σ : Type} [Store σ] {settings : Settings} {world : World σ Ledger}

theorem World.run_cons (turn : Turn) (turns : List Turn) :
    world.run settings (turn :: turns) = (turn.apply settings world).run settings turns := rfl

end Run

/-! ### Starting -/

/-- Whether a registry may take over a store with this configuration. -/
def Registry.admits (settings : Settings) (config : Option Configuration) :
    Except RegistryError Unit := do
  checkSettings settings
  match config with
  | some config => checkFormat settings config.owner
  | none => throw .notInitialized

/-- Taking over a store changes nothing in it. -/
theorem Registry.attach_settles {σ : Type} [Store σ] (settings : Settings) {store : σ}
    {config : Option Configuration} (h : Store.configuration store = .ok config store) :
    attach settings store = settle store (admits settings config) := by
  unfold attach admits
  cases hsettings : checkSettings settings with
  | error error =>
      simp only [bind, EStateM.bind, require, Except.bind]
      rfl
  | ok u =>
      cases config with
      | none =>
          simp only [bind, EStateM.bind, require, Except.bind, onBareStore, h]
          rfl
      | some config =>
          simp only [bind, EStateM.bind, require, Except.bind, onBareStore, h]
          exact require_settles _ _

/-! ### Runs in memory -/

/-- What a turn does to records in memory. -/
inductive Effect (settings : Settings) (world : World MemoryStore Ledger) :
    Turn → World MemoryStore Ledger → Prop
  | refused {operation : Operation} {error : RegistryError}
      (hrun : operation.run settings world = .error error world) :
      Effect settings world (.operate operation) world
  | granted {operation : Operation} {change : Change}
      (hgrant : Grant settings world operation change)
      (hrun : operation.run settings world = .ok change.outcome (change.commit world)) :
      Effect settings world (.operate operation) (change.commit world)
  | ledger (call : LedgerCall) :
      Effect settings world (.ledger call) { world with ledger := call.apply world.ledger }
  /-- Neither records nor balances are touched. -/
  | aside {turn : Turn} (hturn : ∀ operation, turn ≠ .operate operation) (now : Seconds)
      (outbox : Outbox) :
      Effect settings world turn { world with now := now, outbox := outbox }

section

variable {settings : Settings} {world : World MemoryStore Ledger}

/-- **A turn has one of the effects**, whatever the turn is. -/
theorem effect_apply (settings : Settings) (hsound : world.store.Sound) (turn : Turn) :
    Effect settings world turn (turn.apply settings world) := by
  cases turn with
  | operate operation =>
      have hrun := run_eq_verdict settings hsound operation
      cases hverdict : operation.verdict settings world with
      | error error =>
          rw [hverdict] at hrun
          rw [Turn.apply_operate_of_error hrun]
          exact Effect.refused hrun
      | ok change =>
          rw [hverdict] at hrun
          rw [Turn.apply_operate_of_ok hrun]
          exact Effect.granted (grant_of_verdict hverdict) hrun
  | ledger call => exact Effect.ledger call
  | clock change => exact Effect.aside (by simp) (change.apply world.now) world.outbox
  | drain => exact Effect.aside (by simp) world.now world.outbox.drain.2
  | subscribe => exact Effect.aside (by simp) world.now world.outbox.subscribe
  | reopen =>
      have hattach : attach settings world.store
          = settle world.store (admits settings world.store.config) := attach_settles settings rfl
      cases hadmits : admits settings world.store.config with
      | error error =>
          have happly : Turn.reopen.apply settings world = world := by
            simp only [Turn.apply, hattach, hadmits, settle]
          rw [happly]
          exact Effect.aside (by simp) world.now world.outbox
      | ok u =>
          have happly : Turn.reopen.apply settings world = { world with outbox := .empty } := by
            simp only [Turn.apply, hattach, hadmits, settle]
          rw [happly]
          exact Effect.aside (by simp) world.now .empty

/-- Every change keeps records sound. -/
theorem Grant.sound {operation : Operation} {change : Change}
    (h : Grant settings world operation change) (hsound : world.store.Sound) :
    change.store.Sound := by
  cases h with
  | setAuthority => exact hsound.withConfiguration _
  | updateStakeTerms => exact hsound.withConfiguration _
  | updateRewardTerms => exact hsound.withConfiguration _
  | createReporter => exact hsound.withReporter not_maxSeconds_lt_zero
  | updateReporter => exact hsound.withReporter not_maxSeconds_lt_zero
  | activateReporter => exact hsound.withReporter not_maxSeconds_lt_zero
  | deactivateReporter => exact hsound.withReporter (not_maxSeconds_lt_unlockAt _ _)
  | unstakeReporter => exact hsound.withReporter not_maxSeconds_lt_zero

theorem Effect.sound {turn : Turn} {next : World MemoryStore Ledger}
    (h : Effect settings world turn next) (hsound : world.store.Sound) : next.store.Sound := by
  cases h with
  | refused => exact hsound
  | granted hgrant => exact hgrant.sound hsound
  | ledger => exact hsound
  | aside => exact hsound

/-- **What every effect preserves holds after every run.** -/
theorem run_induction {P : World MemoryStore Ledger → Prop} {turns : List Turn}
    (hstep : ∀ {world next : World MemoryStore Ledger} {turn : Turn}, turn ∈ turns →
      world.store.Sound → P world → Effect settings world turn next → P next)
    (hsound : world.store.Sound) (hstart : P world) :
    (world.run settings turns).store.Sound ∧ P (world.run settings turns) := by
  induction turns generalizing world with
  | nil => exact ⟨hsound, hstart⟩
  | cons turn turns ih =>
      rw [World.run_cons]
      have heffect := effect_apply settings hsound turn
      refine ih (fun hmem => hstep (List.mem_cons_of_mem turn hmem)) (heffect.sound hsound) ?_
      exact hstep List.mem_cons_self hsound hstart heffect

theorem World.sound_run (settings : Settings) (hsound : world.store.Sound) (turns : List Turn) :
    (world.run settings turns).store.Sound :=
  (run_induction (fun _ _ _ _ => trivial) hsound trivial).1

end

/-! ### Runs with any store -/

section

variable {σ : Type} [Store σ] [RecordStore σ] {settings : Settings}

/-- A world shows records: its store holds them, and the rest is the same. -/
structure Shows (records : World MemoryStore Ledger) (world : World σ Ledger) : Prop where
  holds : Holds records.store world.store
  same : world = records.withStore world.store

/-- Records in memory show themselves. -/
theorem Shows.refl {world : World MemoryStore Ledger} (h : world.store.Sound) :
    Shows world world where
  holds := ⟨rfl, h⟩
  same := rfl

/-- A turn writes only configurations that the store can give back. -/
def Turn.Fits (σ : Type) [Store σ] [RecordStore σ] (settings : Settings) (turn : Turn) : Prop :=
  ∀ operation, turn = .operate operation → ∀ {world : World MemoryStore Ledger} {change : Change},
    Grant settings world operation change →
      (∀ config, world.store.config = some config → RecordStore.Fits σ config) →
        ∀ config, change.store.config = some config → RecordStore.Fits σ config

omit [Store σ] [RecordStore σ] in
/-- A store in memory can give back all configurations. -/
theorem Turn.fits_memory (settings : Settings) (turn : Turn) : turn.Fits MemoryStore settings :=
  fun _ _ _ _ _ _ _ _ => trivial

variable {records : World MemoryStore Ledger} {world : World σ Ledger}

theorem Shows.now (h : Shows records world) : world.now = records.now :=
  congrArg World.now h.same

theorem Shows.ledger (h : Shows records world) : world.ledger = records.ledger :=
  congrArg World.ledger h.same

theorem Shows.outbox (h : Shows records world) : world.outbox = records.outbox :=
  congrArg World.outbox h.same

/-- With the records for its store, the world is the one that is shown. -/
theorem Shows.withStore (h : Shows records world) : world.withStore records.store = records := by
  rw [h.same]
  rfl

/-- The operation fails, and changes nothing, since the store does not want to read a
record. -/
def Operation.Unread (operation : Operation) (settings : Settings) (world : World σ Ledger) :
    Prop :=
  ∃ id error, Store.reporter id world.store = .error error world.store ∧
    operation.run settings world = .error (.store error) world

/-- What an operation does to a world follows from its verdict on the records that are
shown. -/
theorem Shows.answer (h : Shows records world) (settings : Settings) (operation : Operation) :
    operation.Unread settings world ∨
      match operation.verdict settings records with
      | .error error => operation.run settings world = .error error world
      | .ok change => ∃ store,
          operation.run settings world
              = .ok change.outcome ((change.commit records).withStore store) ∧
            ((∀ config, change.store.config = some config → RecordStore.Fits σ config) →
              Holds change.store store) := by
  have hcarries := carries_run settings h.holds operation
  rw [h.same]
  rcases hcarries with hrefuses | hfollows
  · exact Or.inl hrefuses
  refine Or.inr ?_
  unfold Follows at hfollows
  cases hverdict : operation.verdict settings records with
  | error error =>
      rw [hverdict] at hfollows
      exact hfollows
  | ok change =>
      rw [hverdict] at hfollows
      obtain ⟨outcome, store, hrun, rfl, hnext⟩ := hfollows
      exact ⟨store, hrun, hnext⟩

/-- What succeeds on a store that shows records is granted on the records. -/
theorem Shows.grant_of_ok (h : Shows records world) {operation : Operation} {outcome : Outcome}
    {next : World σ Ledger} (hrun : operation.run settings world = .ok outcome next) :
    ∃ change, Grant settings records operation change := by
  rcases h.answer settings operation with ⟨_, error, -, hrefused⟩ | hanswer
  · rw [hrefused] at hrun
    cases hrun
  cases hverdict : operation.verdict settings records with
  | error error =>
      rw [hverdict] at hanswer
      rw [hanswer] at hrun
      cases hrun
  | ok change => exact ⟨change, grant_of_verdict hverdict⟩

/-- What fails on a store that shows records fails in the same way on the records, unless
the store did not want to read. -/
theorem Shows.verdict_of_error (h : Shows records world) {operation : Operation}
    {error : RegistryError} {next : World σ Ledger}
    (hrun : operation.run settings world = .error error next) :
    (∃ refusal, error = .store refusal) ∨ operation.verdict settings records = .error error := by
  rcases h.answer settings operation with ⟨_, refusal, -, hrefused⟩ | hanswer
  · rw [hrefused] at hrun
    cases hrun
    exact Or.inl ⟨refusal, rfl⟩
  refine Or.inr ?_
  cases hverdict : operation.verdict settings records with
  | error error' =>
      rw [hverdict] at hanswer
      rw [hanswer] at hrun
      cases hrun
      rfl
  | ok change =>
      rw [hverdict] at hanswer
      obtain ⟨store, hok, -⟩ := hanswer
      rw [hok] at hrun
      cases hrun

/-- What a turn does to a world that shows records, and to the records. -/
inductive ShownEffect (settings : Settings) (records : World MemoryStore Ledger)
    (world : World σ Ledger) : Turn → World MemoryStore Ledger → Prop
  | refused {operation : Operation} {error : RegistryError}
      (hrun : operation.run settings world = .error error world) :
      ShownEffect settings records world (.operate operation) records
  | granted {operation : Operation} {change : Change} {next : World σ Ledger}
      (hverdict : operation.verdict settings records = .ok change)
      (hrun : operation.run settings world = .ok change.outcome next) :
      ShownEffect settings records world (.operate operation) (change.commit records)
  /-- The records are not touched. -/
  | aside {turn : Turn} (hturn : ∀ operation, turn ≠ .operate operation)
      (hstore : (turn.apply settings records).store = records.store) :
      ShownEffect settings records world turn (turn.apply settings records)

/-- Starting to work on a store anew does to the world what it does to the records. -/
theorem Shows.reopen (h : Shows records world) (settings : Settings) :
    (Turn.reopen.apply settings records).store = records.store ∧
      Shows (Turn.reopen.apply settings records) (Turn.reopen.apply settings world) := by
  have hattach := attach_settles settings (RecordStore.configuration h.holds)
  have hattach' : attach settings records.store
      = settle records.store (admits settings records.store.config) :=
    attach_settles settings rfl
  cases hadmits : admits settings records.store.config with
  | error error =>
      simp only [Turn.apply, hattach, hattach', hadmits, settle]
      exact ⟨trivial, h⟩
  | ok u =>
      simp only [Turn.apply, hattach, hattach', hadmits, settle]
      refine ⟨trivial, h.holds, ?_⟩
      rw [h.same]
      rfl

/-- **A turn on a store that shows records** has one of the effects, and what it leaves
shows the records that the effect leaves. -/
theorem Shows.effect (h : Shows records world) {turn : Turn} (hfits : turn.Fits σ settings) :
    ∃ next, ShownEffect settings records world turn next ∧
      Shows next (turn.apply settings world) := by
  cases turn with
  | operate operation =>
      have hrefused : ∀ error, operation.run settings world = .error error world →
          ∃ next, ShownEffect settings records world (.operate operation) next ∧
            Shows next ((Turn.operate operation).apply settings world) := by
        intro error hrun
        refine ⟨records, .refused hrun, ?_⟩
        rw [Turn.apply_operate_of_error hrun]
        exact h
      rcases h.answer settings operation with ⟨_, error, -, hrun⟩ | hanswer
      · exact hrefused _ hrun
      cases hverdict : operation.verdict settings records with
      | error error =>
          rw [hverdict] at hanswer
          exact hrefused error hanswer
      | ok change =>
          rw [hverdict] at hanswer
          obtain ⟨store, hrun, hnext⟩ := hanswer
          have hchange : ∀ config, change.store.config = some config → RecordStore.Fits σ config :=
            hfits operation rfl (grant_of_verdict hverdict) fun _ => RecordStore.fits h.holds
          refine ⟨change.commit records, .granted hverdict hrun, ?_⟩
          rw [Turn.apply_operate_of_ok hrun]
          exact ⟨hnext hchange, rfl⟩
  | ledger call =>
      refine ⟨_, .aside (by simp) rfl, h.holds, ?_⟩
      rw [h.same]
      rfl
  | clock change =>
      refine ⟨_, .aside (by simp) rfl, h.holds, ?_⟩
      rw [h.same]
      rfl
  | drain =>
      refine ⟨_, .aside (by simp) rfl, h.holds, ?_⟩
      rw [h.same]
      rfl
  | subscribe =>
      refine ⟨_, .aside (by simp) rfl, h.holds, ?_⟩
      rw [h.same]
      rfl
  | reopen =>
      obtain ⟨hstore, hnext⟩ := h.reopen settings
      exact ⟨_, .aside (by simp) hstore, hnext⟩

omit [RecordStore σ] in
/-- A registry that started passed the checks and wrote its first configuration. -/
theorem establish_inv {owner : Account} {start store : σ}
    (h : establish settings owner start = .ok () store) :
    checkSettings settings = .ok () ∧ owner.format = settings.format ∧ owner.isZero = false ∧
      Store.insertConfiguration (.new owner) start = .ok true store := by
  unfold establish at h
  cases hsettings : checkSettings settings with
  | error error => simp [bind, EStateM.bind, require, hsettings] at h
  | ok u =>
      cases hformat : checkFormat settings owner with
      | error error => simp [bind, EStateM.bind, require, hsettings, hformat] at h
      | ok u =>
          cases hzero : checkNonZero .owner owner with
          | error error => simp [bind, EStateM.bind, require, hsettings, hformat, hzero] at h
          | ok u =>
              refine ⟨rfl, checkFormat_eq_ok_iff.mp hformat, checkNonZero_eq_ok_iff.mp hzero, ?_⟩
              simp only [bind, EStateM.bind, require, hsettings, hformat, hzero, onBareStore] at h
              cases hinsert : Store.insertConfiguration (.new owner) start with
              | error error next => simp [hinsert] at h
              | ok inserted next =>
                  cases inserted with
                  | false =>
                      rw [hinsert] at h
                      cases h
                  | true =>
                      simp only [hinsert, if_true] at h
                      cases h
                      rfl

/-- A registry that started has written its first configuration, where there was none. -/
theorem holds_of_establish {owner : Account} {records : MemoryStore} {start store : σ}
    (hholds : Holds records start) (hfits : RecordStore.Fits σ (.new owner))
    (h : establish settings owner start = .ok () store) :
    Holds (records.withConfiguration (.new owner)) store := by
  obtain ⟨-, -, -, hinserted⟩ := establish_inv h
  cases hconfig : records.config with
  | none =>
      obtain ⟨next, hinsert, hnext⟩ := insertConfiguration hholds hconfig (.new owner)
      rw [hinsert] at hinserted
      cases hinserted
      exact hnext hfits
  | some found =>
      rw [insertConfiguration_of_taken hholds hconfig] at hinserted
      cases hinserted

/-- **A run with any store shows a run in memory**, of the same turns without some
that were refused. -/
theorem shows_run {turns : List Turn} (h : Shows records world)
    (hfits : ∀ turn ∈ turns, turn.Fits σ settings) :
    ∃ turns', turns'.Sublist turns ∧
      Shows (records.run settings turns') (world.run settings turns) := by
  induction turns generalizing records world with
  | nil => exact ⟨[], List.Sublist.slnil, h⟩
  | cons turn turns ih =>
      obtain ⟨hfirst, hrest⟩ := List.forall_mem_cons.mp hfits
      rw [World.run_cons]
      obtain ⟨next, heffect, hnext⟩ := h.effect hfirst
      obtain ⟨turns', hsub, hshows⟩ := ih hnext hrest
      cases heffect with
      | refused => exact ⟨turns', hsub.cons _, hshows⟩
      | @granted operation change _ hverdict =>
          have happly : (Turn.operate operation).apply settings records
              = change.commit records := by
            have hrun := run_eq_verdict settings (RecordStore.sound h.holds) operation
            rw [hverdict] at hrun
            exact Turn.apply_operate_of_ok hrun
          refine ⟨.operate operation :: turns', hsub.cons_cons _, ?_⟩
          rw [World.run_cons, happly]
          exact hshows
      | aside => exact ⟨turn :: turns', hsub.cons_cons _, hshows⟩

end

/-! ### Runs with a database -/

/-- The accounts that an operation puts into the configuration are sized. -/
def Operation.Sized : Operation → Prop
  | .setAuthority _ authority => authority.Sized
  | .updateStakeTerms _ terms => terms.token.Sized
  | .updateRewardTerms _ terms => terms.token.Sized
  | _ => True

/-- The accounts that a turn puts into the configuration are sized. -/
def Turn.Sized : Turn → Prop
  | .operate operation => operation.Sized
  | _ => True

theorem Turn.fits_of_sized {settings : Settings} {turn : Turn} (h : turn.Sized) :
    turn.Fits Database settings := by
  rintro operation rfl world change hgrant hfits config hconfig
  cases hgrant with
  | setAuthority hbefore =>
      cases hconfig
      have hsized : Configuration.Sized _ := hfits _ hbefore
      exact ⟨hsized.owner, h, hsized.stakeToken, hsized.rewardToken⟩
  | updateStakeTerms hbefore =>
      cases hconfig
      have hsized : Configuration.Sized _ := hfits _ hbefore
      exact ⟨hsized.owner, hsized.authority, h, hsized.rewardToken⟩
  | updateRewardTerms hbefore =>
      cases hconfig
      have hsized : Configuration.Sized _ := hfits _ hbefore
      exact ⟨hsized.owner, hsized.authority, hsized.stakeToken, h⟩
  | createReporter => exact hfits config hconfig
  | updateReporter => exact hfits config hconfig
  | activateReporter => exact hfits config hconfig
  | deactivateReporter => exact hfits config hconfig
  | unstakeReporter => exact hfits config hconfig

/-- A configuration that a sized owner starts with is sized. -/
theorem Configuration.sized_new {owner : Account} (h : owner.Sized) :
    (Configuration.new owner).Sized := by
  have hzero : (Account.zero owner.format).Sized := by
    cases owner.format <;> simp [Account.zero, Account.Sized, Account.zeroLength,
      Address.ethereumLength, Address.solanaLength, UInt64.size]
  exact ⟨h, h, hzero, hzero⟩

/-- The world of a registry that an owner started in memory. -/
def World.started (owner : Account) (ledger : Ledger) (now : Seconds) :
    World MemoryStore Ledger :=
  ⟨MemoryStore.empty.withConfiguration (.new owner), ledger, now, .empty⟩

theorem World.sound_started (owner : Account) (ledger : Ledger) (now : Seconds) :
    (World.started owner ledger now).store.Sound :=
  MemoryStore.Sound.empty.withConfiguration (.new owner)

/-- A registry that was started in memory is at its beginning. -/
theorem eq_started_of_establish {settings : Settings} {owner : Account} {store : MemoryStore}
    (hstart : establish settings owner MemoryStore.empty = .ok () store) (ledger : Ledger)
    (now : Seconds) : (⟨store, ledger, now, .empty⟩ : World MemoryStore Ledger)
      = World.started owner ledger now := by
  obtain ⟨rfl, -⟩ : RecordStore.Holds (MemoryStore.empty.withConfiguration (.new owner)) store :=
    holds_of_establish ⟨rfl, MemoryStore.Sound.empty⟩ trivial hstart
  rfl

/-- A registry that was started with a database shows the beginning of one in memory. -/
theorem shows_started_of_establish {settings : Settings} {owner : Account} {db : Database}
    (hstart : establish settings owner Database.fresh = .ok () db) (howner : owner.Sized)
    (ledger : Ledger) (now : Seconds) :
    Shows (World.started owner ledger now) (⟨db, ledger, now, .empty⟩ : World Database Ledger) := by
  have hfresh : RecordStore.Holds MemoryStore.empty Database.fresh :=
    ⟨MemoryStore.Sound.empty, by simp [MemoryStore.empty], rfl⟩
  exact ⟨holds_of_establish hfresh (Configuration.sized_new howner) hstart, rfl⟩

/-- **A run with a database shows a run in memory** that began in the same way. -/
theorem shows_database_run {settings : Settings} {owner : Account} {db : Database}
    {turns : List Turn} (hstart : establish settings owner Database.fresh = .ok () db)
    (howner : owner.Sized) (hturns : ∀ turn ∈ turns, turn.Sized) (ledger : Ledger)
    (now : Seconds) :
    ∃ turns', turns'.Sublist turns ∧
      Shows ((World.started owner ledger now).run settings turns')
        (World.run settings turns ⟨db, ledger, now, .empty⟩) := by
  refine shows_run (shows_started_of_establish hstart howner ledger now) ?_
  intro turn hmem
  exact Turn.fits_of_sized (hturns turn hmem)

/-! ### A sample run -/

namespace Sample

def custody : Account := ⟨.plain, [1]⟩

def owner : Account := ⟨.plain, [2]⟩

def worker : Account := ⟨.plain, [3]⟩

def id : ReporterId := ⟨7⟩

def settings : Settings := ⟨.plain, custody, .zero⟩

/-- The token that is staked first. -/
def token : Account := ⟨.plain, [4]⟩

/-- The worker has eight of the token, and lets the registry pull them. -/
def ledger : Ledger := (Ledger.empty.mint token worker 8).withAllowance token worker custody 8

/-- The world of a registry that was just started in memory. -/
def world : World MemoryStore Ledger := World.started owner ledger 0

/-- The world of a registry that was just started with a database. -/
def databaseWorld : World Database Ledger := world.withStore (.ofMemory world.store)

/-- The reporter that is created for an account. -/
def created (account : Account) : Reporter := .new id account .validator "" ""

/-- A stake of five is locked in the token, given up while another token is
configured, and waited for. -/
def beforeWithdrawal : List Turn :=
  [.operate (.updateStakeTerms owner ⟨token, 10, 5, 5, 5, 5⟩),
    .operate (.createReporter owner id worker .validator "" ""),
    .operate (.activateReporter worker id),
    .operate (.updateStakeTerms owner ⟨⟨.plain, [6]⟩, 10, 7, 7, 7, 7⟩),
    .operate (.deactivateReporter worker id),
    .clock (.advance 20)]

/-- The same, and the worker comes to hold as much of the token as there can be. -/
def beforeOverflow : List Turn :=
  beforeWithdrawal ++ [.ledger (.mint token worker (BitVec.allOnes 128))]

theorem established :
    establish settings owner MemoryStore.empty = .ok () world.store := rfl

theorem established_database :
    establish settings owner Database.fresh = .ok () databaseWorld.store := rfl

theorem sized_single (b : UInt8) : (⟨.plain, [b]⟩ : Account).Sized := by
  show 1 < UInt64.size
  decide

theorem sized_owner : owner.Sized := sized_single 2

theorem sized_beforeWithdrawal : ∀ turn ∈ beforeWithdrawal, turn.Sized := by
  simp only [beforeWithdrawal, List.forall_mem_cons]
  exact ⟨sized_single 4, trivial, trivial, sized_single 6, trivial, trivial, by simp⟩

theorem sized_beforeOverflow : ∀ turn ∈ beforeOverflow, turn.Sized :=
  List.forall_mem_append.mpr ⟨sized_beforeWithdrawal, by simp [Turn.Sized]⟩

end Sample

end ReporterRegistry
