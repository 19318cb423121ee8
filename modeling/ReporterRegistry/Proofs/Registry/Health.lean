import ReporterRegistry.Proofs.Registry.Alike
import ReporterRegistry.Proofs.Registry.Readback
import ReporterRegistry.Proofs.Store.Agreement

/-!
# A healthy registry does not fail because of its store

A store refuses a reporter whose unlock time is out of its range, one that it does not
have, and one that it cannot read. None of this happens to a registry that was started on
an empty store: it writes times that it has capped, it writes under ids that it has just
read, and what it wrote it can read again, if the accounts were canonical.

An operation does not answer all that goes wrong on its way: of the write that puts a
reporter back after a failed payout it ignores the result. So the operation is also run
with a store that keeps the errors of what it refused to write (`Watched`). It keeps none.
-/

namespace ReporterRegistry

open Registry RecordStore

/-! ### Results without an error of the store -/

namespace Registry

/-- The result is not an error of the store. -/
def Blameless {ω α : Type} (result : EStateM.Result RegistryError ω α) : Prop :=
  ∀ cause state, result ≠ .error (.store cause) state

/-- The decision is not an error of the store. -/
def Considered {α : Type} (decision : Except RegistryError α) : Prop :=
  ∀ cause, decision ≠ .error (.store cause)

section

variable {ω α β : Type} {decision : Except RegistryError α}

theorem blameless_ok (a : α) (state : ω) : Blameless (.ok a state) := nofun

/-- An error that the registry decided on is not the store's. -/
theorem blameless_error {error : RegistryError} (h : Considered (.error error : Except _ α))
    (state : ω) : Blameless (.error error state : EStateM.Result _ ω β) := by
  intro cause state' herror
  cases herror
  exact h cause rfl

theorem blameless_settle (h : Considered decision) (state : ω) :
    Blameless (settle state decision) := by
  cases decision with
  | ok a => exact blameless_ok a state
  | error error => exact blameless_error h state

/-- A check of the registry is passed, or answered. -/
theorem blameless_require {check : Except RegistryError Unit}
    {rest : Unit → EStateM RegistryError ω α} {state : ω} (h : Considered check)
    (hrest : Blameless (rest () state)) : Blameless ((require check >>= rest) state) := by
  cases check with
  | ok u => exact hrest
  | error error => exact blameless_error h state

theorem considered_ok (a : α) : Considered (.ok a) := nofun

/-- If no step is stopped by the store, the sequence is not. -/
theorem Considered.bind {rest : α → Except RegistryError β} (h : Considered decision)
    (hrest : ∀ a, Considered (rest a)) : Considered (decision >>= rest) := by
  cases decision with
  | ok a => exact hrest a
  | error error =>
      intro cause hbind
      cases hbind
      exact h cause rfl

theorem Considered.throwIf {c : Prop} [Decidable c] {error : RegistryError}
    {skipped : Unit → Except RegistryError α} (herror : ∀ cause, error ≠ .store cause)
    (h : Considered decision) :
    Considered (if c then throw error >>= skipped else decision) := by
  by_cases hc : c
  · rw [if_pos hc]
    intro cause hthrow
    cases hthrow
    exact herror cause rfl
  · rw [if_neg hc]
    exact h

end

/-! ### What an operation decides by itself -/

theorem considered_configuration (world : World MemoryStore Ledger) :
    Considered world.configuration := by
  intro cause h
  cases (World.configuration_eq_error_iff.mp h).2

/-- A missing reporter is an error of the registry, not of the store. -/
theorem considered_reporter (world : World MemoryStore Ledger) (id : ReporterId) :
    Considered (world.reporter id) := by
  intro cause h
  cases (World.reporter_eq_error_iff.mp h).2

theorem considered_standing (required : Standing) (holds : Bool) :
    Considered (checkStanding required holds) := by
  cases holds <;> exact nofun

theorem considered_format (settings : Settings) (account : Account) :
    Considered (checkFormat settings account) := by
  unfold checkFormat
  split <;> exact nofun

theorem considered_nonZero (kind : ValueKind) (account : Account) :
    Considered (checkNonZero kind account) := by
  unfold checkNonZero
  split <;> exact nofun

theorem considered_stakeTerms (terms : StakeTerms) : Considered (checkStakeTerms terms) := by
  unfold checkStakeTerms
  cases terms.validate <;> exact nofun

/-- Settings are checked before the store is used. -/
theorem considered_settings (settings : Settings) : Considered (checkSettings settings) :=
  (considered_format _ _).bind fun _ => considered_nonZero _ _

/-- What the ledger refuses is passed on as an error of the ledger. -/
theorem considered_ofToken {α : Type} (x : Except TokenError α) :
    Considered (x.mapError RegistryError.ofToken) := by
  cases x with
  | ok a => exact nofun
  | error error => cases error <;> exact nofun

theorem considered_lock (settings : Settings) (token payer : Account) (amount : Amount)
    (ledger : Ledger) : Considered (ledger.lock settings token payer amount) := by
  unfold Ledger.lock
  split
  · split
    · exact nofun
    · exact considered_ofToken _
  · exact nofun

theorem considered_release (settings : Settings) (token payee : Account) (amount : Amount)
    (ledger : Ledger) : Considered (ledger.release settings token payee amount) := by
  unfold Ledger.release
  split
  · exact considered_ofToken _
  · exact nofun

/-- **No operation decides against its caller because of the store.** -/
theorem considered_verdict (settings : Settings) (world : World MemoryStore Ledger)
    (operation : Operation) : Considered (operation.verdict settings world) := by
  cases operation with
  | setAuthority caller authority =>
      refine (considered_configuration world).bind fun config => ?_
      refine (considered_standing _ _).bind fun _ => ?_
      refine (considered_format _ _).bind fun _ => ?_
      exact (considered_nonZero _ _).bind fun _ => considered_ok _
  | updateStakeTerms caller terms =>
      refine (considered_configuration world).bind fun config => ?_
      refine (considered_standing _ _).bind fun _ => ?_
      refine (considered_format _ _).bind fun _ => ?_
      exact (considered_stakeTerms _).bind fun _ => considered_ok _
  | updateRewardTerms caller terms =>
      refine (considered_configuration world).bind fun config => ?_
      refine (considered_standing _ _).bind fun _ => ?_
      exact (considered_format _ _).bind fun _ => considered_ok _
  | createReporter caller id account role name url =>
      refine (considered_configuration world).bind fun config => ?_
      refine (considered_standing _ _).bind fun _ => ?_
      refine (considered_format _ _).bind fun _ => ?_
      exact Considered.throwIf nofun (considered_ok _)
  | updateReporter caller id account role name url =>
      refine (considered_configuration world).bind fun config => ?_
      refine (considered_standing _ _).bind fun _ => ?_
      refine (considered_format _ _).bind fun _ => ?_
      exact (considered_reporter world id).bind fun _ => considered_ok _
  | activateReporter caller id =>
      refine (considered_configuration world).bind fun config => ?_
      refine (considered_reporter world id).bind fun previous => ?_
      refine (considered_standing _ _).bind fun _ => ?_
      refine Considered.throwIf nofun ?_
      exact (considered_lock _ _ _ _ _).bind fun _ => considered_ok _
  | deactivateReporter caller id =>
      refine (considered_configuration world).bind fun config => ?_
      refine (considered_reporter world id).bind fun previous => ?_
      refine (considered_standing _ _).bind fun _ => ?_
      exact Considered.throwIf nofun (considered_ok _)
  | unstakeReporter caller id =>
      refine (considered_configuration world).bind fun config => ?_
      refine (considered_reporter world id).bind fun previous => ?_
      refine (considered_standing _ _).bind fun _ => ?_
      refine Considered.throwIf nofun ?_
      refine Considered.throwIf nofun ?_
      refine Considered.throwIf nofun ?_
      exact (considered_release _ _ _ _ _).bind fun _ => considered_ok _

end Registry

/-! ### Stores that answer -/

/-- Whatever is asked of the store, it answers. -/
structure Answers {σ : Type} [Store σ] (store : σ) : Prop where
  configuration : ∃ found, Store.configuration store = .ok found store
  reporter : ∀ id, ∃ found, Store.reporter id store = .ok found store
  count : ∃ n, Store.count store = .ok n store
  page : ∀ skip take, ∃ found, Store.page skip take store = .ok found store
  findByAccount : ∀ account, ∃ found, Store.findByAccount account store = .ok found store

theorem MemoryStore.answers (store : MemoryStore) : Answers store where
  configuration := ⟨_, rfl⟩
  reporter _ := ⟨_, rfl⟩
  count := ⟨_, rfl⟩
  page _ _ := ⟨_, rfl⟩
  findByAccount _ := ⟨_, rfl⟩

/-- **A database answers** if the records that it holds are such that it can give them
back. -/
theorem MemoryStore.Storable.answers {records : MemoryStore} (h : records.Storable) :
    Answers (Database.ofMemory records) where
  configuration := ⟨_, Database.answer_of_ok (Database.configuration_ofMemory h.sized)⟩
  reporter id := ⟨_, Database.answer_of_ok (Database.reporter_ofMemory_of_storable h id)⟩
  count := ⟨_, rfl⟩
  page skip take := by
    have hreadable : ∀ r ∈ Database.selected records skip take, r.Readable := by
      intro r hr
      exact h.readable_of_mem (List.mem_of_mem_drop (List.mem_of_mem_take hr))
    have hpage : (Database.ofMemory records).page skip take
        = .ok (Database.selected records skip take) := by
      rw [Database.page_ofMemory_eq, Database.readRows_of_readable hreadable]
    exact ⟨_, Database.answer_of_ok hpage⟩
  findByAccount account := ⟨_, Database.answer_of_ok (Database.findByAccount_ofMemory h account)⟩

section

variable {σ : Type} {world : World σ Ledger}

/-- A read that is answered lets the operation go on. -/
theorem Registry.blameless_onStore {α : Type} {operation : EStateM StoreError σ α}
    (h : ∃ a, operation world.store = .ok a world.store) : Blameless (onStore operation world) := by
  obtain ⟨a, h⟩ := h
  rw [onStore, h]
  exact blameless_ok a _

theorem Registry.blameless_map {ω α β : Type} {action : EStateM RegistryError ω α} {state : ω}
    (f : α → β) (h : Blameless (action state)) : Blameless ((f <$> action) state) := by
  simp only [Functor.map, EStateM.map]
  cases haction : action state with
  | ok a next => exact blameless_ok _ _
  | error error next =>
      rw [haction] at h
      intro cause state' herror
      cases herror
      exact h cause next rfl

variable [Store σ]

/-- That there is no configuration is again an error of the registry. -/
theorem Answers.blameless_configuration (h : Answers world.store) :
    Blameless (Registry.configuration world) := by
  obtain ⟨found, hfound⟩ := h.configuration
  simp only [Registry.configuration, bind, EStateM.bind, onStore, hfound]
  intro cause state herror
  cases found <;> cases herror

theorem Answers.blameless_reporter (h : Answers world.store) (id : ReporterId) :
    Blameless (Registry.reporter id world) := by
  obtain ⟨found, hfound⟩ := h.reporter id
  simp only [Registry.reporter, bind, EStateM.bind, onStore, hfound]
  intro cause state herror
  cases found <;> cases herror

/-- A question to a registry is answered, or refused by the registry itself. -/
theorem Answers.blameless_query (h : Answers world.store) (query : Session.Query) :
    Blameless (query.run world) := by
  cases query with
  | owner => exact blameless_map _ h.blameless_configuration
  | authority => exact blameless_map _ h.blameless_configuration
  | stakeTerms => exact blameless_map _ h.blameless_configuration
  | rewardTerms => exact blameless_map _ h.blameless_configuration
  | reporter id => exact blameless_map _ (h.blameless_reporter id)
  | count => exact blameless_map _ (blameless_onStore h.count)
  | page skip take => exact blameless_map _ (blameless_onStore (h.page skip take))
  | findByAccount account => exact blameless_map _ (blameless_onStore (h.findByAccount account))

end

/-! ### A store that keeps what it refused -/

/-- A store with the errors of all writes that it refused. -/
structure Watched (σ : Type) where
  inner : σ
  refused : List StoreError

namespace Watched

variable {σ α : Type}

/-- A store that has not refused anything. -/
def fresh (store : σ) : Watched σ := ⟨store, []⟩

/-- Read from the store. -/
def read (operation : EStateM StoreError σ α) : EStateM StoreError (Watched σ) α := fun store =>
  match operation store.inner with
  | .ok a inner => .ok a { store with inner := inner }
  | .error error inner => .error error { store with inner := inner }

/-- Write to the store, and keep the error if it refuses. -/
def write (operation : EStateM StoreError σ α) : EStateM StoreError (Watched σ) α := fun store =>
  match operation store.inner with
  | .ok a inner => .ok a { store with inner := inner }
  | .error error inner => .error error ⟨inner, store.refused ++ [error]⟩

instance [Store σ] : Store (Watched σ) where
  configuration := read Store.configuration
  insertConfiguration config := write (Store.insertConfiguration config)
  putConfiguration config := write (Store.putConfiguration config)
  reporter id := read (Store.reporter id)
  insertReporter reporter := write (Store.insertReporter reporter)
  putReporter reporter := write (Store.putReporter reporter)
  count := read Store.count
  page skip take := read (Store.page skip take)
  findByAccount account := read (Store.findByAccount account)

variable {operation : EStateM StoreError σ α} {store next : σ} {a : α}

theorem read_fresh (h : operation store = .ok a next) :
    read operation (fresh store) = .ok a (fresh next) := by
  simp only [read, fresh, h]

theorem read_fresh_error {error : StoreError} (h : operation store = .error error next) :
    read operation (fresh store) = .error error (fresh next) := by
  simp only [read, fresh, h]

/-- A write that is taken leaves nothing to keep. -/
theorem write_fresh (h : operation store = .ok a next) :
    write operation (fresh store) = .ok a (fresh next) := by
  simp only [write, fresh, h]

/-- A watched store holds what the store holds, as long as nothing was refused. -/
instance [Store σ] [RecordStore σ] : RecordStore (Watched σ) where
  Holds records store := Holds records store.inner ∧ store = fresh store.inner
  Fits config := Fits σ config
  sound h := RecordStore.sound h.1
  fits h := RecordStore.fits h.1
  unique h h' := by rw [h'.2, h.2, RecordStore.unique h.1 h'.1]
  configuration {records store} h := by
    rw [h.2]
    exact read_fresh (RecordStore.configuration h.1)
  reporter {records store} h id := by
    rw [h.2]
    rcases RecordStore.reporter h.1 id with hread | ⟨error, hread⟩
    · exact Or.inl (read_fresh hread)
    · exact Or.inr ⟨error, read_fresh_error hread⟩
  insertConfiguration {records store} h hnone config := by
    obtain ⟨next, hinsert, hnext⟩ := RecordStore.insertConfiguration h.1 hnone config
    rw [h.2]
    exact ⟨fresh next, write_fresh hinsert, fun hfits => ⟨hnext hfits, rfl⟩⟩
  insertConfiguration_of_taken {records store found} h hsome config := by
    rw [h.2]
    exact write_fresh (RecordStore.insertConfiguration_of_taken h.1 hsome config)
  putConfiguration {records store} h config := by
    obtain ⟨next, hput, hnext⟩ := RecordStore.putConfiguration h.1 config
    rw [h.2]
    exact ⟨fresh next, write_fresh hput, fun hfits => ⟨hnext hfits, rfl⟩⟩
  insertReporter {records store} h {reporter} htime hnone := by
    obtain ⟨next, hinsert, hnext⟩ := RecordStore.insertReporter h.1 htime hnone
    rw [h.2]
    exact ⟨fresh next, write_fresh hinsert, hnext, rfl⟩
  insertReporter_of_taken {records store} h {reporter found} htime hsome := by
    rw [h.2]
    exact write_fresh (RecordStore.insertReporter_of_taken h.1 htime hsome)
  putReporter {records store} h {reporter found} htime hsome := by
    obtain ⟨next, hput, hnext⟩ := RecordStore.putReporter h.1 htime hsome
    rw [h.2]
    exact ⟨fresh next, write_fresh hput, hnext, rfl⟩

end Watched

/-- The same world, with its store watched from now on. -/
def World.watched {σ : Type} (world : World σ Ledger) : World (Watched σ) Ledger :=
  world.withStore (.fresh world.store)

/-! ### Worlds without failures of the store -/

/-- In a healthy world neither an operation nor a question fails because of the store, and
neither does starting a registry on it once more. -/
structure World.Healthy {σ : Type} [Store σ] (settings : Settings) (world : World σ Ledger) :
    Prop where
  operation : ∀ operation : Operation, Blameless (operation.run settings world)
  query : ∀ query : Session.Query, Blameless (query.run world)
  attach : ∀ settings', Blameless (attach settings' world.store)
  establish : ∀ settings' owner, Blameless (establish settings' owner world.store)

/-- The store refuses no write of the operation: with a watched store it does the same, and
the store has nothing to keep. -/
def Operation.Unrefused {σ : Type} [Store σ] (settings : Settings) (world : World σ Ledger)
    (operation : Operation) : Prop :=
  SameResult (fun next next' => next' = next.watched) (operation.run settings world)
    (operation.run settings world.watched)

section

variable {σ : Type} [Store σ] [RecordStore σ] {settings : Settings}
  {records : World MemoryStore Ledger} {world : World σ Ledger}

/-- Watching a store does not change what it holds. -/
theorem Shows.watched (h : Shows records world) : Shows records world.watched where
  holds := ⟨h.holds, rfl⟩
  same := by
    rw [h.same]
    rfl

/-- The time may be any other. -/
theorem Shows.at (h : Shows records world) (time : Seconds) :
    Shows { records with now := time } { world with now := time } where
  holds := h.holds
  same := by
    rw [h.same]
    rfl

omit [RecordStore σ] in
/-- A store that answers leaves no record unread. -/
theorem Answers.not_unread (h : Answers world.store) (operation : Operation) :
    ¬ operation.Unread settings world := by
  rintro ⟨id, error, hread, -⟩
  obtain ⟨found, hfound⟩ := h.reporter id
  rw [hfound] at hread
  cases hread

omit [RecordStore σ] in
theorem Answers.watched (h : Answers world.store) : Answers world.watched.store where
  configuration := h.configuration.imp fun _ => Watched.read_fresh
  reporter id := (h.reporter id).imp fun _ => Watched.read_fresh
  count := h.count.imp fun _ => Watched.read_fresh
  page skip take := (h.page skip take).imp fun _ => Watched.read_fresh
  findByAccount account := (h.findByAccount account).imp fun _ => Watched.read_fresh

/-- Where the store answers, an operation does what it decides. -/
theorem Shows.run_of_answers (h : Shows records world) (hanswers : Answers world.store)
    (settings : Settings) (operation : Operation) :
    match operation.verdict settings records with
    | .error error => operation.run settings world = .error error world
    | .ok change => ∃ store,
        operation.run settings world
            = .ok change.outcome ((change.commit records).withStore store) ∧
          ((∀ config, change.store.config = some config → RecordStore.Fits σ config) →
            Holds change.store store) := by
  rcases h.answer settings operation with hunread | hanswer
  · exact absurd hunread (hanswers.not_unread operation)
  · exact hanswer

/-- Starting a registry on a store with records is refused by the registry itself. -/
theorem Registry.blameless_establish {records : MemoryStore} {store : σ}
    (h : Holds records store) (settings : Settings) (owner : Account) :
    Blameless (establish settings owner store) := by
  have hinsert : ∃ inserted next,
      Store.insertConfiguration (.new owner) store = .ok inserted next := by
    cases hconfig : records.config with
    | none =>
        obtain ⟨next, hinsert, -⟩ := RecordStore.insertConfiguration h hconfig (.new owner)
        exact ⟨true, next, hinsert⟩
    | some found => exact ⟨false, store, RecordStore.insertConfiguration_of_taken h hconfig _⟩
  obtain ⟨inserted, next, hinsert⟩ := hinsert
  unfold establish
  refine blameless_require (considered_settings _) ?_
  refine blameless_require (considered_format _ _) ?_
  refine blameless_require (considered_nonZero _ _) ?_
  simp only [bind, EStateM.bind, onBareStore, hinsert]
  intro cause state herror
  cases inserted <;> cases herror

theorem Registry.considered_admits (settings : Settings) (config : Option Configuration) :
    Considered (admits settings config) := by
  refine (considered_settings settings).bind fun _ => ?_
  cases config with
  | none => exact nofun
  | some config => exact considered_format _ _

/-- **A world is healthy** if its store holds records and answers. -/
theorem Shows.healthy (h : Shows records world) (hanswers : Answers world.store) :
    world.Healthy settings where
  operation operation := by
    have hrun := h.run_of_answers hanswers settings operation
    have hdecision := considered_verdict settings records operation
    cases hverdict : operation.verdict settings records with
    | error error =>
        rw [hverdict] at hrun hdecision
        rw [hrun]
        exact blameless_error hdecision world
    | ok change =>
        rw [hverdict] at hrun
        obtain ⟨store, hok, -⟩ := hrun
        rw [hok]
        exact blameless_ok _ _
  query query := hanswers.blameless_query query
  attach settings' := by
    rw [attach_settles settings' (RecordStore.configuration h.holds)]
    exact blameless_settle (considered_admits settings' _) _
  establish settings' owner := blameless_establish h.holds settings' owner

/-- **No write is refused**, the one that puts back what an operation has changed included. -/
theorem Shows.unrefused (h : Shows records world) (hanswers : Answers world.store)
    {operation : Operation} (hfits : (Turn.operate operation).Fits σ settings) :
    operation.Unrefused settings world := by
  have hrun := h.run_of_answers hanswers settings operation
  have hwatched := h.watched.run_of_answers hanswers.watched settings operation
  unfold Operation.Unrefused
  cases hverdict : operation.verdict settings records with
  | error error =>
      rw [hverdict] at hrun hwatched
      rw [hrun, hwatched]
      exact .error error rfl
  | ok change =>
      rw [hverdict] at hrun hwatched
      obtain ⟨store, hok, hholds⟩ := hrun
      obtain ⟨store', hok', hholds'⟩ := hwatched
      have hchange : ∀ config, change.store.config = some config → Fits σ config :=
        hfits operation rfl (grant_of_verdict hverdict) fun _ => RecordStore.fits h.holds
      -- Both stores hold the records that the change leaves, and one of them is watched.
      have hholdsFresh : Holds change.store (Watched.fresh store) := ⟨hholds hchange, rfl⟩
      have hfresh : store' = .fresh store := RecordStore.unique hholdsFresh (hholds' hchange)
      rw [hok, hok', hfresh]
      exact .ok _ rfl

end

/-! ### Runs -/

/-- What a database can be asked and told, if all that was written can be read again. -/
theorem MemoryStore.Readable.answers {records : MemoryStore} {db : Database}
    (h : records.Readable) (hholds : Holds records db) : Answers db := by
  obtain ⟨hsound, hsized, rfl⟩ := hholds
  exact MemoryStore.Storable.answers ⟨hsound, hsized, h.reporter⟩

/-- **A registry does not fail because of its store.** In memory this is so after every run
and at any time. With a database it is so if the accounts that were written are canonical,
whatever the arguments of the next operation or question are. Nor is any write refused that
an operation makes on its way, such as the one that restores a reporter after a failed
payout. -/
theorem store_never_fails (settings : Settings) (owner : Account) (ledger : Ledger)
    (now : Seconds) (turns : List Turn) (time : Seconds) :
    (∀ {store : MemoryStore}, establish settings owner MemoryStore.empty = .ok () store →
      let world : World MemoryStore Ledger :=
        { World.run settings turns ⟨store, ledger, now, .empty⟩ with now := time }
      world.Healthy settings ∧ ∀ operation : Operation, operation.Unrefused settings world) ∧
    ∀ {db : Database}, establish settings owner Database.fresh = .ok () db → owner.Sized →
      (∀ turn ∈ turns, turn.Sized ∧ turn.Canonical) →
      let world : World Database Ledger :=
        { World.run settings turns ⟨db, ledger, now, .empty⟩ with now := time }
      world.Healthy settings ∧
        ∀ operation : Operation, operation.Sized → operation.Unrefused settings world := by
  constructor
  · intro store hstart
    have hsound : (World.run settings turns ⟨store, ledger, now, .empty⟩).store.Sound := by
      rw [eq_started_of_establish hstart]
      exact World.sound_run settings (World.sound_started owner ledger now) turns
    have hshows := (Shows.refl hsound).at time
    have hanswers : Answers (World.run settings turns ⟨store, ledger, now, .empty⟩).store :=
      MemoryStore.answers _
    exact ⟨hshows.healthy hanswers, fun operation =>
      hshows.unrefused hanswers (Turn.fits_memory settings _)⟩
  · intro db hstart howner hturns
    obtain ⟨turns', hsub, hshows⟩ :=
      shows_database_run hstart howner (fun turn hmem => (hturns turn hmem).1) ledger now
    have hreadable : ((World.started owner ledger now).run settings turns').store.Readable :=
      (run_induction (P := fun world => world.store.Readable)
        (fun hmem _ h heffect => heffect.readable (hturns _ (hsub.subset hmem)).2 h)
        (World.sound_started owner ledger now) (.start owner)).2
    have hanswers := hreadable.answers hshows.holds
    have hlater := hshows.at time
    exact ⟨hlater.healthy hanswers, fun operation hsized =>
      hlater.unrefused hanswers (Turn.fits_of_sized hsized)⟩

namespace Sample

theorem canonical_beforeOverflow : ∀ turn ∈ beforeOverflow, turn.Canonical := by
  have hstaked : token.isCanonical = true := by decide
  have hworker : worker.isCanonical = true := by decide
  have hlater : (⟨.plain, [6]⟩ : Account).isCanonical = true := by decide
  simp only [beforeOverflow, beforeWithdrawal, List.cons_append, List.nil_append,
    List.forall_mem_cons]
  exact ⟨hstaked, hworker, trivial, hlater, trivial, trivial, trivial, by simp⟩

/-- The world in which a withdrawal of the worker fails, at the last time that there is. -/
def doomed : World Database Ledger :=
  { databaseWorld.run settings beforeOverflow with now := BitVec.allOnes 64 }

/-- The same world in memory. -/
def doomedMemory : World MemoryStore Ledger :=
  { world.run settings beforeOverflow with now := BitVec.allOnes 64 }

end Sample

/-- The withdrawal fails after the database was changed, and the change back is not refused. -/
theorem store_never_fails_sample :
    (match (Operation.unstakeReporter Sample.worker Sample.id).run Sample.settings
        Sample.doomed with
      | .error error _ => some error
      | .ok _ _ => none) = some (.transferFailed (.transferFailed .balanceOverflow)) ∧
      (Operation.unstakeReporter Sample.worker Sample.id).Unrefused Sample.settings
        Sample.doomed ∧
      Sample.doomed.Healthy Sample.settings ∧ Sample.doomedMemory.Healthy Sample.settings := by
  obtain ⟨hmemory, hdatabase⟩ := store_never_fails Sample.settings Sample.owner Sample.ledger 0
    Sample.beforeOverflow (BitVec.allOnes 64)
  have hturns : ∀ turn ∈ Sample.beforeOverflow, turn.Sized ∧ turn.Canonical := fun turn hmem =>
    ⟨Sample.sized_beforeOverflow turn hmem, Sample.canonical_beforeOverflow turn hmem⟩
  obtain ⟨hhealthy, hunrefused⟩ := hdatabase Sample.established_database Sample.sized_owner hturns
  exact ⟨by decide +kernel, hunrefused _ trivial, hhealthy, (hmemory Sample.established).1⟩

end ReporterRegistry
