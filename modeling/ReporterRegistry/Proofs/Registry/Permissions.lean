import ReporterRegistry.Proofs.Registry.Run

/-!
# Who may change what

An operation that succeeds was asked for by someone who may ask for it, and leaves
alone all that it is not about.

* The owner and the authority change one part of the configuration (`Governs`).
* The authority creates and changes the record of one reporter (`Manages`).
* A reporter's own account takes the reporter one step along its course (`Advances`),
  and may move balances of one token between itself and the registry's account.

`Operation.Permitted` says which of them an operation is. It compares the world before
with the world after, and does not say how one comes from the other.
-/

namespace ReporterRegistry

/-! ### Frames -/

/-- The owner or the authority changes the configuration, and nothing else changes. -/
structure Governs (caller : Account) (change : Configuration → Configuration)
    (before after : World MemoryStore Ledger) : Prop where
  configuration : ∃ config, before.store.config = some config ∧
    (caller = config.owner ∨ caller = config.authority) ∧
    after.store.config = some (change config)
  reporters : after.store.reporters = before.store.reporters
  ledger : after.ledger = before.ledger

/-- Of all that is stored, only what stands under one id changes. -/
structure OnlyRecord (id : ReporterId) (before after : MemoryStore) : Prop where
  configuration : after.config = before.config
  others : ∀ other, other ≠ id → after.reporters.get? other = before.reporters.get? other
  /-- Nobody is moved: a new record comes last, and one that exists stays in its place. -/
  order : after.reporters.keys
    = before.reporters.keys ++ if (before.reporters.get? id).isSome then [] else [id]

/-- The authority writes the record of one reporter, who is inactive then, and nothing
else changes. -/
structure Manages (caller : Account) (id : ReporterId) (before after : World MemoryStore Ledger) :
    Prop where
  authority : ∃ config, before.store.config = some config ∧ caller = config.authority
  record : OnlyRecord id before.store after.store
  inactive : ∃ reporter, after.store.reporters.get? id = some reporter ∧
    reporter.id = id ∧ reporter.status = .inactive
  ledger : after.ledger = before.ledger

/-- A reporter's own account takes the reporter from one status to another. Who the
reporter is stays the same, and so does every other record and the configuration. -/
structure Advances (caller : Account) (id : ReporterId) (source target : Status)
    (before after : World MemoryStore Ledger) : Prop where
  reporter : ∃ previous next, before.store.reporters.get? id = some previous ∧
    after.store.reporters.get? id = some next ∧
    caller = previous.account ∧ previous.status = source ∧ next.status = target ∧
    next.id = previous.id ∧ next.account = previous.account ∧ next.name = previous.name ∧
    next.url = previous.url ∧ next.role = previous.role
  record : OnlyRecord id before.store after.store

/-- Who may ask for an operation, and what may be different after it. -/
def Operation.Permitted (settings : Settings) (before after : World MemoryStore Ledger) :
    Operation → Prop
  | .setAuthority caller authority =>
    Governs caller (fun config => { config with authority := authority }) before after
  | .updateStakeTerms caller terms =>
    Governs caller (fun config => { config with stake := terms }) before after
  | .updateRewardTerms caller terms =>
    Governs caller (fun config => { config with reward := terms }) before after
  | .createReporter caller id _ _ _ _ =>
    Manages caller id before after ∧ before.store.reporters.get? id = none
  | .updateReporter caller id _ _ _ _ =>
    Manages caller id before after ∧ (before.store.reporters.get? id).isSome
  | .activateReporter caller id =>
    Advances caller id .inactive .active before after ∧
      ∃ token, OnlyEntries token [caller, settings.custody] [(caller, settings.custody)]
        before.ledger after.ledger
  | .deactivateReporter caller id =>
    Advances caller id .active .unstaking before after ∧ after.ledger = before.ledger
  | .unstakeReporter caller id =>
    Advances caller id .unstaking .inactive before after ∧
      ∃ token, OnlyEntries token [caller, settings.custody] [] before.ledger after.ledger

/-! ### Records -/

/-- Writing a reporter changes what stands under its id. -/
theorem OnlyRecord.withReporter (store : MemoryStore) (reporter : Reporter) :
    OnlyRecord reporter.id store (store.withReporter reporter) where
  configuration := rfl
  others other hne := OrderedMap.get?_insert_of_ne store.reporters reporter hne
  order := by
    rw [MemoryStore.reporters_withReporter, OrderedMap.keys_insert]
    by_cases hmem : reporter.id ∈ store.reporters.keys
    · have hsome : (store.reporters.get? reporter.id).isSome = true :=
        Option.isSome_iff_ne_none.mpr fun hnone => OrderedMap.get?_eq_none_iff.mp hnone hmem
      rw [if_pos hmem, if_pos hsome, List.append_nil]
    · have hnone := OrderedMap.get?_eq_none_iff.mpr hmem
      rw [if_neg hmem, hnone]
      rfl

/-! ### Ledgers -/

namespace OnlyEntries

variable {settings : Settings} {token payer payee holder : Account} {amount : Amount}
  {ledger next : Ledger}

/-- Locking a stake changes what the reporter and the registry hold, and what the
registry may pull from the reporter. -/
theorem lock (h : ledger.lock settings token holder amount = .ok next) :
    OnlyEntries token [holder, settings.custody] [(holder, settings.custody)] ledger next := by
  rcases Ledger.lock_eq_ok_iff.mp h with ⟨-, rfl⟩ | ⟨-, -, hpull⟩
  · exact refl token _ _ next
  · exact transferFrom hpull

/-- Releasing a stake changes what the registry and the reporter hold. -/
theorem release (h : ledger.release settings token holder amount = .ok next) :
    OnlyEntries token [holder, settings.custody] [] ledger next := by
  rcases Ledger.release_eq_ok_iff.mp h with ⟨-, rfl⟩ | ⟨-, hmove⟩
  · exact refl token _ _ next
  have hmoved := move hmove
  refine ⟨?_, hmoved.allowance⟩
  intro token' holder' hnot
  refine hmoved.balance token' holder' ?_
  rintro ⟨htoken, hmem⟩
  exact hnot ⟨htoken, List.mem_reverse.mp hmem⟩

end OnlyEntries

/-! ### Operations -/

section

variable {settings : Settings} {world : World MemoryStore Ledger}

theorem Governs.reconfigure {caller : Account} {config : Configuration}
    (hconfig : world.store.config = some config)
    (hcaller : config.isOwnerOrAuthority caller = true) (change : Configuration → Configuration)
    (event : Event) :
    Governs caller change world ((world.reconfigure (change config) event).commit world) where
  configuration := by
    have hstanding : caller = config.owner ∨ caller = config.authority := by
      simpa [Configuration.isOwnerOrAuthority] using hcaller
    exact ⟨config, hconfig, hstanding, rfl⟩
  reporters := rfl
  ledger := rfl

theorem Manages.withReporter {caller : Account} {config : Configuration}
    (hconfig : world.store.config = some config) (hcaller : config.isAuthority caller = true)
    (reporter : Reporter) (hstatus : reporter.status = .inactive) (event : Event)
    (outcome : Outcome) :
    Manages caller reporter.id world
      (Change.commit ⟨world.store.withReporter reporter, world.ledger, event, outcome⟩ world) where
  authority := ⟨config, hconfig, by simpa [Configuration.isAuthority] using hcaller⟩
  record := OnlyRecord.withReporter world.store reporter
  inactive := ⟨reporter, OrderedMap.get?_insert_self _ _ _, rfl, hstatus⟩
  ledger := rfl

/-- A step of the course writes a reporter with the details of the one that was there. -/
theorem Advances.withReporter {previous : Reporter}
    (hprevious : world.store.reporters.get? previous.id = some previous) (next : Reporter)
    (hsame : next.id = previous.id ∧ next.account = previous.account ∧
      next.name = previous.name ∧ next.url = previous.url ∧ next.role = previous.role)
    (ledger : Ledger) (event : Event) (outcome : Outcome) :
    Advances previous.account previous.id previous.status next.status world
      (Change.commit ⟨world.store.withReporter next, ledger, event, outcome⟩ world) := by
  have hid := hsame.1
  rw [← hid] at hprevious ⊢
  exact {
    reporter := ⟨previous, next, hprevious, OrderedMap.get?_insert_self _ _ _, rfl, rfl, rfl, hsame⟩
    record := OnlyRecord.withReporter world.store next }

/-- **Every granted operation is permitted.** -/
theorem Grant.permitted {operation : Operation} {change : Change}
    (h : Grant settings world operation change) (hsound : world.store.Sound) :
    operation.Permitted settings world (change.commit world) := by
  cases h with
  | setAuthority hconfig hcaller =>
      exact Governs.reconfigure hconfig hcaller
        (fun config => { config with authority := _ }) _
  | updateStakeTerms hconfig hcaller =>
      exact Governs.reconfigure hconfig hcaller (fun config => { config with stake := _ }) _
  | updateRewardTerms hconfig hcaller =>
      exact Governs.reconfigure hconfig hcaller (fun config => { config with reward := _ }) _
  | createReporter hconfig hcaller _ hnew =>
      exact ⟨Manages.withReporter hconfig hcaller (.new _ _ _ _ _) rfl _ _, hnew⟩
  | updateReporter hconfig hcaller _ hprevious =>
      obtain rfl := hsound.keyed hprevious
      refine ⟨?_, Option.isSome_of_eq_some hprevious⟩
      exact Manages.withReporter hconfig hcaller (Operation.revised _ _ _ _ _) rfl _ _
  | activateReporter _ hprevious hstatus hlock =>
      obtain rfl := hsound.keyed hprevious
      refine ⟨?_, _, OnlyEntries.lock hlock⟩
      rw [← hstatus]
      exact Advances.withReporter hprevious (Registry.activated _ _ _) ⟨rfl, rfl, rfl, rfl, rfl⟩
        _ _ _
  | deactivateReporter _ hprevious hstatus =>
      obtain rfl := hsound.keyed hprevious
      refine ⟨?_, rfl⟩
      rw [← hstatus]
      exact Advances.withReporter hprevious (Operation.released _ _) ⟨rfl, rfl, rfl, rfl, rfl⟩
        _ _ _
  | unstakeReporter _ hprevious hstatus _ _ hrelease =>
      obtain rfl := hsound.keyed hprevious
      refine ⟨?_, _, OnlyEntries.release hrelease⟩
      rw [← hstatus]
      exact Advances.withReporter hprevious (Reporter.withoutStake _) ⟨rfl, rfl, rfl, rfl, rfl⟩
        _ _ _

end

/-- An operation that succeeds on a store that shows records takes them to records that
it permits. -/
theorem Shows.permitted {σ : Type} [Store σ] [RecordStore σ] {settings : Settings}
    {records : World MemoryStore Ledger} {world next : World σ Ledger} (h : Shows records world)
    {operation : Operation} {outcome : Outcome}
    (hfits : (Turn.operate operation).Fits σ settings)
    (hrun : operation.run settings world = .ok outcome next) :
    ∃ records', Shows records' next ∧ operation.Permitted settings records records' := by
  obtain ⟨records', heffect, hnext⟩ := h.effect hfits
  rw [Turn.apply_operate_of_ok hrun] at hnext
  cases heffect with
  | refused hrefused =>
      rw [hrefused] at hrun
      cases hrun
  | granted hverdict =>
      have hgrant := grant_of_verdict hverdict
      exact ⟨_, hnext, hgrant.permitted (RecordStore.sound h.holds)⟩
  | aside hturn => exact absurd rfl (hturn operation)

/-- **Who may change what.** Whatever has happened to a registry since it was started on
an empty store, an operation that succeeds is permitted: its caller is the one who may
ask for it, and nothing changes but what it is about. With a database, that is so of the
records whose rows it holds. -/
theorem permitted_of_success (settings : Settings) (owner : Account) (ledger : Ledger)
    (now : Seconds) (turns : List Turn) (operation : Operation) :
    (∀ store, Registry.establish settings owner MemoryStore.empty = .ok () store →
      let world := World.run settings turns ⟨store, ledger, now, .empty⟩
      ∀ outcome next, operation.run settings world = .ok outcome next →
        operation.Permitted settings world next) ∧
    ∀ db, Registry.establish settings owner Database.fresh = .ok () db → owner.Sized →
      (∀ turn ∈ turns, turn.Sized) → operation.Sized →
      let world := World.run settings turns ⟨db, ledger, now, .empty⟩
      ∃ records, world.store = Database.ofMemory records ∧
        ∀ outcome next, operation.run settings world = .ok outcome next →
          ∃ records', next.store = Database.ofMemory records' ∧
            operation.Permitted settings (world.withStore records) (next.withStore records') := by
  constructor
  · intro store hstart world outcome next hrun
    have hworld : world = (World.started owner ledger now).run settings turns :=
      congrArg (World.run settings turns) (eq_started_of_establish hstart ledger now)
    have hsound : world.store.Sound := by
      rw [hworld]
      exact World.sound_run settings (World.sound_started owner ledger now) turns
    obtain ⟨records', hnext, hpermitted⟩ :=
      (Shows.refl hsound).permitted (Turn.fits_memory settings _) hrun
    have hsame : next = records' := by
      rw [hnext.same, hnext.holds.1]
      rfl
    rw [hsame]
    exact hpermitted
  · intro db hstart howner hturns hoperation world
    obtain ⟨turns', -, hshows⟩ := shows_database_run hstart howner hturns ledger now
    obtain ⟨-, -, hstore⟩ := hshows.holds
    refine ⟨_, hstore, ?_⟩
    intro outcome next hrun
    have hsized : (Turn.operate operation).Sized := hoperation
    obtain ⟨records', hnext, hpermitted⟩ := hshows.permitted (Turn.fits_of_sized hsized) hrun
    obtain ⟨-, -, hstore'⟩ := hnext.holds
    refine ⟨_, hstore', ?_⟩
    rw [hshows.withStore, hnext.withStore]
    exact hpermitted

/-- The withdrawal at the end of the sample run is permitted, over both stores. -/
theorem permitted_of_success_sample :
    let operation : Operation := .unstakeReporter Sample.worker Sample.id
    let world := Sample.world.run Sample.settings Sample.beforeWithdrawal
    let shown := Sample.databaseWorld.run Sample.settings Sample.beforeWithdrawal
    (∃ next, operation.run Sample.settings world = .ok (.amount 5) next ∧
      operation.Permitted Sample.settings world next) ∧
    ∃ records records' next, operation.run Sample.settings shown = .ok (.amount 5) next ∧
      shown.store = Database.ofMemory records ∧ next.store = Database.ofMemory records' ∧
      operation.Permitted Sample.settings (shown.withStore records) (next.withStore records') := by
  intro operation world shown
  have hpermitted := permitted_of_success Sample.settings Sample.owner Sample.ledger 0
    Sample.beforeWithdrawal operation
  have houtcome : operation.outcome? Sample.settings world = some (.amount 5) := by decide +kernel
  have hshown : operation.outcome? Sample.settings shown = some (.amount 5) := by decide +kernel
  obtain ⟨next, hrun⟩ := Operation.outcome?_eq_some_iff.mp houtcome
  obtain ⟨next', hrun'⟩ := Operation.outcome?_eq_some_iff.mp hshown
  obtain ⟨records, hstore, hdatabase⟩ := hpermitted.2 Sample.databaseWorld.store
    Sample.established_database Sample.sized_owner Sample.sized_beforeWithdrawal trivial
  obtain ⟨records', hstore', hnext⟩ := hdatabase _ _ hrun'
  exact ⟨⟨next, hrun, hpermitted.1 Sample.world.store Sample.established _ _ hrun⟩,
    records, records', next', hrun', hstore, hstore', hnext⟩

end ReporterRegistry
