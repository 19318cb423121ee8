import ReporterRegistry.Proofs.Address.Spelling
import ReporterRegistry.Proofs.Registry.Run

/-!
# Reading what was written

A store in memory gives a reporter back as it was written. A database checks the
accounts of a row when it reads it, while the registry checks no more than their
format before it writes it. So there are accounts that are accepted and cannot be read
again: those whose octets are not canonical.

No constructor makes such an account. As long as none is written, records stay
readable (`Grant.readable`), and a database gives back whatever it was given.
-/

namespace ReporterRegistry

open Registry

/-! ### One row -/

namespace TypedRow

theorem readAccount_eq (id : ReporterId) (account : Account) :
    readAccount id account.format.name account.bytes
      = (Account.ofBytes account.format account.bytes).mapError
          fun error => .invalidData (.input id error) := by
  simp only [readAccount, parse_name]
  cases Account.ofBytes account.format account.bytes <;> rfl

theorem canonical_of_readAccount {id : ReporterId} {account found : Account}
    (h : readAccount id account.format.name account.bytes = .ok found) :
    account.isCanonical = true := by
  rw [readAccount_eq, mapError_eq_ok_iff] at h
  obtain ⟨rfl, hcanonical⟩ := Account.ofBytes_eq_ok_iff.mp h
  exact hcanonical

/-- A row that is read at all is the row of a readable reporter. -/
theorem readable_of_reporter {reporter read : Reporter}
    (h : (ofReporter reporter).reporter = .ok read) : reporter.Readable := by
  rw [reporter_ofReporter] at h
  obtain ⟨account, haccount, h⟩ := bind_eq_ok_iff.mp h
  obtain ⟨token, htoken, -⟩ := bind_eq_ok_iff.mp h
  exact ⟨canonical_of_readAccount haccount, canonical_of_readAccount htoken⟩

/-- The account is checked before everything else that may be wrong with a row. -/
theorem reporter_of_not_canonical {reporter : Reporter}
    (h : reporter.account.isCanonical = false) :
    ∃ error, Account.ofBytes reporter.account.format reporter.account.bytes = .error error ∧
      (ofReporter reporter).reporter = .error (.invalidData (.input reporter.id error)) := by
  rw [reporter_ofReporter, readAccount_eq]
  cases haccount : Account.ofBytes reporter.account.format reporter.account.bytes with
  | ok found =>
      obtain ⟨rfl, hcanonical⟩ := Account.ofBytes_eq_ok_iff.mp haccount
      rw [h] at hcanonical
      cases hcanonical
  | error error => exact ⟨error, rfl, rfl⟩

end TypedRow

/-! ### A database that holds records -/

namespace Database

/-- One reporter that cannot be read spoils all rows that are read with it. -/
theorem readRows_of_not_readable {reporters : List Reporter} {reporter : Reporter}
    (hmem : reporter ∈ reporters) (h : ¬ reporter.Readable) :
    ∃ error, readRows (reporters.map Row.ofReporter) = .error error := by
  rw [readRows_ofReporter]
  induction reporters with
  | nil => cases hmem
  | cons first reporters ih =>
      rw [List.map_cons, List.mapM_cons]
      rcases TypedRow.reporter_cases first with hfirst | ⟨error, hfirst⟩
      · have hrest : reporter ∈ reporters := by
          rcases List.mem_cons.mp hmem with rfl | hrest
          · exact absurd (TypedRow.readable_of_reporter hfirst) h
          · exact hrest
        obtain ⟨error, herror⟩ := ih hrest
        rw [hfirst, ok_bind, herror]
        exact ⟨error, rfl⟩
      · rw [hfirst]
        exact ⟨error, rfl⟩

variable {records : MemoryStore}

theorem reporter_ofMemory_of_get? (h : records.Sound) {id : ReporterId} {reporter : Reporter}
    (hget : records.reporters.get? id = some reporter) :
    (ofMemory records).reporter id = (TypedRow.ofReporter reporter).reporter.map some := by
  rw [reporter_ofMemory h, hget, readFirst]
  show (readRows ([reporter].map Row.ofReporter)).map List.head? = _
  rw [readRows_ofReporter, List.map_singleton, List.mapM_cons]
  cases (TypedRow.ofReporter reporter).reporter <;> rfl

/-- The reporters whose rows a page selects. -/
def selected (records : MemoryStore) (skip take : Nat) : List Reporter :=
  records.page (min skip maxRows) (min take maxRows)

theorem page_ofMemory_eq (skip take : Nat) :
    (ofMemory records).page skip take
      = readRows ((selected records skip take).map Row.ofReporter) := by
  show readRows (((records.reporters.values.map Row.ofReporter).drop _).take _) = _
  rw [← List.map_drop, ← List.map_take]
  rfl

end Database

/-- A database is left alone by what it is asked. -/
theorem Registry.onStore_answer {α : Type} (query : Database → Except StoreError α)
    (world : World Database Ledger) :
    onStore (Database.answer query) world
      = settle world ((query world.store).mapError RegistryError.store) := by
  unfold onStore Database.answer
  cases query world.store <;> rfl

section

variable {records : MemoryStore} {world : World Database Ledger}

/-- A stored reporter is answered as its row is read. -/
theorem Registry.reporter_of_get? (hsound : records.Sound)
    (hstore : world.store = .ofMemory records) {id : ReporterId} {found : Reporter}
    (hget : records.reporters.get? id = some found) :
    Registry.reporter id world
      = settle world ((TypedRow.ofReporter found).reporter.mapError RegistryError.store) := by
  have hanswer : onStore (Store.reporter id) world = _ :=
    onStore_answer (fun db => db.reporter id) world
  rw [hstore, Database.reporter_ofMemory_of_get? hsound hget] at hanswer
  simp only [Registry.reporter, bind, EStateM.bind, hanswer]
  cases (TypedRow.ofReporter found).reporter <;> rfl

theorem Registry.reporter_of_readable (hsound : records.Sound)
    (hstore : world.store = .ofMemory records) {id : ReporterId} {found : Reporter}
    (hget : records.reporters.get? id = some found) (h : found.Readable) :
    Registry.reporter id world = .ok found world := by
  rw [reporter_of_get? hsound hstore hget, TypedRow.reporter_of_readable h]
  rfl

theorem Registry.reporter_of_not_canonical (hsound : records.Sound)
    (hstore : world.store = .ofMemory records) {id : ReporterId} {found : Reporter}
    (hget : records.reporters.get? id = some found) (h : found.account.isCanonical = false) :
    ∃ error, Account.ofBytes found.account.format found.account.bytes = .error error ∧
      Registry.reporter id world
        = .error (.store (.invalidData (.input found.id error))) world := by
  obtain ⟨error, herror, hrow⟩ := TypedRow.reporter_of_not_canonical h
  refine ⟨error, herror, ?_⟩
  rw [reporter_of_get? hsound hstore hget, hrow]
  rfl

/-- A page is answered as the rows that it selects are read. -/
theorem Registry.page_ofMemory (hstore : world.store = .ofMemory records) (skip take : Nat) :
    Registry.page skip take world = settle world
      ((Database.readRows ((Database.selected records skip take).map Row.ofReporter)).mapError
        RegistryError.store) := by
  have hanswer : Registry.page skip take world = _ :=
    onStore_answer (fun db => db.page skip take) world
  rw [hanswer, hstore, Database.page_ofMemory_eq]

theorem Registry.page_of_readable (hstore : world.store = .ofMemory records) {skip take : Nat}
    (h : ∀ r ∈ Database.selected records skip take, r.Readable) :
    Registry.page skip take world = .ok (Database.selected records skip take) world := by
  rw [page_ofMemory hstore, Database.readRows_of_readable h]
  rfl

theorem Registry.page_of_not_readable (hstore : world.store = .ofMemory records)
    {skip take : Nat} {reporter : Reporter}
    (hmem : reporter ∈ Database.selected records skip take) (h : ¬ reporter.Readable) :
    ∃ error, Registry.page skip take world = .error (.store error) world := by
  obtain ⟨error, herror⟩ := Database.readRows_of_not_readable hmem h
  refine ⟨error, ?_⟩
  rw [page_ofMemory hstore, herror]
  rfl

end

/-! ### What is written -/

/-- The operation writes a reporter as its caller describes it. -/
def Operation.Writes : Operation → Prop
  | .createReporter .. | .updateReporter .. => True
  | _ => False

/-- A described reporter is written with nothing staked. -/
theorem Grant.written {settings : Settings} {world : World MemoryStore Ledger}
    {operation : Operation} {change : Change} (hgrant : Grant settings world operation change)
    (hwrites : operation.Writes) {written : Reporter}
    (houtcome : change.outcome = .reporter written) :
    change.store = world.store.withReporter written ∧
      written.stakeToken = .zero written.account.format := by
  cases hgrant with
  | createReporter =>
      cases houtcome
      exact ⟨rfl, rfl⟩
  | updateReporter =>
      cases houtcome
      exact ⟨rfl, rfl⟩
  | setAuthority => cases hwrites
  | updateStakeTerms => cases hwrites
  | updateRewardTerms => cases hwrites
  | activateReporter => cases hwrites
  | deactivateReporter => cases hwrites
  | unstakeReporter => cases hwrites

/-- After a write, the store holds the records with the reporter that was answered. -/
theorem Shows.written {σ : Type} [Store σ] [RecordStore σ] {settings : Settings}
    {records : World MemoryStore Ledger} {world next : World σ Ledger} (h : Shows records world)
    {operation : Operation} (hwrites : operation.Writes) {written : Reporter}
    (hrun : operation.run settings world = .ok (.reporter written) next) :
    RecordStore.Holds (records.store.withReporter written) next.store ∧
      written.stakeToken = .zero written.account.format := by
  rcases h.answer settings operation with ⟨_, error, -, hunread⟩ | hanswer
  · rw [hunread] at hrun
    cases hrun
  cases hverdict : operation.verdict settings records with
  | error error =>
      rw [hverdict] at hanswer
      rw [hanswer] at hrun
      cases hrun
  | ok change =>
      rw [hverdict] at hanswer
      obtain ⟨store, hok, hholds⟩ := hanswer
      rw [hok] at hrun
      obtain ⟨houtcome, rfl⟩ := EStateM.Result.ok.inj hrun
      obtain ⟨hstore, htoken⟩ := (grant_of_verdict hverdict).written hwrites houtcome
      rw [hstore] at hholds
      exact ⟨hholds fun config hconfig => RecordStore.fits h.holds hconfig, htoken⟩

theorem Reporter.readable_iff {reporter : Reporter}
    (htoken : reporter.stakeToken = .zero reporter.account.format) :
    reporter.Readable ↔ reporter.account.isCanonical = true := by
  constructor
  · exact Reporter.Readable.account
  · intro haccount
    refine ⟨haccount, ?_⟩
    rw [htoken]
    exact (Account.Made.zero _).isCanonical

/-! ### Records that stay readable -/

/-- The accounts that an operation puts into records are canonical. -/
def Operation.Canonical : Operation → Prop
  | .updateStakeTerms _ terms => terms.token.isCanonical = true
  | .createReporter _ _ account _ _ _ | .updateReporter _ _ account _ _ _ =>
    account.isCanonical = true
  | _ => True

/-- The accounts that a turn puts into records are canonical. -/
def Turn.Canonical : Turn → Prop
  | .operate operation => operation.Canonical
  | _ => True

/-- Every reporter is readable, and so is one that locks a stake in the token that is
configured. -/
structure MemoryStore.Readable (store : MemoryStore) : Prop where
  token : ∀ {config : Configuration}, store.config = some config →
    config.stake.token.isCanonical = true
  reporter : ∀ {id : ReporterId} {reporter : Reporter},
    store.reporters.get? id = some reporter → reporter.Readable

namespace MemoryStore.Readable

variable {store : MemoryStore}

theorem start (owner : Account) :
    (MemoryStore.empty.withConfiguration (.new owner)).Readable where
  token hconfig := by
    cases hconfig
    exact (Account.Made.zero _).isCanonical
  reporter h := by simp [MemoryStore.empty] at h

theorem withConfiguration (h : store.Readable) {config : Configuration}
    (htoken : config.stake.token.isCanonical = true) :
    (store.withConfiguration config).Readable where
  token hconfig := by
    cases hconfig
    exact htoken
  reporter := h.reporter

theorem withReporter (h : store.Readable) {reporter : Reporter} (hreporter : reporter.Readable) :
    (store.withReporter reporter).Readable where
  token := h.token
  reporter hfound := by
    rcases get?_withReporter_cases hfound with ⟨-, rfl⟩ | ⟨-, hfound⟩
    · exact hreporter
    · exact h.reporter hfound

theorem of_mem_selected (h : store.Readable) {skip take : Nat} {reporter : Reporter}
    (hmem : reporter ∈ Database.selected store skip take) : reporter.Readable := by
  obtain ⟨id, hid⟩ :=
    OrderedMap.mem_values.mp (List.mem_of_mem_drop (List.mem_of_mem_take hmem))
  exact h.reporter hid

end MemoryStore.Readable

/-- **Every granted operation keeps records readable**, if the accounts that it puts into
them are canonical. -/
theorem Grant.readable {settings : Settings} {world : World MemoryStore Ledger}
    {operation : Operation} {change : Change} (hgrant : Grant settings world operation change)
    (hcanonical : operation.Canonical) (h : world.store.Readable) : change.store.Readable := by
  cases hgrant with
  | setAuthority hconfig =>
      have htoken := h.token hconfig
      exact h.withConfiguration htoken
  | updateStakeTerms => exact h.withConfiguration hcanonical
  | updateRewardTerms hconfig =>
      have htoken := h.token hconfig
      exact h.withConfiguration htoken
  | createReporter => exact h.withReporter ((Reporter.readable_iff rfl).mpr hcanonical)
  | updateReporter => exact h.withReporter ((Reporter.readable_iff rfl).mpr hcanonical)
  | activateReporter hconfig hprevious =>
      have hreadable := h.reporter hprevious
      refine h.withReporter ⟨hreadable.account, ?_⟩
      unfold Registry.activated
      split
      · exact h.token hconfig
      · exact hreadable.stakeToken
  | deactivateReporter _ hprevious =>
      have hreadable := h.reporter hprevious
      exact h.withReporter ⟨hreadable.account, hreadable.stakeToken⟩
  | unstakeReporter _ hprevious =>
      have hreadable := h.reporter hprevious
      exact h.withReporter ((Reporter.readable_iff rfl).mpr hreadable.account)

theorem Effect.readable {settings : Settings} {world next : World MemoryStore Ledger}
    {turn : Turn} (heffect : Effect settings world turn next) (hcanonical : turn.Canonical)
    (h : world.store.Readable) : next.store.Readable := by
  cases heffect with
  | refused => exact h
  | granted hgrant => exact hgrant.readable hcanonical h
  | ledger => exact h
  | aside => exact h

/-! ### Reading back -/

/-- The reporter is answered as it is here, and no page fails. -/
structure World.ReadsBack {σ : Type} [Store σ] (world : World σ Ledger) (reporter : Reporter) :
    Prop where
  get : Registry.reporter reporter.id world = .ok reporter world
  page : ∀ skip take, ∃ reporters, Registry.page skip take world = .ok reporters world

/-- In memory, whatever is stored is read back. -/
theorem World.readsBack_of_get? {world : World MemoryStore Ledger} {reporter : Reporter}
    (h : world.store.reporters.get? reporter.id = some reporter) : world.ReadsBack reporter where
  get := by
    have hanswer : onStore (Store.reporter reporter.id) world
        = .ok (world.store.reporters.get? reporter.id) world := rfl
    rw [h] at hanswer
    simp only [Registry.reporter, bind, EStateM.bind, hanswer]
    rfl
  page _ _ := ⟨_, rfl⟩

/-- **A reporter that was written is read back** from memory. From a database it is read
back exactly if its account is canonical; if not, reading it is refused, and so is every page
that selects it or another reporter that is not readable. If all accounts that were ever
written are canonical, a database reads back as memory does. -/
theorem written_read_back {settings : Settings} {owner : Account} (ledger : Ledger)
    (now : Seconds) (turns : List Turn) {operation : Operation} {written : Reporter}
    (hwrites : operation.Writes) :
    (∀ {store : MemoryStore} {next : World MemoryStore Ledger},
      establish settings owner MemoryStore.empty = .ok () store →
      operation.run settings (World.run settings turns ⟨store, ledger, now, .empty⟩)
        = .ok (.reporter written) next →
      next.ReadsBack written) ∧
    (∀ {db : Database} {next : World Database Ledger},
      establish settings owner Database.fresh = .ok () db → owner.Sized →
      (∀ turn ∈ turns, turn.Sized) →
      operation.run settings (World.run settings turns ⟨db, ledger, now, .empty⟩)
        = .ok (.reporter written) next →
      (written.account.isCanonical = true →
        Registry.reporter written.id next = .ok written next) ∧
      (written.account.isCanonical = false →
        ∃ error, Account.ofBytes written.account.format written.account.bytes = .error error ∧
          Registry.reporter written.id next
            = .error (.store (.invalidData (.input written.id error))) next) ∧
      (∃ records : MemoryStore, next.store = .ofMemory records ∧
        records.reporters.get? written.id = some written ∧
        ∀ skip take,
          ((∀ r ∈ Database.selected records skip take, r.Readable) →
            Registry.page skip take next = .ok (Database.selected records skip take) next) ∧
          ((∃ r ∈ Database.selected records skip take, ¬ r.Readable) →
            ∃ error, Registry.page skip take next = .error (.store error) next)) ∧
      ((∀ turn ∈ turns, turn.Canonical) → written.account.isCanonical = true →
        next.ReadsBack written)) := by
  constructor
  · intro store next hstart hrun
    have hsound : (World.run settings turns ⟨store, ledger, now, .empty⟩).store.Sound := by
      rw [eq_started_of_establish hstart]
      exact World.sound_run settings (World.sound_started owner ledger now) turns
    obtain ⟨⟨hstore, -⟩, -⟩ := (Shows.refl hsound).written hwrites hrun
    refine World.readsBack_of_get? ?_
    rw [hstore]
    exact OrderedMap.get?_insert_self _ _ _
  · intro db next hstart howner hturns hrun
    -- The rows of the database are those of a run in memory, with the reporter on top.
    obtain ⟨turns', hsub, hshows⟩ := shows_database_run hstart howner hturns ledger now
    obtain ⟨⟨hsound, -, hstore⟩, htoken⟩ := hshows.written hwrites hrun
    generalize hrecords : ((World.started owner ledger now).run settings turns').store
      = before at hsound hstore
    have hget : (before.withReporter written).reporters.get? written.id = some written :=
      OrderedMap.get?_insert_self _ _ _
    have hreadable := Reporter.readable_iff htoken
    have hread : written.account.isCanonical = true →
        Registry.reporter written.id next = .ok written next := by
      intro haccount
      exact Registry.reporter_of_readable hsound hstore hget (hreadable.mpr haccount)
    have hrefused := Registry.reporter_of_not_canonical hsound hstore hget
    refine ⟨hread, hrefused, ⟨_, hstore, hget, ?_⟩, ?_⟩
    · intro skip take
      refine ⟨Registry.page_of_readable hstore, ?_⟩
      rintro ⟨r, hmem, hnot⟩
      exact Registry.page_of_not_readable hstore hmem hnot
    · -- The records have been readable all along, so no page selects one that is not.
      intro hturnsCanonical haccount
      have hstart : (World.started owner ledger now).store.Readable := .start owner
      obtain ⟨-, hbefore⟩ := run_induction (P := fun world => world.store.Readable)
        (fun hmem _ h heffect => heffect.readable (hturnsCanonical _ (hsub.subset hmem)) h)
        (World.sound_started owner ledger now) hstart
      rw [hrecords] at hbefore
      have hafter := hbefore.withReporter (hreadable.mpr haccount)
      refine ⟨hread haccount, fun skip take => ⟨_, Registry.page_of_readable hstore ?_⟩⟩
      intro r hmem
      exact hafter.of_mem_selected hmem

namespace Sample

/-- The owner makes an account a validator. -/
def creation (account : Account) : Operation := .createReporter owner id account .validator "" ""

/-- An octet that begins no text. -/
def textless : Account := ⟨.plain, [0xff]⟩

theorem writes_creation (account : Account) : (creation account).Writes := trivial

end Sample

/-- A reporter of the sample's worker is read back from a database. -/
theorem written_read_back_sample :
    ∃ next : World Database Ledger,
      (Sample.creation Sample.worker).run Sample.settings Sample.databaseWorld
        = .ok (.reporter (Sample.created Sample.worker)) next ∧
      next.ReadsBack (Sample.created Sample.worker) := by
  have houtcome : (Sample.creation Sample.worker).outcome? Sample.settings Sample.databaseWorld
      = some (.reporter (Sample.created Sample.worker)) := by decide +kernel
  obtain ⟨next, hrun⟩ := Operation.outcome?_eq_some_iff.mp houtcome
  have hread := (written_read_back Sample.ledger 0 [] (Sample.writes_creation Sample.worker)).2
    Sample.established_database Sample.sized_owner (by simp) hrun
  exact ⟨next, hrun, hread.2.2.2 (by simp) (by decide)⟩

/-- An account without a text is accepted, and its reporter is not read back. -/
theorem written_not_read_back :
    ∃ next : World Database Ledger,
      (Sample.creation Sample.textless).run Sample.settings Sample.databaseWorld
        = .ok (.reporter (Sample.created Sample.textless)) next ∧
      Registry.reporter Sample.id next ≠ .ok (Sample.created Sample.textless) next ∧
      ∀ reporters, Registry.page 0 1 next ≠ .ok reporters next := by
  have houtcome : (Sample.creation Sample.textless).outcome? Sample.settings Sample.databaseWorld
      = some (.reporter (Sample.created Sample.textless)) := by decide +kernel
  obtain ⟨next, hrun⟩ := Operation.outcome?_eq_some_iff.mp houtcome
  have hshows : Shows Sample.world Sample.databaseWorld :=
    shows_started_of_establish Sample.established_database Sample.sized_owner Sample.ledger 0
  obtain ⟨⟨hsound, -, hstore⟩, -⟩ :=
    hshows.written (Sample.writes_creation Sample.textless) hrun
  have hnot : (Sample.created Sample.textless).account.isCanonical = false := by decide
  refine ⟨next, hrun, ?_, ?_⟩
  · have hget : (Sample.world.store.withReporter (Sample.created Sample.textless)).reporters.get?
        Sample.id = some (Sample.created Sample.textless) := by decide +kernel
    obtain ⟨error, -, hread⟩ := Registry.reporter_of_not_canonical hsound hstore hget hnot
    rw [hread]
    intro h
    cases h
  · have hmem : Sample.created Sample.textless ∈ Database.selected
        (Sample.world.store.withReporter (Sample.created Sample.textless)) 0 1 := by
      decide +kernel
    have hunreadable : ¬ (Sample.created Sample.textless).Readable := by
      intro hreadable
      rw [hreadable.account] at hnot
      cases hnot
    obtain ⟨error, hpage⟩ := Registry.page_of_not_readable hstore hmem hunreadable
    rw [hpage]
    intro reporters h
    cases h

end ReporterRegistry
