import ReporterRegistry.Proofs.Store.Agreement

/-!
# Reporters in the order of their creation

A store is asked to insert reporters and to replace them, and takes some of these
writes. The writes that it has taken say what it holds: the ids that were inserted, in
that order, each with the record that was taken for it last. `Listed` says that every
question to the store is answered from this list, and `creation_order` that both kinds
of stores are listed after any writes.

A store in memory keeps its list in step with the writes that it takes (`Lists.apply`).
A database does to its rows what a store in memory does to its records
(`perform_ofMemory`), and answers what they answer.
-/

namespace ReporterRegistry

/-! ### Writes -/

/-- A call that writes a reporter. -/
inductive ReporterWrite where
  | insert (reporter : Reporter)
  | put (reporter : Reporter)
  deriving DecidableEq, Repr

namespace ReporterWrite

/-- The record that is written. -/
def reporter : ReporterWrite → Reporter
  | .insert r => r
  | .put r => r

/-- The id that is new with the write. -/
def created? : ReporterWrite → Option ReporterId
  | .insert r => some r.id
  | .put _ => none

/-- Make the call. Says whether the record was taken. -/
def perform {σ : Type} [Store σ] : ReporterWrite → EStateM StoreError σ Bool
  | .insert r => Store.insertReporter r
  | .put r => (fun _ => true) <$> Store.putReporter r

/-- What is inserted is new, and what is replaced is there. -/
def Suits (ids : List ReporterId) : ReporterWrite → Prop
  | .insert r => r.id ∉ ids
  | .put r => r.id ∈ ids

end ReporterWrite

/-- The ids that were inserted, in that order. -/
def created (accepted : List ReporterWrite) : List ReporterId :=
  accepted.filterMap ReporterWrite.created?

/-- The record that was taken last for an id. -/
def latest? (accepted : List ReporterWrite) (id : ReporterId) : Option Reporter :=
  (accepted.reverse.map ReporterWrite.reporter).find? fun r => r.id = id

theorem created_concat (accepted : List ReporterWrite) (write : ReporterWrite) :
    created (accepted ++ [write]) = created accepted ++ write.created?.toList := by
  cases hcreated : write.created? <;> simp [created, hcreated]

theorem latest?_concat (accepted : List ReporterWrite) (write : ReporterWrite) (id : ReporterId) :
    latest? (accepted ++ [write]) id
      = if id = write.reporter.id then some write.reporter else latest? accepted id := by
  by_cases hid : id = write.reporter.id
  · simp [latest?, hid]
  · simp [latest?, hid, Ne.symm hid]

/-- A store, and the writes that it has taken. -/
structure Logged (σ : Type) where
  accepted : List ReporterWrite
  store : σ

/-- The store after one more write. -/
def ReporterWrite.apply {σ : Type} [Store σ] (past : Logged σ) (write : ReporterWrite) :
    Logged σ :=
  match write.perform past.store with
  | .ok true next => ⟨past.accepted ++ [write], next⟩
  | .ok false next => { past with store := next }
  | .error _ next => { past with store := next }

/-- The store after some writes, all of them its first. -/
def Logged.run {σ : Type} [Store σ] (store : σ) (writes : List ReporterWrite) : Logged σ :=
  writes.foldl ReporterWrite.apply ⟨[], store⟩

/-- What holds at the start and is kept by each write holds after all of them. -/
theorem Logged.run_induction {σ : Type} [Store σ] {motive : Logged σ → Prop} {store : σ}
    {writes : List ReporterWrite} (start : motive ⟨[], store⟩)
    (step : ∀ past, ∀ write : ReporterWrite, motive past → write ∈ writes →
      motive (write.apply past)) : motive (Logged.run store writes) := by
  have hfold : ∀ rest : List ReporterWrite, (∀ write ∈ rest, write ∈ writes) →
      ∀ past, motive past → motive (rest.foldl ReporterWrite.apply past) := by
    intro rest
    induction rest with
    | nil => exact fun _ _ h => h
    | cons write rest ih =>
        intro hrest past h
        obtain ⟨hwrite, hrest⟩ := List.forall_mem_cons.mp hrest
        exact ih hrest _ (step past write h hwrite)
  exact hfold writes (fun _ h => h) _ start

/-- The next `n` pages of a size from a position on, put together. -/
def pages {σ : Type} [Store σ] (size : Nat) : Nat → Nat → EStateM StoreError σ (List Reporter)
  | 0, _ => return []
  | n + 1, skip => do
    let page ← Store.page skip size
    let rest ← pages size n (skip + size)
    return page ++ rest

/-- A store answers from a list of records: the inserted ids in order, each once, with
the records that were taken last. -/
structure Listed {σ : Type} [Store σ] (past : Logged σ) (records : List Reporter) : Prop where
  ids : records.map Reporter.id = created past.accepted
  nodup : (created past.accepted).Nodup
  latest : ∀ r ∈ records, latest? past.accepted r.id = some r
  page : ∀ skip take,
    Store.page skip take past.store = .ok ((records.drop skip).take take) past.store
  /-- Pages of one size make up the list, if there are enough of them. -/
  pages : ∀ size n, records.length ≤ n * size →
    pages size n 0 past.store = .ok records past.store
  count : Store.count past.store = .ok records.length past.store
  reporter : ∀ id, Store.reporter id past.store
    = .ok (records.find? fun r => r.id = id) past.store
  findByAccount : ∀ account, Store.findByAccount account past.store
    = .ok (records.find? fun r => r.account = account) past.store
  /-- The next write is taken if its time can be kept and it suits the ids. -/
  takes : ∀ write : ReporterWrite, (∃ next, write.perform past.store = .ok true next) ↔
    ¬ maxSeconds < write.reporter.unlockTime ∧ write.Suits (created past.accepted)

/-! ### Pages -/

/-- Pages that follow each other make up what is left of a list. -/
theorem pages_of_page {σ : Type} [Store σ] {store : σ} {records : List Reporter}
    (hpage : ∀ skip take, Store.page skip take store = .ok ((records.drop skip).take take) store)
    {size n skip : Nat} (hn : records.length ≤ skip + n * size) :
    pages size n skip store = .ok (records.drop skip) store := by
  induction n generalizing skip with
  | zero =>
      have hnone : records.drop skip = [] := List.drop_eq_nil_of_le (by omega)
      rw [hnone]
      rfl
  | succ n ih =>
      have hrest : pages size n (skip + size) store = .ok (records.drop (skip + size)) store := by
        refine ih ?_
        rw [Nat.succ_mul] at hn
        omega
      simp only [pages, bind, EStateM.bind, hpage, hrest]
      rw [← List.drop_drop]
      exact congrArg (EStateM.Result.ok · store) (List.take_append_drop size (records.drop skip))

/-! ### The store in memory -/

namespace MemoryStore

variable {store : MemoryStore}

theorem Sound.map_id_values (h : store.Sound) :
    store.reporters.values.map Reporter.id = store.reporters.keys := by
  rw [OrderedMap.values, List.map_map, OrderedMap.keys]
  refine List.map_congr_left ?_
  intro entry hentry
  exact h.keyed (OrderedMap.find?_of_mem store.reporters.nodup hentry)

theorem Sound.find?_id (h : store.Sound) (id : ReporterId) :
    (store.reporters.values.find? fun r => r.id = id) = store.reporters.get? id := by
  rw [← List.head?_filter, h.filter_id, Option.head?_toList]

/-- A write that suits the records is taken. -/
theorem perform_of_suits {write : ReporterWrite} (htime : ¬ maxSeconds < write.reporter.unlockTime)
    (hsuits : write.Suits store.reporters.keys) :
    write.perform store = .ok true (store.withReporter write.reporter) := by
  cases write with
  | insert r =>
      have hnone := OrderedMap.get?_eq_none_iff.mpr hsuits
      have hinsert : store.insertReporter r = .ok (true, store.withReporter r) :=
        insertReporter_of_none htime hnone
      simp only [ReporterWrite.perform, Store.insertReporter, hinsert]
      rfl
  | put r =>
      cases hget : store.reporters.get? r.id with
      | none => exact absurd hsuits (OrderedMap.get?_eq_none_iff.mp hget)
      | some found =>
          have hput : store.putReporter r = .ok (store.withReporter r) :=
            putReporter_of_some htime hget
          simp only [ReporterWrite.perform, Functor.map, EStateM.map, Store.putReporter, hput]
          rfl

/-- Any other write leaves the records as they are. -/
theorem perform_of_not_suits {write : ReporterWrite}
    (h : ¬ (¬ maxSeconds < write.reporter.unlockTime ∧ write.Suits store.reporters.keys)) :
    write.perform store = .ok false store ∨ ∃ error, write.perform store = .error error store := by
  by_cases htime : maxSeconds < write.reporter.unlockTime
  · refine Or.inr ⟨.invalidData (.timeOutOfRange write.reporter.id write.reporter.unlockTime), ?_⟩
    cases write with
    | insert r =>
        have hrefuse : r.checkUnlockTime = _ := if_pos htime
        simp only [ReporterWrite.perform, Store.insertReporter, insertReporter, hrefuse]
        rfl
    | put r =>
        have hrefuse : r.checkUnlockTime = _ := if_pos htime
        simp only [ReporterWrite.perform, Functor.map, EStateM.map, Store.putReporter, putReporter,
          hrefuse]
        rfl
  · have hsuits : ¬ write.Suits store.reporters.keys := fun hsuits => h ⟨htime, hsuits⟩
    cases write with
    | insert r =>
        cases hget : store.reporters.get? r.id with
        | none => exact absurd (OrderedMap.get?_eq_none_iff.mp hget) hsuits
        | some found =>
            have hinsert : store.insertReporter r = .ok (false, store) :=
              insertReporter_of_some htime hget
            refine Or.inl ?_
            simp only [ReporterWrite.perform, Store.insertReporter, hinsert]
    | put r =>
        have hnone : store.reporters.get? r.id = none := OrderedMap.get?_eq_none_iff.mpr hsuits
        have hcheck : r.checkUnlockTime = .ok () := Reporter.checkUnlockTime_of_not_lt htime
        refine Or.inr ⟨.notFound r.id, ?_⟩
        simp only [ReporterWrite.perform, Functor.map, EStateM.map, Store.putReporter, putReporter,
          hcheck, hnone]

/-- The records are what the writes that were taken say. -/
structure Lists (past : Logged MemoryStore) : Prop where
  sound : past.store.Sound
  unconfigured : past.store.config = none
  keys : past.store.reporters.keys = created past.accepted
  latest : ∀ id, past.store.reporters.get? id = latest? past.accepted id

theorem Lists.start : Lists ⟨[], empty⟩ where
  sound := Sound.empty
  unconfigured := rfl
  keys := rfl
  latest _ := rfl

theorem perform_eq_true_iff {past : Logged MemoryStore} (h : Lists past) {write : ReporterWrite} :
    (∃ next, write.perform past.store = .ok true next) ↔
      ¬ maxSeconds < write.reporter.unlockTime ∧ write.Suits (created past.accepted) := by
  rw [← h.keys]
  constructor
  · rintro ⟨next, hdone⟩
    by_cases htakes : ¬ maxSeconds < write.reporter.unlockTime ∧
        write.Suits past.store.reporters.keys
    · exact htakes
    · rcases perform_of_not_suits htakes with hfalse | ⟨error, herror⟩
      · rw [hfalse] at hdone
        cases hdone
      · rw [herror] at hdone
        cases hdone
  · rintro ⟨htime, hsuits⟩
    exact ⟨_, perform_of_suits htime hsuits⟩

/-- A write that is taken makes its record the latest, and its id the last if it is
new. -/
theorem Lists.taken {past : Logged MemoryStore} (h : Lists past) {write : ReporterWrite}
    (htime : ¬ maxSeconds < write.reporter.unlockTime)
    (hsuits : write.Suits past.store.reporters.keys) :
    Lists ⟨past.accepted ++ [write], past.store.withReporter write.reporter⟩ where
  sound := h.sound.withReporter htime
  unconfigured := h.unconfigured
  keys := by
    rw [created_concat, reporters_withReporter, OrderedMap.keys_insert, ← h.keys]
    cases write with
    | insert r => exact if_neg hsuits
    | put r => exact (if_pos hsuits).trans (List.append_nil _).symm
  latest id := by
    rw [latest?_concat, reporters_withReporter, OrderedMap.get?_insert, h.latest]

/-- **One write** keeps the records in step with the writes that were taken. -/
theorem Lists.apply {past : Logged MemoryStore} (h : Lists past) (write : ReporterWrite) :
    Lists (write.apply past) := by
  unfold ReporterWrite.apply
  by_cases htakes : ¬ maxSeconds < write.reporter.unlockTime ∧
      write.Suits past.store.reporters.keys
  · rw [perform_of_suits htakes.1 htakes.2]
    exact h.taken htakes.1 htakes.2
  · rcases perform_of_not_suits htakes with hfalse | ⟨error, herror⟩
    · rw [hfalse]
      exact h
    · rw [herror]
      exact h

/-- A store in memory answers from the list of its records. -/
theorem Lists.listed {past : Logged MemoryStore} (h : Lists past) :
    Listed past past.store.reporters.values where
  ids := h.sound.map_id_values.trans h.keys
  nodup := h.keys ▸ past.store.reporters.nodup
  latest r hr := by
    obtain ⟨id, hid⟩ := OrderedMap.mem_values.mp hr
    rw [← h.latest, h.sound.get?_id hid]
  page _ _ := rfl
  pages size n hn := by
    rw [← Nat.zero_add (n * size)] at hn
    exact pages_of_page (fun _ _ => rfl) hn
  count := by
    rw [OrderedMap.values, List.length_map]
    rfl
  reporter id := by
    rw [h.sound.find?_id]
    rfl
  findByAccount _ := rfl
  takes _ := perform_eq_true_iff h

/-- A record that was taken can be given back if all can that were written. -/
theorem Lists.storable {past : Logged MemoryStore} (h : Lists past)
    (hreadable : ∀ write ∈ past.accepted, write.reporter.Readable) : past.store.Storable where
  sound := h.sound
  sized := by simp [h.unconfigured]
  readable {id r} hget := by
    rw [h.latest] at hget
    obtain ⟨write, hwrite, rfl⟩ := List.mem_map.mp (List.mem_of_find?_eq_some hget)
    exact hreadable write (List.mem_reverse.mp hwrite)

end MemoryStore

/-! ### The database -/

/-- The database that holds the records, with the same writes taken. -/
def Logged.inDatabase (past : Logged MemoryStore) : Logged Database :=
  ⟨past.accepted, .ofMemory past.store⟩

namespace Database

variable {past : Logged MemoryStore}

/-- **One call** does to the rows what it does to the records. -/
theorem perform_ofMemory {store : MemoryStore} (h : store.Sound) (write : ReporterWrite) :
    write.perform (ofMemory store) =
      match write.perform store with
      | .ok taken next => .ok taken (ofMemory next)
      | .error error next => .error error (ofMemory next) := by
  cases write with
  | insert r =>
      simp only [ReporterWrite.perform, Store.insertReporter, change, insertReporter_ofMemory h]
      cases store.insertReporter r <;> rfl
  | put r =>
      simp only [ReporterWrite.perform, Functor.map, EStateM.map, Store.putReporter, change,
        putReporter_ofMemory h]
      cases store.putReporter r <;> rfl

theorem apply_inDatabase (h : past.store.Sound) (write : ReporterWrite) :
    write.apply past.inDatabase = (write.apply past).inDatabase := by
  unfold ReporterWrite.apply
  simp only [Logged.inDatabase, perform_ofMemory h]
  rcases write.perform past.store with ⟨taken, next⟩ | ⟨error, next⟩
  · cases taken <;> rfl
  · rfl

/-- **All calls** do to the rows what they do to the records. -/
theorem foldl_apply_inDatabase (h : MemoryStore.Lists past) (writes : List ReporterWrite) :
    writes.foldl ReporterWrite.apply past.inDatabase
      = (writes.foldl ReporterWrite.apply past).inDatabase := by
  induction writes generalizing past with
  | nil => rfl
  | cons write writes ih =>
      rw [List.foldl_cons, List.foldl_cons, apply_inDatabase h.sound, ih (h.apply write)]

/-- A database answers from the list of the records that it holds. -/
theorem listed_inDatabase (h : MemoryStore.Lists past) (hstorable : past.store.Storable)
    (hfew : past.store.reporters.size ≤ maxRows) :
    Listed past.inDatabase past.store.reporters.values where
  ids := h.listed.ids
  nodup := h.listed.nodup
  latest := h.listed.latest
  page skip take := answer_of_ok (page_ofMemory hstorable hfew skip take)
  pages size n hn := by
    rw [← Nat.zero_add (n * size)] at hn
    exact pages_of_page (fun skip take => answer_of_ok (page_ofMemory hstorable hfew skip take)) hn
  count := by
    refine answer_of_ok ?_
    simp [count, rows, ofMemory, Except.map, Logged.inDatabase]
  reporter id := by
    rw [h.sound.find?_id]
    exact answer_of_ok (reporter_ofMemory_of_storable hstorable id)
  findByAccount account := answer_of_ok (findByAccount_ofMemory hstorable account)
  takes write := by
    refine Iff.trans ?_ (h.listed.takes write)
    simp only [Logged.inDatabase, perform_ofMemory h.sound]
    cases write.perform past.store <;> simp

end Database

/-! ### All writes -/

theorem lists_run (writes : List ReporterWrite) :
    MemoryStore.Lists (Logged.run MemoryStore.empty writes) :=
  Logged.run_induction MemoryStore.Lists.start fun _ write h _ => h.apply write

/-- Only writes that were made are taken. -/
theorem mem_of_mem_accepted {σ : Type} [Store σ] {store : σ} {writes : List ReporterWrite} :
    ∀ write ∈ (Logged.run store writes).accepted, write ∈ writes := by
  refine Logged.run_induction (motive := fun past => ∀ write ∈ past.accepted, write ∈ writes)
    (List.forall_mem_nil _) ?_
  intro past write h hwrite
  unfold ReporterWrite.apply
  rcases write.perform past.store with ⟨taken, next⟩ | ⟨error, next⟩
  · cases taken with
    | true => simpa [or_imp, forall_and] using ⟨h, hwrite⟩
    | false => exact h
  · exact h

/-- **Stores list reporters in the order of their creation.** After any calls that insert
reporters and replace them, taken or not, a store in memory answers from the list of the
ids that were inserted, each once and in that order, with the record that was taken last
for it. A database answers from the same list, if the reporters that are written have
canonical accounts, and no more of them come together than a table has row keys for. -/
theorem creation_order (writes : List ReporterWrite) :
    ∃ records, Listed (Logged.run MemoryStore.empty writes) records ∧
      ((∀ write ∈ writes, write.reporter.Readable) → records.length < 2 ^ 63 →
        Listed (Logged.run Database.fresh writes) records) := by
  have hlists := lists_run writes
  refine ⟨_, hlists.listed, ?_⟩
  intro hreadable hfew
  have hstorable := hlists.storable fun write hwrite =>
    hreadable write (mem_of_mem_accepted write hwrite)
  have hsize : (Logged.run MemoryStore.empty writes).store.reporters.size ≤ Database.maxRows := by
    rw [OrderedMap.values, List.length_map] at hfew
    exact Nat.le_pred_of_lt hfew
  have hdatabase : Logged.run Database.fresh writes
      = (Logged.run MemoryStore.empty writes).inDatabase :=
    Database.foldl_apply_inDatabase MemoryStore.Lists.start writes
  rw [hdatabase]
  exact Database.listed_inDatabase hlists hstorable hsize

namespace Sample

/-- A reporter without a name. -/
def publisher : Reporter := Reporter.new ⟨3⟩ ⟨.plain, [0x62]⟩ .publisher "" ""

/-- Two reporters are inserted, the first of them twice, and later changed. A third is
changed before it is there, and inserted with a time that no store keeps. -/
def writes : List ReporterWrite :=
  [.insert tracer, .put { tracer with id := ⟨5⟩ }, .insert publisher,
    .insert { tracer with name := "again" }, .put { tracer with name := "changed" },
    .insert { tracer with id := ⟨5⟩, unlockTime := maxSeconds + 1 }]

end Sample

/-- Of the sample writes three are taken, and two reporters are listed. -/
theorem creation_order_sample :
    ∃ records, records.map Reporter.id = [⟨7⟩, ⟨3⟩] ∧
      (records.find? fun r => r.id = ⟨7⟩) = some { Sample.tracer with name := "changed" } ∧
      Listed (Logged.run Database.fresh Sample.writes) records := by
  obtain ⟨records, hmemory, hdatabase⟩ := creation_order Sample.writes
  have hids : records.map Reporter.id = [⟨7⟩, ⟨3⟩] := hmemory.ids.trans (by decide +kernel)
  have hlength : records.length = 2 := by simpa using congrArg List.length hids
  have hreadable : ∀ write ∈ Sample.writes, write.reporter.Readable := by
    have htracer : Sample.tracer.Readable := ⟨by decide, by decide⟩
    have hpublisher : Sample.publisher.Readable := ⟨by decide, by decide⟩
    simp only [Sample.writes, List.forall_mem_cons]
    exact ⟨htracer, ⟨htracer.1, htracer.2⟩, hpublisher, ⟨htracer.1, htracer.2⟩,
      ⟨htracer.1, htracer.2⟩, ⟨htracer.1, htracer.2⟩, List.forall_mem_nil _⟩
  refine ⟨records, hids, ?_, hdatabase hreadable (by omega)⟩
  have hfound : (Logged.run MemoryStore.empty Sample.writes).store.reporters.get? ⟨7⟩
      = some { Sample.tracer with name := "changed" } := by decide +kernel
  exact (EStateM.Result.ok.inj (hmemory.reporter ⟨7⟩)).1.symm.trans hfound

end ReporterRegistry
