import ReporterRegistry.Proofs.OrderedMap
import ReporterRegistry.Store.Memory

/-!
# Stores that hold records

A `MemoryStore` is also the view of what any store holds: a configuration and
reporters in creation order. `RecordStore` says of a kind of store which records
a state of it holds, and that its operations do to the store what they do to the
records. Reading a single reporter may fail, because a store may refuse a record
that it finds unacceptable; writing may not.

Records are `Sound` if every reporter stands under its own id and no unlock time
is past what stores keep.
-/

namespace ReporterRegistry

namespace MemoryStore

/-! ### Records -/

/-- The records with another configuration. -/
def withConfiguration (store : MemoryStore) (config : Configuration) : MemoryStore :=
  { store with config := some config }

/-- The records with a reporter written under its id. -/
def withReporter (store : MemoryStore) (reporter : Reporter) : MemoryStore :=
  { store with reporters := store.reporters.insert reporter.id reporter }

@[simp] theorem reporters_withConfiguration (store : MemoryStore) (config : Configuration) :
    (store.withConfiguration config).reporters = store.reporters := rfl

@[simp] theorem config_withReporter (store : MemoryStore) (reporter : Reporter) :
    (store.withReporter reporter).config = store.config := rfl

@[simp] theorem reporters_withReporter (store : MemoryStore) (reporter : Reporter) :
    (store.withReporter reporter).reporters = store.reporters.insert reporter.id reporter := rfl

/-- What stands under an id after a reporter was written: the reporter under its own,
and under any other what stood there before. -/
theorem get?_withReporter_cases {store : MemoryStore} {reporter found : Reporter} {id : ReporterId}
    (h : (store.withReporter reporter).reporters.get? id = some found) :
    (id = reporter.id ∧ found = reporter) ∨
      (id ≠ reporter.id ∧ store.reporters.get? id = some found) := by
  rw [reporters_withReporter, OrderedMap.get?_insert] at h
  by_cases hid : id = reporter.id
  · rw [if_pos hid, Option.some.injEq] at h
    exact Or.inl ⟨hid, h.symm⟩
  · rw [if_neg hid] at h
    exact Or.inr ⟨hid, h⟩

/-- Every reporter stands under its own id, with an unlock time that stores can
keep. -/
structure Sound (store : MemoryStore) : Prop where
  keyed : ∀ {id : ReporterId} {reporter : Reporter},
    store.reporters.get? id = some reporter → reporter.id = id
  timely : ∀ {id : ReporterId} {reporter : Reporter},
    store.reporters.get? id = some reporter → ¬ maxSeconds < reporter.unlockTime

/-- What is found under an id is found again under the id that it carries. -/
theorem Sound.get?_id {store : MemoryStore} (h : store.Sound) {id : ReporterId}
    {reporter : Reporter} (hfound : store.reporters.get? id = some reporter) :
    store.reporters.get? reporter.id = some reporter := by
  rw [h.keyed hfound, hfound]

theorem Sound.empty : empty.Sound where
  keyed h := by simp [MemoryStore.empty] at h
  timely h := by simp [MemoryStore.empty] at h

theorem Sound.withConfiguration {store : MemoryStore} (h : store.Sound) (config : Configuration) :
    (store.withConfiguration config).Sound :=
  ⟨h.keyed, h.timely⟩

/-- Records stay sound if the unlock time that is written is one that stores keep. -/
theorem Sound.withReporter {store : MemoryStore} (h : store.Sound) {reporter : Reporter}
    (htime : ¬ maxSeconds < reporter.unlockTime) : (store.withReporter reporter).Sound where
  keyed {id found} hfound := by
    rcases get?_withReporter_cases hfound with ⟨rfl, rfl⟩ | ⟨-, hfound⟩
    · rfl
    · exact h.keyed hfound
  timely {id found} hfound := by
    rcases get?_withReporter_cases hfound with ⟨-, rfl⟩ | ⟨-, hfound⟩
    · exact htime
    · exact h.timely hfound

/-- Writing a reporter that exists changes it in its place. -/
theorem Sound.values_withReporter {store : MemoryStore} (h : store.Sound)
    {reporter found : Reporter} (hget : store.reporters.get? reporter.id = some found) :
    (store.withReporter reporter).reporters.values
      = store.reporters.values.map fun r => if r.id = reporter.id then reporter else r := by
  have hentries := OrderedMap.upsert_eq_map reporter store.reporters.nodup hget
  have hvalues : (store.withReporter reporter).reporters.values
      = (store.reporters.entries.map fun entry =>
          if entry.1 = reporter.id then (reporter.id, reporter) else entry).map Prod.snd :=
    congrArg (List.map Prod.snd) hentries
  rw [hvalues, OrderedMap.values, List.map_map, List.map_map]
  refine List.map_congr_left ?_
  intro entry hentry
  have hkey : entry.2.id = entry.1 := h.keyed (OrderedMap.find?_of_mem store.reporters.nodup hentry)
  by_cases hid : entry.1 = reporter.id
  · simp [hkey, hid]
  · simp [hkey, hid]

/-- Writing a reporter and then the one it replaced gives the records back. -/
theorem withReporter_withReporter_of_get? {store : MemoryStore} {reporter changed : Reporter}
    (h : store.reporters.get? reporter.id = some reporter) (hid : changed.id = reporter.id) :
    (store.withReporter changed).withReporter reporter = store := by
  cases store
  simp only [withReporter, hid, OrderedMap.insert_insert, OrderedMap.insert_self h]

end MemoryStore

/-- A time that stores keep passes their check. -/
theorem Reporter.checkUnlockTime_of_not_lt {reporter : Reporter}
    (h : ¬ maxSeconds < reporter.unlockTime) : reporter.checkUnlockTime = .ok () := by
  rw [checkUnlockTime, if_neg h]

/-- The unlock time of a reporter that waits for nothing is one that stores keep. -/
theorem not_maxSeconds_lt_zero : ¬ maxSeconds < 0 := by decide

/-- Every unlock time that a registry computes is one that stores keep. -/
theorem not_maxSeconds_lt_unlockAt (terms : StakeTerms) (now : Seconds) :
    ¬ maxSeconds < terms.unlockAt now := by
  rw [BitVec.lt_def, StakeTerms.toNat_unlockAt, Nat.not_lt]
  exact Nat.min_le_right _ _

/-! ### Kinds of stores -/

/-- A kind of store whose states hold records. -/
class RecordStore (σ : Type) [Store σ] where
  /-- The state holds exactly these records. -/
  Holds : MemoryStore → σ → Prop
  /-- The configuration is one that the store can give back. -/
  Fits : Configuration → Prop
  sound : ∀ {records store}, Holds records store → records.Sound
  fits : ∀ {records store config}, Holds records store → records.config = some config → Fits config
  /-- The records say everything about the state. -/
  unique : ∀ {records store store'}, Holds records store → Holds records store' → store' = store
  configuration : ∀ {records store}, Holds records store →
    Store.configuration store = .ok records.config store
  reporter : ∀ {records store}, Holds records store → ∀ id,
    Store.reporter id store = .ok (records.reporters.get? id) store ∨
      ∃ error, Store.reporter id store = .error error store
  insertConfiguration : ∀ {records store}, Holds records store → records.config = none →
    ∀ config, ∃ next, Store.insertConfiguration config store = .ok true next ∧
      (Fits config → Holds (records.withConfiguration config) next)
  insertConfiguration_of_taken : ∀ {records store found}, Holds records store →
    records.config = some found → ∀ config,
      Store.insertConfiguration config store = .ok false store
  putConfiguration : ∀ {records store}, Holds records store → ∀ config,
    ∃ next, Store.putConfiguration config store = .ok () next ∧
      (Fits config → Holds (records.withConfiguration config) next)
  insertReporter : ∀ {records store}, Holds records store → ∀ {reporter : Reporter},
    ¬ maxSeconds < reporter.unlockTime → records.reporters.get? reporter.id = none →
      ∃ next, Store.insertReporter reporter store = .ok true next ∧
        Holds (records.withReporter reporter) next
  insertReporter_of_taken : ∀ {records store}, Holds records store → ∀ {reporter found : Reporter},
    ¬ maxSeconds < reporter.unlockTime → records.reporters.get? reporter.id = some found →
      Store.insertReporter reporter store = .ok false store
  putReporter : ∀ {records store}, Holds records store → ∀ {reporter found : Reporter},
    ¬ maxSeconds < reporter.unlockTime → records.reporters.get? reporter.id = some found →
      ∃ next, Store.putReporter reporter store = .ok () next ∧
        Holds (records.withReporter reporter) next

namespace MemoryStore

/-! ### The store in memory -/

/-- The first configuration is written. -/
theorem insertConfiguration_of_none {store : MemoryStore} (h : store.config = none)
    (config : Configuration) :
    store.insertConfiguration config = (true, store.withConfiguration config) := by
  simp only [insertConfiguration, h]
  rfl

/-- Any later one is not, and the answer says so. -/
theorem insertConfiguration_of_some {store : MemoryStore} {found : Configuration}
    (h : store.config = some found) (config : Configuration) :
    store.insertConfiguration config = (false, store) := by
  simp only [insertConfiguration, h]

theorem insertReporter_of_none {store : MemoryStore} {reporter : Reporter}
    (htime : ¬ maxSeconds < reporter.unlockTime)
    (h : store.reporters.get? reporter.id = none) :
    store.insertReporter reporter = .ok (true, store.withReporter reporter) := by
  simp only [insertReporter, Reporter.checkUnlockTime_of_not_lt htime, h]
  rfl

/-- A reporter whose id is taken is not written, and that is not an error. -/
theorem insertReporter_of_some {store : MemoryStore} {reporter found : Reporter}
    (htime : ¬ maxSeconds < reporter.unlockTime)
    (h : store.reporters.get? reporter.id = some found) :
    store.insertReporter reporter = .ok (false, store) := by
  simp only [insertReporter, Reporter.checkUnlockTime_of_not_lt htime, h]

/-- A reporter that exists is replaced. -/
theorem putReporter_of_some {store : MemoryStore} {reporter found : Reporter}
    (htime : ¬ maxSeconds < reporter.unlockTime)
    (h : store.reporters.get? reporter.id = some found) :
    store.putReporter reporter = .ok (store.withReporter reporter) := by
  simp only [putReporter, Reporter.checkUnlockTime_of_not_lt htime, h]
  rfl

/-- A store in memory holds itself, and never refuses to read. -/
instance : RecordStore MemoryStore where
  Holds records store := store = records ∧ records.Sound
  Fits _ := True
  sound h := h.2
  fits _ _ := trivial
  unique h h' := h'.1.trans h.1.symm
  configuration h := by rw [h.1]; rfl
  reporter h id := Or.inl (by rw [h.1]; rfl)
  insertConfiguration {records store} h hnone config := by
    obtain ⟨rfl, hsound⟩ := h
    refine ⟨store.withConfiguration config, ?_, fun _ => ⟨rfl, hsound.withConfiguration config⟩⟩
    simp only [Store.insertConfiguration, insertConfiguration_of_none hnone]
  insertConfiguration_of_taken {records store found} h hsome config := by
    obtain ⟨rfl, -⟩ := h
    simp only [Store.insertConfiguration, insertConfiguration_of_some hsome]
  putConfiguration h config :=
    ⟨_, rfl, fun _ => ⟨by rw [h.1]; rfl, h.2.withConfiguration config⟩⟩
  insertReporter {records store} h {reporter} htime hnone := by
    obtain ⟨rfl, hsound⟩ := h
    refine ⟨store.withReporter reporter, ?_, rfl, hsound.withReporter htime⟩
    simp only [Store.insertReporter, insertReporter_of_none htime hnone]
  insertReporter_of_taken {records store} h {reporter found} htime hsome := by
    obtain ⟨rfl, hsound⟩ := h
    simp only [Store.insertReporter, insertReporter_of_some htime hsome]
  putReporter {records store} h {reporter found} htime hsome := by
    obtain ⟨rfl, hsound⟩ := h
    refine ⟨store.withReporter reporter, ?_, rfl, hsound.withReporter htime⟩
    simp only [Store.putReporter, putReporter_of_some htime hsome]

end MemoryStore

end ReporterRegistry
