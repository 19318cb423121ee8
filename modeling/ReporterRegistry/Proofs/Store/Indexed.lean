import ReporterRegistry.Proofs.Registry.Alike
import ReporterRegistry.Proofs.Registry.Run
import ReporterRegistry.Proofs.Store.Agreement
import ReporterRegistry.Store.Indexed

/-!
# A map beside an order is an ordered map

`IndexedMap.toOrdered` reads a map and its order as the list of bindings that an
`OrderedMap` is. Writing a new key, or another value of a bound key, becomes an
insertion, since ordered maps are told apart by two things only: the keys in their
order, and what each of them is bound to (`OrderedMap.ext_get?`). The two kinds of map
are in fact the same up to the reading: `ofOrdered` lays an ordered map out again.

So a store that is laid out as a map beside an order is a store in memory. It answers
every sequence of calls as the records do that it holds (`answers_records`), and a
registry runs on it as it runs on the records (`Shows.run_indexed`).
-/

namespace ReporterRegistry

open Session (StoreStep)

/-! ### Bindings by keys -/

namespace OrderedMap

section

variable {κ ν : Type} {get : κ → Option ν} {keys : List κ}

/-- The bindings of some keys, in the order of the keys. -/
def bindingsOf (get : κ → Option ν) (keys : List κ) : List (κ × ν) :=
  keys.filterMap fun k => (get k).map (k, ·)

theorem bindingsOf_cons_of_some {k : κ} {v : ν} (h : get k = some v) (keys : List κ) :
    bindingsOf get (k :: keys) = (k, v) :: bindingsOf get keys :=
  List.filterMap_cons_some (by rw [h, Option.map_some])

/-- If all keys are bound, they are the keys of their bindings. -/
theorem map_fst_bindingsOf (h : ∀ k ∈ keys, (get k).isSome) :
    (bindingsOf get keys).map Prod.fst = keys := by
  induction keys with
  | nil => rfl
  | cons k keys ih =>
      obtain ⟨hk, hkeys⟩ := List.forall_mem_cons.mp h
      obtain ⟨v, hv⟩ := Option.isSome_iff_exists.mp hk
      rw [bindingsOf_cons_of_some hv, List.map_cons, ih hkeys]

theorem map_snd_bindingsOf (get : κ → Option ν) (keys : List κ) :
    (bindingsOf get keys).map Prod.snd = keys.filterMap get := by
  induction keys with
  | nil => rfl
  | cons k keys ih =>
      cases hv : get k with
      | none => simpa [bindingsOf, hv] using ih
      | some v => rw [bindingsOf_cons_of_some hv, List.map_cons, ih, List.filterMap_cons_some hv]

/-- If all keys are bound, none is dropped on the way to its value. -/
theorem map_some_filterMap (h : ∀ k ∈ keys, (get k).isSome) :
    (keys.filterMap get).map some = keys.map get := by
  induction keys with
  | nil => rfl
  | cons k keys ih =>
      obtain ⟨hk, hkeys⟩ := List.forall_mem_cons.mp h
      obtain ⟨v, hv⟩ := Option.isSome_iff_exists.mp hk
      rw [List.filterMap_cons_some hv, List.map_cons, List.map_cons, ih hkeys, hv]

/-- If all keys are bound, a page of the keys gives a page of the values. -/
theorem filterMap_page (h : ∀ k ∈ keys, (get k).isSome) (skip take : Nat) :
    ((keys.drop skip).take take).filterMap get = ((keys.filterMap get).drop skip).take take := by
  have hpage : ∀ k ∈ (keys.drop skip).take take, (get k).isSome := by
    intro k hk
    exact h k (List.mem_of_mem_drop (List.mem_of_mem_take hk))
  -- A map commutes with cutting a page, where a filter need not.
  have hinj : Function.Injective (List.map (some : ν → Option ν)) :=
    List.map_injective_iff.mpr fun _ _ => Option.some.inj
  apply hinj
  rw [map_some_filterMap hpage, List.map_take, List.map_drop, List.map_take, List.map_drop,
    map_some_filterMap h]

end

variable {κ ν : Type} [DecidableEq κ]

/-- A list of bindings without repeated keys is that of its keys, each bound to what is
found for it. -/
theorem bindingsOf_find? {entries : List (κ × ν)} (hnd : (entries.map Prod.fst).Nodup) :
    bindingsOf (fun k => find? k entries) (entries.map Prod.fst) = entries := by
  induction entries with
  | nil => rfl
  | cons entry rest ih =>
      obtain ⟨k, v⟩ := entry
      rw [List.map_cons, List.nodup_cons] at hnd
      have hhead : (fun k' => find? k' ((k, v) :: rest)) k = some v := by simp [find?]
      -- The first key is none of the others, so they are found where they were.
      have hrest : bindingsOf (fun k' => find? k' ((k, v) :: rest)) (rest.map Prod.fst)
          = bindingsOf (fun k' => find? k' rest) (rest.map Prod.fst) := by
        refine List.filterMap_congr fun k' hk' => ?_
        have hne : k ≠ k' := fun h => hnd.1 (h ▸ hk')
        simp only [find?, if_neg hne]
      rw [List.map_cons, bindingsOf_cons_of_some (k := k) hhead, hrest, ih hnd.2]

/-- **Ordered maps are equal** if they have the same keys in the same order, and bind
them to the same values. -/
theorem ext_get? {m m' : OrderedMap κ ν} (hkeys : m.keys = m'.keys)
    (hget : ∀ k, m.get? k = m'.get? k) : m = m' := by
  have hentries : ∀ m : OrderedMap κ ν, bindingsOf m.get? m.keys = m.entries :=
    fun m => bindingsOf_find? m.nodup
  apply ext_entries
  rw [← hentries m, ← hentries m', hkeys, funext hget]

end OrderedMap

/-! ### The ordered map -/

namespace IndexedMap

variable {κ ν : Type} [DecidableEq κ] [Hashable κ] {m : IndexedMap κ ν}

/-- The keys in the order are those that are looked up with success. -/
theorem mem_order_iff {k : κ} : k ∈ m.order ↔ (m.get? k).isSome := by
  rw [m.mem_order, Std.ExtHashMap.mem_iff_isSome_getElem?]
  rfl

/-- The map and the order as one list of bindings. -/
def toOrdered (m : IndexedMap κ ν) : OrderedMap κ ν where
  entries := OrderedMap.bindingsOf m.get? m.order
  nodup := by
    rw [OrderedMap.map_fst_bindingsOf fun _ => mem_order_iff.mp]
    exact m.nodup

@[simp] theorem keys_toOrdered (m : IndexedMap κ ν) : m.toOrdered.keys = m.order :=
  OrderedMap.map_fst_bindingsOf fun _ => mem_order_iff.mp

@[simp] theorem get?_toOrdered (m : IndexedMap κ ν) (k : κ) : m.toOrdered.get? k = m.get? k := by
  cases hget : m.get? k with
  | none =>
      rw [OrderedMap.get?_eq_none_iff, keys_toOrdered, mem_order_iff, hget]
      simp
  | some v =>
      have hmem : k ∈ m.order := mem_order_iff.mpr (by simp [hget])
      refine OrderedMap.find?_of_mem m.toOrdered.nodup ?_
      exact List.mem_filterMap.mpr ⟨k, hmem, by rw [hget, Option.map_some]⟩

theorem values_toOrdered (m : IndexedMap κ ν) : m.toOrdered.values = m.values :=
  OrderedMap.map_snd_bindingsOf m.get? m.order

theorem size_toOrdered (m : IndexedMap κ ν) : m.toOrdered.size = m.size := by
  have hlength := congrArg List.length (keys_toOrdered m)
  rwa [OrderedMap.keys, List.length_map] at hlength

/-- A page is cut from the values, though the map cuts it from the keys. -/
theorem slice_eq (m : IndexedMap κ ν) (skip take : Nat) :
    m.slice skip take = (m.toOrdered.values.drop skip).take take := by
  rw [values_toOrdered]
  exact OrderedMap.filterMap_page (fun _ => mem_order_iff.mp) skip take

/-- Only one map and order are read as an ordered map. -/
theorem toOrdered_injective : Function.Injective (toOrdered : IndexedMap κ ν → OrderedMap κ ν) := by
  intro m m' h
  have horder : m.order = m'.order := by rw [← keys_toOrdered m, ← keys_toOrdered m', h]
  have hbindings : m.bindings = m'.bindings := by
    apply Std.ExtHashMap.ext_getElem?
    intro k
    show m.get? k = m'.get? k
    rw [← get?_toOrdered m, ← get?_toOrdered m', h]
  cases m
  cases m'
  cases horder
  cases hbindings
  rfl

theorem mem_keys_iff (m : OrderedMap κ ν) (k : κ) :
    k ∈ m.keys ↔ k ∈ Std.ExtHashMap.ofList m.entries := by
  rw [Std.ExtHashMap.mem_ofList, List.contains_iff_mem]
  rfl

/-- An ordered map, laid out as a map beside an order. -/
def ofOrdered (m : OrderedMap κ ν) : IndexedMap κ ν where
  bindings := .ofList m.entries
  order := m.keys
  nodup := m.nodup
  mem_order := mem_keys_iff m

theorem get?_ofOrdered (m : OrderedMap κ ν) (k : κ) : (ofOrdered m).get? k = m.get? k := by
  show (Std.ExtHashMap.ofList m.entries)[k]? = m.get? k
  cases hget : m.get? k with
  | none =>
      have hnot : k ∉ m.entries.map Prod.fst := OrderedMap.get?_eq_none_iff.mp hget
      exact Std.ExtHashMap.getElem?_ofList_of_contains_eq_false (by simpa using hnot)
  | some v =>
      have hdistinct : m.entries.Pairwise fun a b => (a.1 == b.1) = false :=
        (List.pairwise_map.mp m.nodup).imp beq_false_of_ne
      exact Std.ExtHashMap.getElem?_ofList_of_mem BEq.rfl hdistinct (OrderedMap.mem_of_find? hget)

/-- **Every ordered map is what a map beside an order is read as**, and by
`toOrdered_injective` what only one is. -/
theorem toOrdered_ofOrdered (m : OrderedMap κ ν) : (ofOrdered m).toOrdered = m := by
  apply OrderedMap.ext_get?
  · rw [keys_toOrdered]
    rfl
  · intro k
    rw [get?_toOrdered, get?_ofOrdered]

/-! ### Writing -/

theorem getElem?_insert (bindings : Std.ExtHashMap κ ν) (k k' : κ) (v : ν) :
    (bindings.insert k v)[k']? = if k' = k then some v else bindings[k']? := by
  rw [Std.ExtHashMap.getElem?_insert]
  by_cases h : k' = k
  · subst h
    simp
  · have h' : ¬ k = k' := fun e => h e.symm
    simp [h, h']

/-- **A new key is inserted.** -/
theorem toOrdered_push (m : IndexedMap κ ν) {k : κ} (v : ν) (hnew : k ∉ m.bindings) :
    (m.push k v hnew).toOrdered = m.toOrdered.insert k v := by
  have hfresh : k ∉ m.order := mt (m.mem_order k).mp hnew
  apply OrderedMap.ext_get?
  · rw [OrderedMap.keys_insert, keys_toOrdered, keys_toOrdered, if_neg hfresh]
    rfl
  · intro k'
    rw [OrderedMap.get?_insert, get?_toOrdered, get?_toOrdered]
    exact getElem?_insert m.bindings k k' v

/-- **A key that is bound is inserted in its place.** -/
theorem toOrdered_replace (m : IndexedMap κ ν) {k : κ} (v : ν) (hbound : k ∈ m.bindings) :
    (m.replace k v hbound).toOrdered = m.toOrdered.insert k v := by
  have hold : k ∈ m.order := (m.mem_order k).mpr hbound
  apply OrderedMap.ext_get?
  · rw [OrderedMap.keys_insert, keys_toOrdered, keys_toOrdered, if_pos hold]
    rfl
  · intro k'
    rw [OrderedMap.get?_insert, get?_toOrdered, get?_toOrdered]
    exact getElem?_insert m.bindings k k' v

end IndexedMap

/-! ### The store -/

namespace IndexedStore

/-- The records that the store holds. -/
def records (store : IndexedStore) : MemoryStore := ⟨store.config, store.reporters.toOrdered⟩

variable {store : IndexedStore}

/-- The records say everything about the store. -/
theorem records_injective : Function.Injective records := by
  intro store store' h
  obtain ⟨hconfig, hreporters⟩ := MemoryStore.mk.inj h
  cases store
  cases store'
  cases hconfig
  cases IndexedMap.toOrdered_injective hreporters
  rfl

theorem insertConfiguration_records (store : IndexedStore) (config : Configuration) :
    store.records.insertConfiguration config
      = ((store.insertConfiguration config).1, (store.insertConfiguration config).2.records) := by
  cases hconfig : store.config with
  | none =>
      rw [MemoryStore.insertConfiguration_of_none hconfig]
      simp only [insertConfiguration, hconfig]
      rfl
  | some found =>
      rw [MemoryStore.insertConfiguration_of_some hconfig]
      simp only [insertConfiguration, hconfig]
      rfl

/-- The map has a reporter if there is one among the records. -/
theorem mem_bindings_iff {id : ReporterId} :
    id ∈ store.reporters.bindings ↔ (store.records.reporters.get? id).isSome := by
  rw [← store.reporters.mem_order, IndexedMap.mem_order_iff, records, IndexedMap.get?_toOrdered]

theorem records_push {reporter : Reporter} (hnew : reporter.id ∉ store.reporters.bindings) :
    records { store with reporters := store.reporters.push reporter.id reporter hnew }
      = store.records.withReporter reporter :=
  congrArg (MemoryStore.mk store.config) (store.reporters.toOrdered_push reporter hnew)

theorem records_replace {reporter : Reporter} (hbound : reporter.id ∈ store.reporters.bindings) :
    records { store with reporters := store.reporters.replace reporter.id reporter hbound }
      = store.records.withReporter reporter :=
  congrArg (MemoryStore.mk store.config) (store.reporters.toOrdered_replace reporter hbound)

theorem insertReporter_records (store : IndexedStore) (reporter : Reporter) :
    store.records.insertReporter reporter
      = (store.insertReporter reporter).map fun done => (done.1, done.2.records) := by
  by_cases htime : maxSeconds < reporter.unlockTime
  · simp only [insertReporter, MemoryStore.insertReporter, Reporter.checkUnlockTime, if_pos htime]
    rfl
  have hcheck := Reporter.checkUnlockTime_of_not_lt htime
  by_cases hid : reporter.id ∈ store.reporters.bindings
  · obtain ⟨found, hfound⟩ := Option.isSome_iff_exists.mp (mem_bindings_iff.mp hid)
    rw [MemoryStore.insertReporter_of_some htime hfound]
    simp only [insertReporter, hcheck, ok_bind, dif_pos hid]
    rfl
  · have hnone := Option.not_isSome_iff_eq_none.mp (mt mem_bindings_iff.mpr hid)
    rw [MemoryStore.insertReporter_of_none htime hnone, ← records_push hid]
    simp only [insertReporter, hcheck, ok_bind, dif_neg hid]
    rfl

theorem putReporter_records (store : IndexedStore) (reporter : Reporter) :
    store.records.putReporter reporter = (store.putReporter reporter).map records := by
  by_cases htime : maxSeconds < reporter.unlockTime
  · simp only [putReporter, MemoryStore.putReporter, Reporter.checkUnlockTime, if_pos htime]
    rfl
  have hcheck := Reporter.checkUnlockTime_of_not_lt htime
  by_cases hid : reporter.id ∈ store.reporters.bindings
  · obtain ⟨found, hfound⟩ := Option.isSome_iff_exists.mp (mem_bindings_iff.mp hid)
    rw [MemoryStore.putReporter_of_some htime hfound, ← records_replace hid]
    simp only [putReporter, hcheck, ok_bind, dif_pos hid]
    rfl
  · have hnone := Option.not_isSome_iff_eq_none.mp (mt mem_bindings_iff.mpr hid)
    simp only [putReporter, MemoryStore.putReporter, hcheck, hnone, ok_bind, dif_neg hid]
    rfl

/-! ### Calls -/

/-- **One call**: the store answers what its records answer, and holds afterwards what
they have become. -/
theorem respond_records (store : IndexedStore) (step : StoreStep) :
    respond step store.records = ((respond step store).1, (respond step store).2.records) := by
  cases step with
  | configuration => rfl
  | insertConfiguration config =>
      simp only [respond, StoreStep.perform, Functor.map, EStateM.map, Store.insertConfiguration,
        insertConfiguration_records]
  | putConfiguration config => rfl
  | reporter id =>
      simp only [respond, StoreStep.perform, Functor.map, EStateM.map, Store.reporter, records,
        IndexedMap.get?_toOrdered]
  | insertReporter reporter =>
      simp only [respond, StoreStep.perform, Functor.map, EStateM.map, Store.insertReporter,
        insertReporter_records]
      cases store.insertReporter reporter <;> rfl
  | putReporter reporter =>
      simp only [respond, StoreStep.perform, bind, EStateM.bind, Store.putReporter,
        putReporter_records]
      cases store.putReporter reporter <;> rfl
  | count =>
      simp only [respond, StoreStep.perform, Functor.map, EStateM.map, Store.count, records,
        IndexedMap.size_toOrdered]
  | page skip take =>
      simp only [respond, StoreStep.perform, Functor.map, EStateM.map, Store.page,
        MemoryStore.page, records, IndexedMap.slice_eq]
  | findByAccount account =>
      simp only [respond, StoreStep.perform, Functor.map, EStateM.map, Store.findByAccount,
        findByAccount, MemoryStore.findByAccount, records, IndexedMap.values_toOrdered]

/-- **The layout makes no difference**: every sequence of calls is answered as the
records answer it. -/
theorem answers_records (store : IndexedStore) (events : List StoreEvent) :
    answers (pure ()) events store = answers (pure ()) events store.records := by
  induction events generalizing store with
  | nil => rfl
  | cons event events ih =>
      cases event with
      | reopen => exact ih store
      | call step =>
          simp only [answers, respond_records]
          rw [ih]

/-! ### Registries -/

theorem exists_insertConfiguration {config : Configuration} {inserted : Bool} {next : MemoryStore}
    (h : store.records.insertConfiguration config = (inserted, next)) :
    ∃ store', store.insertConfiguration config = (inserted, store') ∧ store'.records = next := by
  rw [insertConfiguration_records] at h
  obtain ⟨rfl, rfl⟩ := Prod.mk.inj h
  exact ⟨_, rfl, rfl⟩

/-- What inserting into the records does, inserting into the store does. -/
theorem exists_insertReporter {reporter : Reporter} {inserted : Bool} {next : MemoryStore}
    (h : store.records.insertReporter reporter = .ok (inserted, next)) :
    ∃ store', store.insertReporter reporter = .ok (inserted, store') ∧ store'.records = next := by
  rw [insertReporter_records] at h
  obtain ⟨⟨inserted', store'⟩, hinsert, hdone⟩ := map_eq_ok_iff.mp h
  cases hdone
  exact ⟨store', hinsert, rfl⟩

/-- A store that is laid out as a map beside an order holds its records, and never
refuses to read. -/
instance : RecordStore IndexedStore where
  Holds records store := store.records = records ∧ records.Sound
  Fits _ := True
  sound h := h.2
  fits _ _ := trivial
  unique h h' := records_injective (h'.1.trans h.1.symm)
  configuration h := by
    rw [← h.1]
    rfl
  reporter {records store} h id := by
    obtain ⟨rfl, -⟩ := h
    refine Or.inl ?_
    simp only [Store.reporter, IndexedStore.records, IndexedMap.get?_toOrdered]
  insertConfiguration {records store} h hnone config := by
    obtain ⟨rfl, hsound⟩ := h
    obtain ⟨next, hinsert, hnext⟩ :=
      exists_insertConfiguration (MemoryStore.insertConfiguration_of_none hnone config)
    refine ⟨next, ?_, fun _ => ⟨hnext, hsound.withConfiguration config⟩⟩
    simp only [Store.insertConfiguration, hinsert]
  insertConfiguration_of_taken {records store found} h hsome config := by
    obtain ⟨rfl, -⟩ := h
    obtain ⟨next, hinsert, hnext⟩ :=
      exists_insertConfiguration (MemoryStore.insertConfiguration_of_some hsome config)
    -- The records are the same as before, and so is the store.
    simp only [Store.insertConfiguration, hinsert, records_injective hnext]
  putConfiguration {records store} h config := by
    obtain ⟨rfl, hsound⟩ := h
    exact ⟨_, rfl, fun _ => ⟨rfl, hsound.withConfiguration config⟩⟩
  insertReporter {records store} h {reporter} htime hnone := by
    obtain ⟨rfl, hsound⟩ := h
    obtain ⟨next, hinsert, hnext⟩ :=
      exists_insertReporter (MemoryStore.insertReporter_of_none htime hnone)
    refine ⟨next, ?_, hnext, hsound.withReporter htime⟩
    simp only [Store.insertReporter, hinsert]
  insertReporter_of_taken {records store} h {reporter found} htime hsome := by
    obtain ⟨rfl, -⟩ := h
    obtain ⟨next, hinsert, hnext⟩ :=
      exists_insertReporter (MemoryStore.insertReporter_of_some htime hsome)
    simp only [Store.insertReporter, hinsert, records_injective hnext]
  putReporter {records store} h {reporter found} htime hsome := by
    obtain ⟨rfl, hsound⟩ := h
    have hput := MemoryStore.putReporter_of_some htime hsome
    rw [putReporter_records] at hput
    obtain ⟨next, hput, hnext⟩ := map_eq_ok_iff.mp hput
    refine ⟨next, ?_, hnext, hsound.withReporter htime⟩
    simp only [Store.putReporter, hput]

/-- Nothing is refused on reading. -/
theorem not_unread (operation : Operation) (settings : Settings)
    (world : World IndexedStore Ledger) : ¬ operation.Unread settings world := by
  intro hunread
  obtain ⟨id, error, hread, -⟩ := hunread
  cases hread

end IndexedStore

section

variable {settings : Settings} {records : World MemoryStore Ledger}
  {world : World IndexedStore Ledger}

/-- **A registry cannot tell the layout apart**: its operations have the same results on an
indexed store as on the records that it holds. -/
theorem Operation.agree_indexed (settings : Settings) (operation : Operation) :
    Registry.Agree Shows (operation.run settings : Registry.Action MemoryStore Ledger Outcome)
      (operation.run settings : Registry.Action IndexedStore Ledger Outcome) := by
  intro records world h
  have hrun := run_eq_verdict settings (RecordStore.sound h.holds) operation
  rcases h.answer settings operation with hunread | hanswer
  · exact absurd hunread (IndexedStore.not_unread operation settings world)
  cases hverdict : operation.verdict settings records with
  | error error =>
      rw [hverdict] at hrun hanswer
      rw [hrun, hanswer]
      exact .error error h
  | ok change =>
      rw [hverdict] at hrun hanswer
      obtain ⟨store, hok, hholds⟩ := hanswer
      rw [hrun, hok]
      exact .ok change.outcome ⟨hholds fun _ _ => trivial, rfl⟩

/-- Nor does anything else that happens tell it apart. -/
theorem Shows.apply_indexed (h : Shows records world) (turn : Turn) :
    Shows (turn.apply settings records) (turn.apply settings world) := by
  cases turn with
  | operate operation => exact (operation.agree_indexed settings).left h
  | reopen => exact (h.reopen settings).2
  | ledger call => exact ⟨h.holds, by rw [h.same]; rfl⟩
  | clock change => exact ⟨h.holds, by rw [h.same]; rfl⟩
  | drain => exact ⟨h.holds, by rw [h.same]; rfl⟩
  | subscribe => exact ⟨h.holds, by rw [h.same]; rfl⟩

/-- **A run with an indexed store shows the run in memory** of the same turns. -/
theorem Shows.run_indexed (h : Shows records world) (turns : List Turn) :
    Shows (records.run settings turns) (world.run settings turns) := by
  induction turns generalizing records world with
  | nil => exact h
  | cons turn turns ih => exact ih (h.apply_indexed turn)

/-- So it is from the start of the registry on. -/
theorem shows_indexed_run {owner : Account} {store : IndexedStore}
    (hstart : Registry.establish settings owner IndexedStore.empty = .ok () store)
    (ledger : Ledger) (now : Seconds) (turns : List Turn) :
    Shows ((World.started owner ledger now).run settings turns)
      (World.run settings turns (⟨store, ledger, now, .empty⟩ : World IndexedStore Ledger)) := by
  have hempty : RecordStore.Holds MemoryStore.empty IndexedStore.empty :=
    ⟨rfl, MemoryStore.Sound.empty⟩
  have hstarted : Shows (World.started owner ledger now)
      (⟨store, ledger, now, .empty⟩ : World IndexedStore Ledger) :=
    ⟨holds_of_establish hempty trivial hstart, rfl⟩
  exact hstarted.run_indexed turns

end

end ReporterRegistry
