import Mathlib.Data.List.Nodup
import ReporterRegistry.Store.Basic

/-!
# The store in memory, laid out

How a store in memory keeps its reporters: a hash map, which finds a reporter by its
id, and beside it the ids in the order of their creation. A page is read by going
through the order and looking every id up in the map.

A key is written into the map and into the order at the same time, and never leaves
either. So both list the same keys, and the order lists each of them once, which is
part of the type of `IndexedMap`. Two maps are equal if all keys are bound to the same
values in them; how the map arranges its buckets is not visible.
-/

namespace ReporterRegistry

/-! ### Maps beside an order -/

/-- A hash map, and its keys in the order in which they were first bound. -/
structure IndexedMap (κ ν : Type) [DecidableEq κ] [Hashable κ] where
  bindings : Std.ExtHashMap κ ν
  order : List κ
  nodup : order.Nodup
  mem_order : ∀ k, k ∈ order ↔ k ∈ bindings

namespace IndexedMap

variable {κ ν : Type} [DecidableEq κ] [Hashable κ]

/-- The map without bindings. -/
def empty : IndexedMap κ ν where
  bindings := ∅
  order := []
  nodup := List.nodup_nil
  mem_order k := by simp

/-- The value of a key. -/
def get? (m : IndexedMap κ ν) (k : κ) : Option ν := m.bindings[k]?

/-- The map with a new key, which comes last. -/
def push (m : IndexedMap κ ν) (k : κ) (v : ν) (hnew : k ∉ m.bindings) : IndexedMap κ ν where
  bindings := m.bindings.insert k v
  order := m.order ++ [k]
  nodup := by
    have hfresh : k ∉ m.order := mt (m.mem_order k).mp hnew
    rw [← List.concat_eq_append]
    exact m.nodup.concat hfresh
  mem_order k' := by
    rw [List.mem_append, List.mem_singleton, m.mem_order, Std.ExtHashMap.mem_insert, or_comm,
      beq_iff_eq, eq_comm]

/-- The map with another value for a key that it has. -/
def replace (m : IndexedMap κ ν) (k : κ) (v : ν) (hbound : k ∈ m.bindings) : IndexedMap κ ν where
  bindings := m.bindings.insert k v
  order := m.order
  nodup := m.nodup
  mem_order k' := by
    rw [m.mem_order, Std.ExtHashMap.mem_insert, beq_iff_eq]
    constructor
    · exact Or.inr
    · intro hmem
      rcases hmem with rfl | hmem
      · exact hbound
      · exact hmem

/-- The values of the keys that come after some others, and of no more than so many. -/
def slice (m : IndexedMap κ ν) (skip take : Nat) : List ν :=
  ((m.order.drop skip).take take).filterMap m.get?

/-- The values in the order of their keys. -/
def values (m : IndexedMap κ ν) : List ν := m.order.filterMap m.get?

/-- How many keys are bound. -/
def size (m : IndexedMap κ ν) : Nat := m.order.length

end IndexedMap

/-! ### The store -/

instance : Hashable ReporterId := ⟨fun id => hash id.value⟩

/-- A store that keeps a map of its reporters beside the order of their creation. -/
structure IndexedStore where
  config : Option Configuration
  reporters : IndexedMap ReporterId Reporter

namespace IndexedStore

/-- The store that holds nothing. -/
def empty : IndexedStore := ⟨none, .empty⟩

/-- Write the first configuration. -/
def insertConfiguration (store : IndexedStore) (config : Configuration) : Bool × IndexedStore :=
  if store.config.isSome then (false, store)
  else (true, { store with config := some config })

/-- Write a new reporter, into the map and at the end of the order. -/
def insertReporter (store : IndexedStore) (reporter : Reporter) :
    Except StoreError (Bool × IndexedStore) := do
  reporter.checkUnlockTime
  if h : reporter.id ∈ store.reporters.bindings then
    return (false, store)
  else
    return (true, { store with reporters := store.reporters.push reporter.id reporter h })

/-- Replace a reporter that exists. Its place in the order stays. -/
def putReporter (store : IndexedStore) (reporter : Reporter) : Except StoreError IndexedStore := do
  reporter.checkUnlockTime
  if h : reporter.id ∈ store.reporters.bindings then
    return { store with reporters := store.reporters.replace reporter.id reporter h }
  else
    throw (.notFound reporter.id)

/-- The earliest reporter that an account controls. -/
def findByAccount (store : IndexedStore) (account : Account) : Option Reporter :=
  store.reporters.values.find? fun reporter => reporter.account = account

instance : Store IndexedStore where
  configuration := fun store => .ok store.config store
  insertConfiguration config := fun store =>
    let (inserted, next) := store.insertConfiguration config
    .ok inserted next
  putConfiguration config := fun store => .ok () { store with config := some config }
  reporter id := fun store => .ok (store.reporters.get? id) store
  insertReporter reporter := fun store =>
    match store.insertReporter reporter with
    | .ok (inserted, next) => .ok inserted next
    | .error error => .error error store
  putReporter reporter := fun store =>
    match store.putReporter reporter with
    | .ok next => .ok () next
    | .error error => .error error store
  count := fun store => .ok store.reporters.size store
  page skip take := fun store => .ok (store.reporters.slice skip take) store
  findByAccount account := fun store => .ok (store.findByAccount account) store

end IndexedStore

end ReporterRegistry
