import ReporterRegistry.OrderedMap
import ReporterRegistry.Store.Basic

/-!
# The store in memory

The configuration and a map of reporters in creation order. What it is given, it
keeps as it is; it never fails to read.
-/

namespace ReporterRegistry

/-- A store that lives as long as the program. -/
structure MemoryStore where
  config : Option Configuration
  reporters : OrderedMap ReporterId Reporter
  deriving DecidableEq, Repr

namespace MemoryStore

/-- The store that holds nothing. -/
def empty : MemoryStore := ⟨none, .empty⟩

/-- Write the first configuration. -/
def insertConfiguration (store : MemoryStore) (config : Configuration) : Bool × MemoryStore :=
  match store.config with
  | some _ => (false, store)
  | none => (true, { store with config := some config })

/-- Write a new reporter. -/
def insertReporter (store : MemoryStore) (reporter : Reporter) :
    Except StoreError (Bool × MemoryStore) :=
  match reporter.checkUnlockTime with
  | .error error => .error error
  | .ok () =>
    match store.reporters.get? reporter.id with
    | some _ => .ok (false, store)
    | none => .ok (true, { store with reporters := store.reporters.insert reporter.id reporter })

/-- Replace a reporter that exists. -/
def putReporter (store : MemoryStore) (reporter : Reporter) : Except StoreError MemoryStore :=
  match reporter.checkUnlockTime with
  | .error error => .error error
  | .ok () =>
    match store.reporters.get? reporter.id with
    | some _ => .ok { store with reporters := store.reporters.insert reporter.id reporter }
    | none => .error (.notFound reporter.id)

/-- Reporters in creation order, at most `take` of them after `skip` others. -/
def page (store : MemoryStore) (skip take : Nat) : List Reporter :=
  (store.reporters.values.drop skip).take take

/-- The earliest reporter that an account controls. -/
def findByAccount (store : MemoryStore) (account : Account) : Option Reporter :=
  store.reporters.values.find? fun reporter => reporter.account = account

instance : Store MemoryStore where
  configuration := fun store => .ok store.config store
  insertConfiguration config := fun store =>
    let (inserted, next) := store.insertConfiguration config
    .ok inserted next
  putConfiguration config := fun store => .ok () { store with config := some config }
  reporter id := fun store => .ok (store.reporters.get? id) store
  insertReporter reporter := fun store =>
    match store.insertReporter reporter with
    | .ok (inserted, next) => .ok inserted next
    | .error error => .error error store
  putReporter reporter := fun store =>
    match store.putReporter reporter with
    | .ok next => .ok () next
    | .error error => .error error store
  count := fun store => .ok store.reporters.size store
  page skip take := fun store => .ok (store.page skip take) store
  findByAccount account := fun store => .ok (store.findByAccount account) store

end MemoryStore

end ReporterRegistry
