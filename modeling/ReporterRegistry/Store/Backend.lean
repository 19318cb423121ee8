import ReporterRegistry.Store.Memory
import ReporterRegistry.Store.Migration

/-!
# The choice of a store

A store in memory or in a database, behind the one interface.
-/

namespace ReporterRegistry

/-- A store of either kind. -/
inductive Backend where
  | memory (store : MemoryStore)
  | database (db : Database)
  deriving DecidableEq, Repr

namespace Backend

/-- Run an operation on whichever store it is. -/
def run {α : Type} (onMemory : EStateM StoreError MemoryStore α)
    (onDatabase : EStateM StoreError Database α) : EStateM StoreError Backend α
  | .memory store =>
    match onMemory store with
    | .ok a next => .ok a (.memory next)
    | .error error next => .error error (.memory next)
  | .database db =>
    match onDatabase db with
    | .ok a next => .ok a (.database next)
    | .error error next => .error error (.database next)

instance : Store Backend where
  configuration := run Store.configuration Store.configuration
  insertConfiguration config :=
    run (Store.insertConfiguration config) (Store.insertConfiguration config)
  putConfiguration config := run (Store.putConfiguration config) (Store.putConfiguration config)
  reporter id := run (Store.reporter id) (Store.reporter id)
  insertReporter reporter := run (Store.insertReporter reporter) (Store.insertReporter reporter)
  putReporter reporter := run (Store.putReporter reporter) (Store.putReporter reporter)
  count := run Store.count Store.count
  page skip take := run (Store.page skip take) (Store.page skip take)
  findByAccount account := run (Store.findByAccount account) (Store.findByAccount account)

end Backend

end ReporterRegistry
