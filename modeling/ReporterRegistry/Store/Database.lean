import ReporterRegistry.Cbor.Forms
import ReporterRegistry.Store.Row

/-!
# The store in a database

Three tables: the versions that were applied, a configuration of at most one
row, and the reporters in the order in which they were inserted. A table may be
missing, as databases come as they are; what needs it then fails.

Selected rows are first read by the kinds of their cells, all of them, and then
checked in order. So a damaged row is reported, never skipped.
-/

namespace ReporterRegistry

/-- The contents of a database. -/
structure Database where
  /-- The applied versions. -/
  versions : Option (List Int)
  /-- The configuration's row, if the table has it. -/
  config : Option (Option Cell)
  reporters : Option (List Row)
  deriving DecidableEq, Repr

namespace Database

/-- A database without tables. -/
def empty : Database := ⟨none, none, none⟩

/-! ### The configuration -/

/-- The configuration that a cell holds. -/
def readConfiguration : Cell → Except StoreError Configuration
  | .blob content =>
    match Configuration.ofBlob? content with
    | some config => .ok config
    | none => .error .serialization
  | _ => .error .database

/-- The configuration, if there is one. -/
def configuration (db : Database) : Except StoreError (Option Configuration) :=
  match db.config with
  | none => .error .database
  | some none => .ok none
  | some (some cell) => (readConfiguration cell).map some

/-- Write the first configuration. Says whether it did. -/
def insertConfiguration (db : Database) (config : Configuration) :
    Except StoreError (Bool × Database) :=
  match db.config with
  | none => .error .database
  | some (some _) => .ok (false, db)
  | some none => .ok (true, { db with config := some (some (.blob config.toBlob)) })

/-- Replace the configuration. -/
def putConfiguration (db : Database) (config : Configuration) : Except StoreError Database :=
  match db.config with
  | none => .error .database
  | some _ => .ok { db with config := some (some (.blob config.toBlob)) }

/-! ### Reporters -/

/-- The reporters of selected rows. -/
def readRows (rows : List Row) : Except StoreError (List Reporter) :=
  match rows.mapM Row.typed? with
  | none => .error .database
  | some typed => typed.mapM TypedRow.reporter

/-- The reporter of the first selected row. -/
def readFirst (rows : List Row) : Except StoreError (Option Reporter) :=
  (readRows (rows.take 1)).map List.head?

/-- The table of reporters. -/
def rows (db : Database) : Except StoreError (List Row) :=
  match db.reporters with
  | some rows => .ok rows
  | none => .error .database

/-- Whether a row is stored under an id. -/
def hasId (id : ReporterId) (row : Row) : Bool := row.id = .blob id.bytes

/-- Whether a row is stored under an account. -/
def hasAccount (account : Account) (row : Row) : Bool :=
  row.accountFormat = .text account.format.name && row.account = .blob account.bytes

/-- The reporter of an id. -/
def reporter (db : Database) (id : ReporterId) : Except StoreError (Option Reporter) := do
  readFirst ((← db.rows).filter (hasId id))

/-- Write a new reporter. Says whether it did. -/
def insertReporter (db : Database) (reporter : Reporter) :
    Except StoreError (Bool × Database) := do
  reporter.checkUnlockTime
  let rows ← db.rows
  if rows.any (hasId reporter.id) then return (false, db)
  else return (true, { db with reporters := some (rows ++ [.ofReporter reporter]) })

/-- Replace a reporter that exists. -/
def putReporter (db : Database) (reporter : Reporter) : Except StoreError Database := do
  reporter.checkUnlockTime
  let rows ← db.rows
  if rows.any (hasId reporter.id) then
    let next := rows.map fun row =>
      if hasId reporter.id row then Row.ofReporter reporter else row
    return { db with reporters := some next }
  else throw (.notFound reporter.id)

/-- How many reporters there are. -/
def count (db : Database) : Except StoreError Nat := db.rows.map List.length

/-- The most rows that can be skipped or taken: they are counted with signed
numbers of 64 bits. -/
def maxRows : Nat := Int64.maxValue.toNatClampNeg

/-- Reporters in creation order, at most `take` of them after `skip` others. -/
def page (db : Database) (skip take : Nat) : Except StoreError (List Reporter) := do
  readRows (((← db.rows).drop (min skip maxRows)).take (min take maxRows))

/-- The earliest reporter that an account controls. -/
def findByAccount (db : Database) (account : Account) : Except StoreError (Option Reporter) := do
  readFirst ((← db.rows).filter (hasAccount account))

/-! ### The store -/

/-- Answer from the database and leave it as it is. -/
def answer {α : Type} (query : Database → Except StoreError α) : EStateM StoreError Database α :=
  fun db =>
    match query db with
    | .ok a => .ok a db
    | .error error => .error error db

/-- Answer and change the database, or fail and leave it as it is. -/
def change {α : Type} (update : Database → Except StoreError (α × Database)) :
    EStateM StoreError Database α :=
  fun db =>
    match update db with
    | .ok (a, next) => .ok a next
    | .error error => .error error db

instance : Store Database where
  configuration := answer configuration
  insertConfiguration config := change fun db => db.insertConfiguration config
  putConfiguration config := change fun db => (db.putConfiguration config).map ((), ·)
  reporter id := answer fun db => db.reporter id
  insertReporter reporter := change fun db => db.insertReporter reporter
  putReporter reporter := change fun db => (db.putReporter reporter).map ((), ·)
  count := answer count
  page skip take := answer fun db => db.page skip take
  findByAccount account := answer fun db => db.findByAccount account

end Database

end ReporterRegistry
