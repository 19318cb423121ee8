import ReporterRegistry.Store.Database

/-!
# Migrations

A database records the versions of its layout that were applied. Opening it
brings it to the current version: an empty database gets its tables, a current
one is left alone, and one of a later version is refused. What the missing versions
add and the record of them make one transaction: they happen together or not at all.
-/

namespace ReporterRegistry

namespace Database

/-! ### Recorded versions -/

/-- The version of the layout that this library reads and writes. -/
def currentVersion : Nat := 1

/-- The recorded versions; none if the table is missing. -/
def recorded (db : Database) : List Int := db.versions.getD []

/-- The database with a table of versions; if there was none, nothing is recorded. -/
def withVersions (db : Database) : Database := { db with versions := some db.recorded }

/-- Record a version. Each is recorded at most once. -/
def record (version : Int) : EStateM StoreError Database Unit := fun db =>
  if version ∈ db.recorded then .error .database db
  else .ok () { db with versions := some (db.recorded ++ [version]) }

/-- Forget the recorded versions and record others in their place, up to the first
that cannot be recorded. -/
def setVersions (versions : List Int) : EStateM StoreError Database Unit := do
  modify fun db => { db with versions := some [] }
  versions.forM record

/-- The highest of some versions; zero if there are none. -/
def highest : List Int → Int
  | [] => 0
  | version :: rest => rest.foldl max version

/-- The highest recorded version, as a number of 32 bits. -/
def version? (db : Database) : Option Nat :=
  let version := highest db.recorded
  if 0 ≤ version ∧ version < UInt32.size then some version.toNat else none

/-! ### The layout -/

/-- Create the table of the configuration. It may not be there yet. -/
def createConfiguration : EStateM StoreError Database Unit := fun db =>
  match db.config with
  | none => .ok () { db with config := some none }
  | some _ => .error .database db

/-- Create the table of reporters. It may not be there yet. -/
def createReporters : EStateM StoreError Database Unit := fun db =>
  match db.reporters with
  | none => .ok () { db with reporters := some [] }
  | some _ => .error .database db

/-- Create the tables of the first version, one after the other. -/
def createTables : EStateM StoreError Database Unit := do
  createConfiguration
  createReporters

/-- What each version of the layout adds to the one before it, from the first on. -/
def layouts : List (EStateM StoreError Database Unit) := [createTables]

/-- Add what a version adds, and record it. -/
def applyLayout : EStateM StoreError Database Unit × Nat → EStateM StoreError Database Unit
  | (add, version) => do
    add
    record version

/-- Apply all versions after the given one. -/
def upgrade (version : Nat) : EStateM StoreError Database Unit :=
  ((layouts.drop version).zipIdx (version + 1)).forM applyLayout

/-! ### Opening -/

/-- Do all of it or nothing: a failure takes back what was done before it. -/
def transaction {α : Type} (action : EStateM StoreError Database α) :
    EStateM StoreError Database α := fun db =>
  match action db with
  | .ok a next => .ok a next
  | .error error _ => .error error db

/-- Bring a database to the current version. The table of versions is there
afterwards in any case. -/
def migrate : EStateM StoreError Database Unit := do
  modify withVersions
  match (← get).version? with
  | none => throw .database
  | some version =>
    -- A later version may mean anything by its rows, so nothing is touched.
    if currentVersion < version then throw (.migration version currentVersion)
    if version < currentVersion then transaction (upgrade version)

/-- A new database, brought to the current version. -/
def fresh : Database :=
  match migrate empty with
  | .ok () db => db
  | .error _ db => db

end Database

end ReporterRegistry
