import ReporterRegistry.Configuration

/-!
# Stores

Where a registry keeps its configuration and its reporters. The configuration is
written once and then replaced as a whole. Reporters are inserted once, changed
in place, never removed, and listed in the order of their creation.

`Store` is the interface. An operation answers or fails with a `StoreError`, and
leaves the store in a new state either way.
-/

namespace ReporterRegistry

/-- Why stored data is not acceptable. -/
inductive DataFault where
  /-- The id cell of a row has the wrong length. -/
  | idLength
  /-- A format name, or the octets of an account, are not acceptable. -/
  | input (id : ReporterId) (error : InputError)
  | unknownRole (id : ReporterId) (code : Nat)
  | unknownStatus (id : ReporterId) (code : Nat)
  /-- The stake cell of a row has the wrong length. -/
  | stakeLength (id : ReporterId)
  | negativeTime (id : ReporterId)
  /-- A time is past what stores hold. -/
  | timeOutOfRange (id : ReporterId) (time : Seconds)
  /-- The storage refuses to work. -/
  | rejected
  deriving DecidableEq, Repr

/-- The fault in words. -/
def DataFault.message : DataFault → String
  | .idLength => "reporter_id is not 16 bytes"
  | .input id error => s!"reporter {id.display}: {error.message}"
  | .unknownRole id code => s!"reporter {id.display}: unknown role {code}"
  | .unknownStatus id code => s!"reporter {id.display}: unknown status {code}"
  | .stakeLength id => s!"reporter {id.display}: stake is not 16 bytes"
  | .negativeTime id => s!"reporter {id.display}: negative unlock timestamp"
  | .timeOutOfRange id time =>
    s!"reporter {id.display}: unlock timestamp {time.toNat} out of range"
  | .rejected => "write rejected"

/-- Why a store refuses an operation. -/
inductive StoreError where
  /-- The database engine refuses: a cell of the wrong kind, a missing table. -/
  | database
  /-- The stored configuration cannot be read. -/
  | serialization
  /-- There is no such reporter to change. -/
  | notFound (id : ReporterId)
  | invalidData (fault : DataFault)
  /-- The database was written by a later version. -/
  | migration (found supported : Nat)
  deriving DecidableEq, Repr

/-- The error in words. What the database engine and the blob reader say is
their own affair and not part of the contract. -/
def StoreError.message? : StoreError → Option String
  | .database | .serialization => none
  | .notFound id => some s!"not found: reporter {id.display}"
  | .invalidData fault => some s!"invalid data: {fault.message}"
  | .migration found supported =>
    some s!"migration error: database schema version {found} is newer than supported version {supported}"

/-- What a registry needs of its storage. -/
class Store (σ : Type) where
  /-- The configuration, if there is one. -/
  configuration : EStateM StoreError σ (Option Configuration)
  /-- Write the first configuration. Says whether it did; if there is one
  already, nothing is written. -/
  insertConfiguration (config : Configuration) : EStateM StoreError σ Bool
  /-- Replace the configuration. -/
  putConfiguration (config : Configuration) : EStateM StoreError σ Unit
  reporter (id : ReporterId) : EStateM StoreError σ (Option Reporter)
  /-- Write a new reporter. Says whether it did; if the id is taken, nothing is
  written. -/
  insertReporter (reporter : Reporter) : EStateM StoreError σ Bool
  /-- Replace a reporter that exists. -/
  putReporter (reporter : Reporter) : EStateM StoreError σ Unit
  /-- How many reporters were ever created. -/
  count : EStateM StoreError σ Nat
  /-- Reporters in creation order, at most `take` of them after `skip` others. -/
  page (skip take : Nat) : EStateM StoreError σ (List Reporter)
  /-- The earliest reporter that an account controls. -/
  findByAccount (account : Account) : EStateM StoreError σ (Option Reporter)

/-- Refuse a reporter whose unlock time no store can hold. Every store checks
this before it writes. -/
def Reporter.checkUnlockTime (reporter : Reporter) : Except StoreError Unit :=
  if maxSeconds < reporter.unlockTime then
    .error (.invalidData (.timeOutOfRange reporter.id reporter.unlockTime))
  else .ok ()

end ReporterRegistry
