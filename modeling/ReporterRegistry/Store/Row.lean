import ReporterRegistry.Store.Basic
import ReporterRegistry.Store.Cell

/-!
# Rows

A reporter as eleven cells: numbers of 128 bits as 16 octets, most significant
first; accounts as the name of their format and their octets; role and status by
code; the unlock time as a signed integer.

Reading a row takes two steps. `Row.typed?` finds the values of the right kinds,
and `TypedRow.reporter` checks them one after the other; the first check that
fails is the error. Writing is `Row.ofReporter`.
-/

namespace ReporterRegistry

/-- The columns of a reporter. -/
inductive Column where
  | id
  | accountFormat
  | account
  | name
  | url
  | role
  | status
  | stake
  | tokenFormat
  | token
  | unlockTime
  deriving DecidableEq, Repr

namespace Column

/-- All columns in order. -/
def all : List Column :=
  [.id, .accountFormat, .account, .name, .url, .role, .status, .stake, .tokenFormat, .token,
    .unlockTime]

/-- The name of a column in the database. -/
def label : Column → String
  | .id => "reporter_id"
  | .accountFormat => "account_schema"
  | .account => "account"
  | .name => "name"
  | .url => "url"
  | .role => "role"
  | .status => "status"
  | .stake => "stake"
  | .tokenFormat => "stake_token_schema"
  | .token => "stake_token"
  | .unlockTime => "unlock_timestamp"

/-- The column of a name. -/
def ofName? (text : String) : Option Column := all.find? fun column => column.label = text

/-- What a column makes of the values it is given. -/
def affinity : Column → Affinity
  | .id | .account | .stake | .token => .blob
  | .accountFormat | .name | .url | .tokenFormat => .text
  | .role | .status | .unlockTime => .integer

end Column

/-- The cells of a reporter. -/
structure Row where
  id : Cell
  accountFormat : Cell
  account : Cell
  name : Cell
  url : Cell
  role : Cell
  status : Cell
  stake : Cell
  tokenFormat : Cell
  token : Cell
  unlockTime : Cell
  deriving DecidableEq, Repr

/-- The values of a row whose cells are of the right kinds. -/
structure TypedRow where
  id : Bytes
  accountFormat : String
  account : Bytes
  name : String
  url : String
  role : Nat
  status : Nat
  stake : Bytes
  tokenFormat : String
  token : Bytes
  unlockTime : Int
  deriving DecidableEq, Repr

namespace Row

/-- The cells that a reporter is written as. -/
def ofReporter (reporter : Reporter) : Row where
  id := .blob reporter.id.bytes
  accountFormat := .text reporter.account.format.name
  account := .blob reporter.account.bytes
  name := .text reporter.name
  url := .text reporter.url
  role := .integer reporter.role.code
  status := .integer reporter.status.code
  stake := .blob (Bytes.ofNatBE 16 reporter.stake.toNat)
  tokenFormat := .text reporter.stakeToken.format.name
  token := .blob reporter.stakeToken.bytes
  unlockTime := .integer reporter.unlockTime.toNat

/-- The values of the cells, if all are of the right kinds and the codes fit one
octet. -/
def typed? (row : Row) : Option TypedRow := do
  return {
    id := ← row.id.blob?
    accountFormat := ← row.accountFormat.text?
    account := ← row.account.blob?
    name := ← row.name.text?
    url := ← row.url.text?
    role := ← row.role.octet?
    status := ← row.status.octet?
    stake := ← row.stake.blob?
    tokenFormat := ← row.tokenFormat.text?
    token := ← row.token.blob?
    unlockTime := ← row.unlockTime.integer? }

/-- The cell of a column. -/
def get (row : Row) : Column → Cell
  | .id => row.id
  | .accountFormat => row.accountFormat
  | .account => row.account
  | .name => row.name
  | .url => row.url
  | .role => row.role
  | .status => row.status
  | .stake => row.stake
  | .tokenFormat => row.tokenFormat
  | .token => row.token
  | .unlockTime => row.unlockTime

/-- The row with one cell changed. -/
def set (row : Row) (column : Column) (cell : Cell) : Row :=
  match column with
  | .id => { row with id := cell }
  | .accountFormat => { row with accountFormat := cell }
  | .account => { row with account := cell }
  | .name => { row with name := cell }
  | .url => { row with url := cell }
  | .role => { row with role := cell }
  | .status => { row with status := cell }
  | .stake => { row with stake := cell }
  | .tokenFormat => { row with tokenFormat := cell }
  | .token => { row with token := cell }
  | .unlockTime => { row with unlockTime := cell }

end Row

namespace TypedRow

/-- The account of a format name and octets, in the row of a reporter. -/
def readAccount (id : ReporterId) (format : String) (bs : Bytes) : Except StoreError Account :=
  match AddressFormat.parse format with
  | .error error => .error (.invalidData (.input id error))
  | .ok format =>
    match Account.ofBytes format bs with
    | .error error => .error (.invalidData (.input id error))
    | .ok account => .ok account

/-- A value, or the fault of its absence. -/
def orFault {α : Type} (value? : Option α) (fault : DataFault) : Except StoreError α :=
  match value? with
  | some value => .ok value
  | none => .error (.invalidData fault)

/-- The amount of exactly 16 octets. -/
def amount? (bs : Bytes) : Option Amount :=
  if bs.length = 16 then some (BitVec.ofNat 128 bs.toNat) else none

/-- The time of a signed integer that is not negative. -/
def time? (n : Int) : Option Seconds :=
  if 0 ≤ n then some (BitVec.ofNat 64 n.toNat) else none

/-- The reporter of a row. -/
def reporter (row : TypedRow) : Except StoreError Reporter := do
  let id ← orFault (ReporterId.ofBytes? row.id) .idLength
  let account ← readAccount id row.accountFormat row.account
  let stakeToken ← readAccount id row.tokenFormat row.token
  let role ← orFault (Role.ofCode? row.role) (.unknownRole id row.role)
  let status ← orFault (Status.ofCode? row.status) (.unknownStatus id row.status)
  let stake ← orFault (amount? row.stake) (.stakeLength id)
  let unlockTime ← orFault (time? row.unlockTime) (.negativeTime id)
  return ⟨id, account, row.name, row.url, role, status, stake, stakeToken, unlockTime⟩

end TypedRow

end ReporterRegistry
