import ReporterRegistry.Account
import ReporterRegistry.ReporterId

/-!
# Reporters

Registered participants: who controls them, what role they have, and the state
of their stake. A stake goes from nothing (`inactive`) to locked (`active`) to
waiting for its release (`unstaking`) and back to nothing.
-/

namespace ReporterRegistry

/-- An amount of tokens. -/
abbrev Amount := BitVec 128

/-- A point in time, or a span of it, in seconds. -/
abbrev Seconds := BitVec 64

/-- The greatest point in time or span that a registry keeps: stores hold signed
64-bit numbers. -/
def maxSeconds : Seconds := 0x7fffffffffffffff#64

/-- What a reporter may do, and which stake it has to lock. -/
inductive Role where
  | validator
  | tracer
  | publisher
  | authority
  deriving DecidableEq, Repr

namespace Role

/-- All roles in the order of their codes. -/
def all : List Role := [.validator, .tracer, .publisher, .authority]

/-- The stored code. -/
def code : Role → Nat
  | .validator => 0
  | .tracer => 1
  | .publisher => 2
  | .authority => 3

/-- The name, as shown and written. -/
def name : Role → String
  | .validator => "validator"
  | .tracer => "tracer"
  | .publisher => "publisher"
  | .authority => "authority"

/-- The role of a code. -/
def ofCode? (n : Nat) : Option Role := all.find? fun role => role.code = n

/-- The role of a name. -/
def ofName? (text : String) : Option Role := all.find? fun role => role.name = text

/-- The role of a name, or an error that shows the name. -/
def parse (text : String) : Except InputError Role :=
  match ofName? text with
  | some role => .ok role
  | none => .error (.invalidValue .role text)

@[simp] theorem ofCode?_code (role : Role) : ofCode? role.code = some role := by
  cases role <;> rfl

@[simp] theorem ofName?_name (role : Role) : ofName? role.name = some role := by
  cases role <;> decide

/-- A code that is read is the code of what it is read as. -/
theorem code_of_ofCode? {n : Nat} {role : Role} (h : ofCode? n = some role) : role.code = n := by
  simpa using List.find?_some h

end Role

/-- Where a reporter's stake is in its course. -/
inductive Status where
  | inactive
  | active
  | unstaking
  deriving DecidableEq, Repr

namespace Status

/-- All states in the order of their codes. -/
def all : List Status := [.inactive, .active, .unstaking]

/-- The stored code. -/
def code : Status → Nat
  | .inactive => 0
  | .active => 1
  | .unstaking => 2

/-- The name, as shown and written. -/
def name : Status → String
  | .inactive => "inactive"
  | .active => "active"
  | .unstaking => "unstaking"

/-- The state of a code. -/
def ofCode? (n : Nat) : Option Status := all.find? fun status => status.code = n

/-- The state of a name. -/
def ofName? (text : String) : Option Status := all.find? fun status => status.name = text

/-- The state of a name, or an error that shows the name. -/
def parse (text : String) : Except InputError Status :=
  match ofName? text with
  | some status => .ok status
  | none => .error (.invalidValue .status text)

@[simp] theorem ofCode?_code (status : Status) : ofCode? status.code = some status := by
  cases status <;> rfl

@[simp] theorem ofName?_name (status : Status) : ofName? status.name = some status := by
  cases status <;> decide

/-- A code that is read is the code of what it is read as. -/
theorem code_of_ofCode? {n : Nat} {status : Status} (h : ofCode? n = some status) :
    status.code = n := by
  simpa using List.find?_some h

end Status

/-- A registered reporter. -/
structure Reporter where
  /-- Fixed once created. -/
  id : ReporterId
  /-- The account that controls the reporter. -/
  account : Account
  name : String
  url : String
  role : Role
  status : Status
  /-- Tokens locked now. -/
  stake : Amount
  /-- The token the stake is locked in; the zero address while nothing is. -/
  stakeToken : Account
  /-- When the stake may be withdrawn; zero unless it waits for that. -/
  unlockTime : Seconds
  deriving DecidableEq, Repr

namespace Reporter

/-- A new reporter: inactive, with nothing staked. -/
def new (id : ReporterId) (account : Account) (role : Role) (name url : String) : Reporter where
  id := id
  account := account
  name := name
  url := url
  role := role
  status := .inactive
  stake := 0
  stakeToken := .zero account.format
  unlockTime := 0

/-- Whether the reporter's stake is locked for work. -/
def isActive (reporter : Reporter) : Bool := reporter.status = .active

/-- The reporter with nothing staked. -/
def withoutStake (reporter : Reporter) : Reporter :=
  { reporter with
    status := .inactive
    stake := 0
    stakeToken := .zero reporter.account.format
    unlockTime := 0 }

end Reporter

end ReporterRegistry
