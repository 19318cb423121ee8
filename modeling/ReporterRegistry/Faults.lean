import ReporterRegistry.Ledger
import ReporterRegistry.Store.Basic

/-!
# Planned faults

A collaborator that fails on demand. For each of its methods, a plan says of the
coming calls which are to fail; a call takes the first entry off its plan. A call
that is to fail does not reach the collaborator, and where the plan has run out
nothing fails.
-/

namespace ReporterRegistry

/-- A collaborator with a plan for each of its methods. -/
structure Faulty (κ σ : Type) where
  inner : σ
  plan : κ → List Bool

namespace Faulty

variable {κ σ ε α : Type} [DecidableEq κ]

/-- A collaborator that does not fail on demand. -/
def reliable (inner : σ) : Faulty κ σ := ⟨inner, fun _ => []⟩

/-- Set the plan of a method, in place of an earlier one. -/
def setPlan (faulty : Faulty κ σ) (method : κ) (plan : List Bool) : Faulty κ σ :=
  { faulty with plan := fun other => if other = method then plan else faulty.plan other }

/-- Call a method, or fail if the plan says so. -/
def call (method : κ) (fault : ε) (operation : EStateM ε σ α) : EStateM ε (Faulty κ σ) α :=
  fun faulty =>
    -- The plan is consumed by the call itself, whether or not it fails.
    let next := faulty.setPlan method (faulty.plan method).tail
    if (faulty.plan method).head? = some true then .error fault next
    else
      match operation faulty.inner with
      | .ok a inner => .ok a { next with inner := inner }
      | .error error inner => .error error { next with inner := inner }

end Faulty

/-! ### Stores -/

/-- The methods of a store. -/
inductive StoreMethod where
  | configuration
  | insertConfiguration
  | putConfiguration
  | reporter
  | insertReporter
  | putReporter
  | count
  | page
  | findByAccount
  deriving DecidableEq, Repr

/-- What a call of a store fails with on demand. -/
def StoreMethod.fault : StoreError := .invalidData .rejected

instance {σ : Type} [Store σ] : Store (Faulty StoreMethod σ) where
  configuration := Faulty.call .configuration StoreMethod.fault Store.configuration
  insertConfiguration config :=
    Faulty.call .insertConfiguration StoreMethod.fault (Store.insertConfiguration config)
  putConfiguration config :=
    Faulty.call .putConfiguration StoreMethod.fault (Store.putConfiguration config)
  reporter id := Faulty.call .reporter StoreMethod.fault (Store.reporter id)
  insertReporter reporter :=
    Faulty.call .insertReporter StoreMethod.fault (Store.insertReporter reporter)
  putReporter reporter := Faulty.call .putReporter StoreMethod.fault (Store.putReporter reporter)
  count := Faulty.call .count StoreMethod.fault Store.count
  page skip take := Faulty.call .page StoreMethod.fault (Store.page skip take)
  findByAccount account :=
    Faulty.call .findByAccount StoreMethod.fault (Store.findByAccount account)

/-! ### Ledgers -/

/-- The methods of a ledger. -/
inductive LedgerMethod where
  | balance
  | allowance
  | transfer
  | transferFrom
  | approve
  deriving DecidableEq, Repr

/-- What a call of a ledger fails with on demand. -/
def LedgerMethod.fault : TokenError := .transferFailed .offline

instance {τ : Type} [TokenLedger τ] : TokenLedger (Faulty LedgerMethod τ) where
  balance token holder :=
    Faulty.call .balance LedgerMethod.fault (TokenLedger.balance token holder)
  allowance token owner spender :=
    Faulty.call .allowance LedgerMethod.fault (TokenLedger.allowance token owner spender)
  transfer token payer payee amount :=
    Faulty.call .transfer LedgerMethod.fault (TokenLedger.transfer token payer payee amount)
  transferFrom token spender payer payee amount :=
    Faulty.call .transferFrom LedgerMethod.fault
      (TokenLedger.transferFrom token spender payer payee amount)
  approve token owner spender amount :=
    Faulty.call .approve LedgerMethod.fault (TokenLedger.approve token owner spender amount)

end ReporterRegistry
