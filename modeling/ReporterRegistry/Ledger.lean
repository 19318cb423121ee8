import ReporterRegistry.OrderedMap
import ReporterRegistry.Reporter

/-!
# Token ledgers

Who holds how much of which token, and how much of it others may pull. A
registry works over any `TokenLedger`; `Ledger` is the one that keeps its
balances in two maps:

* `Ledger.move` is the only way a balance goes down: it refuses to overdraw the
  payer and to overflow the payee, and leaves the ledger alone if both are the
  same; and
* `Ledger.transferFrom` also takes the amount off the puller's allowance.
-/

namespace ReporterRegistry

/-- Why a transfer did not take place. -/
inductive TransferFault where
  /-- The payee's balance would leave its range. -/
  | balanceOverflow
  /-- The ledger does not answer. -/
  | offline
  deriving DecidableEq, Repr

/-- The fault in words. -/
def TransferFault.message : TransferFault → String
  | .balanceOverflow => "balance overflow"
  | .offline => "token offline"

/-- Why a ledger refuses an operation. -/
inductive TokenError where
  | insufficientAllowance (required available : Amount)
  | insufficientBalance (required available : Amount)
  | transferFailed (fault : TransferFault)
  deriving DecidableEq, Repr

/-- The error in words. -/
def TokenError.message : TokenError → String
  | .insufficientAllowance required available =>
    s!"insufficient allowance: required {required.toNat}, available {available.toNat}"
  | .insufficientBalance required available =>
    s!"insufficient balance: required {required.toNat}, available {available.toNat}"
  | .transferFailed fault => s!"transfer failed: {fault.message}"

/-- What a registry needs of a ledger of tokens. An operation answers or fails,
and leaves the ledger in a new state either way. -/
class TokenLedger (τ : Type) where
  balance (token holder : Account) : EStateM TokenError τ Amount
  allowance (token owner spender : Account) : EStateM TokenError τ Amount
  /-- Move an amount from one holder to another. -/
  transfer (token payer payee : Account) (amount : Amount) : EStateM TokenError τ Unit
  /-- Move an amount on behalf of a spender, at the cost of its allowance. -/
  transferFrom (token spender payer payee : Account) (amount : Amount) :
    EStateM TokenError τ Unit
  /-- Set how much a spender may pull from an owner. -/
  approve (token owner spender : Account) (amount : Amount) : EStateM TokenError τ Unit

/-- Balances by token and holder, allowances by token, owner and spender. What
is not listed is zero. -/
structure Ledger where
  balances : OrderedMap (Account × Account) Amount
  allowances : OrderedMap (Account × Account × Account) Amount
  deriving DecidableEq, Repr

namespace Ledger

/-- The ledger that lists nothing. -/
def empty : Ledger := ⟨.empty, .empty⟩

/-- What a holder has of a token. -/
def balance (ledger : Ledger) (token holder : Account) : Amount :=
  (ledger.balances.get? (token, holder)).getD 0

/-- What a spender may pull of an owner's holding of a token. -/
def allowance (ledger : Ledger) (token owner spender : Account) : Amount :=
  (ledger.allowances.get? (token, owner, spender)).getD 0

/-- The ledger with one balance changed. -/
def withBalance (ledger : Ledger) (token holder : Account) (amount : Amount) : Ledger :=
  { ledger with balances := ledger.balances.insert (token, holder) amount }

/-- The ledger with one allowance changed. -/
def withAllowance (ledger : Ledger) (token owner spender : Account) (amount : Amount) : Ledger :=
  { ledger with allowances := ledger.allowances.insert (token, owner, spender) amount }

/-- The sum of two amounts, if it is in range. -/
def sum? (a b : Amount) : Option Amount :=
  if a.uaddOverflow b then none else some (a + b)

/-- Credit an amount out of nothing. The balance stops at its greatest value. -/
def mint (ledger : Ledger) (token holder : Account) (amount : Amount) : Ledger :=
  ledger.withBalance token holder
    ((sum? (ledger.balance token holder) amount).getD (BitVec.allOnes 128))

/-- Move an amount from one holder to another. A move from a holder to itself
needs the balance, and changes nothing. -/
def move (ledger : Ledger) (token payer payee : Account) (amount : Amount) :
    Except TokenError Ledger :=
  let available := ledger.balance token payer
  if available < amount then .error (.insufficientBalance amount available)
  -- A credit computed before the debit would pay a holder for paying itself.
  else if payer = payee then .ok ledger
  else
    match sum? (ledger.balance token payee) amount with
    | none => .error (.transferFailed .balanceOverflow)
    | some credited =>
      .ok ((ledger.withBalance token payer (available - amount)).withBalance token payee credited)

/-- Move an amount at the cost of the spender's allowance, which is checked
before the balance. -/
def transferFrom (ledger : Ledger) (token spender payer payee : Account) (amount : Amount) :
    Except TokenError Ledger :=
  let allowed := ledger.allowance token payer spender
  if allowed < amount then .error (.insufficientAllowance amount allowed)
  else
    match ledger.move token payer payee amount with
    | .error error => .error error
    | .ok moved => .ok (moved.withAllowance token payer spender (allowed - amount))

/-- Run a change that either gives the next ledger or leaves it as it was. -/
def commit (change : Ledger → Except TokenError Ledger) : EStateM TokenError Ledger Unit :=
  fun ledger =>
    match change ledger with
    | .ok next => .ok () next
    | .error error => .error error ledger

instance : TokenLedger Ledger where
  balance token holder := fun ledger => .ok (ledger.balance token holder) ledger
  allowance token owner spender := fun ledger => .ok (ledger.allowance token owner spender) ledger
  transfer token payer payee amount := commit fun ledger => ledger.move token payer payee amount
  transferFrom token spender payer payee amount :=
    commit fun ledger => ledger.transferFrom token spender payer payee amount
  approve token owner spender amount :=
    commit fun ledger => .ok (ledger.withAllowance token owner spender amount)

@[simp] theorem balance_withBalance_self (ledger : Ledger) (token holder : Account)
    (amount : Amount) : (ledger.withBalance token holder amount).balance token holder = amount := by
  simp [balance, withBalance]

/-- The balances of other holders, and of other tokens, stay. -/
theorem balance_withBalance_of_ne (ledger : Ledger) {token holder token' holder' : Account}
    (amount : Amount) (h : (token', holder') ≠ (token, holder)) :
    (ledger.withBalance token holder amount).balance token' holder'
      = ledger.balance token' holder' := by
  simp [balance, withBalance, OrderedMap.get?_insert_of_ne _ _ h]

/-- Balances and allowances are kept apart. -/
@[simp] theorem balance_withAllowance (ledger : Ledger) (token owner spender : Account)
    (amount : Amount) (token' holder : Account) :
    (ledger.withAllowance token owner spender amount).balance token' holder
      = ledger.balance token' holder := rfl

@[simp] theorem allowance_withBalance (ledger : Ledger) (token holder : Account) (amount : Amount)
    (token' owner spender : Account) :
    (ledger.withBalance token holder amount).allowance token' owner spender
      = ledger.allowance token' owner spender := rfl

@[simp] theorem allowance_withAllowance_self (ledger : Ledger) (token owner spender : Account)
    (amount : Amount) :
    (ledger.withAllowance token owner spender amount).allowance token owner spender = amount := by
  simp [allowance, withAllowance]

/-- Every other owner and spender, and every other token, has the allowance it had. -/
theorem allowance_withAllowance_of_ne (ledger : Ledger)
    {token owner spender token' owner' spender' : Account} (amount : Amount)
    (h : (token', owner', spender') ≠ (token, owner, spender)) :
    (ledger.withAllowance token owner spender amount).allowance token' owner' spender'
      = ledger.allowance token' owner' spender' := by
  simp [allowance, withAllowance, OrderedMap.get?_insert_of_ne _ _ h]

end Ledger

end ReporterRegistry
