import ReporterRegistry.Proofs.Ledger.Transfers
import ReporterRegistry.Proofs.Outcomes

/-!
# Calls of a ledger

What anybody may do with a ledger, as data: to credit a holder, to allow a spender to
pull, and to move an amount with or without such an allowance. A call is answered
(`LedgerCall.run`) and leaves a ledger either way (`LedgerCall.apply`).
-/

namespace ReporterRegistry

/-- What anybody may do with a ledger. -/
inductive LedgerCall where
  | mint (token holder : Account) (amount : Amount)
  | approve (token owner spender : Account) (amount : Amount)
  | transfer (token payer payee : Account) (amount : Amount)
  | transferFrom (token spender payer payee : Account) (amount : Amount)
  deriving DecidableEq, Repr

namespace LedgerCall

/-- The ledger after a call. -/
def apply (ledger : Ledger) : LedgerCall → Ledger
  | .mint token holder amount => ledger.mint token holder amount
  | .approve token owner spender amount =>
    left (TokenLedger.approve token owner spender amount) ledger
  | .transfer token payer payee amount =>
    left (TokenLedger.transfer token payer payee amount) ledger
  | .transferFrom token spender payer payee amount =>
    left (TokenLedger.transferFrom token spender payer payee amount) ledger

/-- The answer to a call. A credit is always taken. -/
def run : LedgerCall → EStateM TokenError Ledger Unit
  | .mint token holder amount => fun ledger => .ok () (ledger.mint token holder amount)
  | .approve token owner spender amount => TokenLedger.approve token owner spender amount
  | .transfer token payer payee amount => TokenLedger.transfer token payer payee amount
  | .transferFrom token spender payer payee amount =>
    TokenLedger.transferFrom token spender payer payee amount

/-- Whose balance goes down. -/
def payer? : LedgerCall → Option Account
  | .mint _ _ _ => none
  | .approve _ _ _ _ => none
  | .transfer _ payer _ _ => some payer
  | .transferFrom _ _ payer _ _ => some payer

end LedgerCall

/-- The ledger after some calls. -/
def Ledger.run (ledger : Ledger) (calls : List LedgerCall) : Ledger :=
  calls.foldl LedgerCall.apply ledger

theorem Ledger.run_cons (ledger : Ledger) (call : LedgerCall) (calls : List LedgerCall) :
    ledger.run (call :: calls) = (call.apply ledger).run calls := rfl

end ReporterRegistry

