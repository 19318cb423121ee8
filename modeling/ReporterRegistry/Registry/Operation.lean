import ReporterRegistry.Registry.Reporters

/-!
# Operations as data

The eight operations that change a registry, with their arguments, so that a
history is a list of them.
-/

namespace ReporterRegistry

/-- An operation that changes a registry. -/
inductive Operation where
  | setAuthority (caller authority : Account)
  | updateStakeTerms (caller : Account) (terms : StakeTerms)
  | updateRewardTerms (caller : Account) (terms : RewardTerms)
  | createReporter (caller : Account) (id : ReporterId) (account : Account) (role : Role)
      (name url : String)
  | updateReporter (caller : Account) (id : ReporterId) (account : Account) (role : Role)
      (name url : String)
  | activateReporter (caller : Account) (id : ReporterId)
  | deactivateReporter (caller : Account) (id : ReporterId)
  | unstakeReporter (caller : Account) (id : ReporterId)
  deriving DecidableEq, Repr

/-- What an operation answers. -/
inductive Outcome where
  | done
  | reporter (reporter : Reporter)
  | amount (amount : Amount)
  deriving DecidableEq, Repr

/-- Run an operation. -/
def Operation.run {σ τ : Type} [Store σ] [TokenLedger τ] (settings : Settings) :
    Operation → Registry.Action σ τ Outcome
  | .setAuthority caller authority => do
    Registry.setAuthority settings caller authority
    return .done
  | .updateStakeTerms caller terms => do
    Registry.updateStakeTerms settings caller terms
    return .done
  | .updateRewardTerms caller terms => do
    Registry.updateRewardTerms settings caller terms
    return .done
  | .createReporter caller id account role name url =>
    .reporter <$> Registry.createReporter settings caller id account role name url
  | .updateReporter caller id account role name url =>
    .reporter <$> Registry.updateReporter settings caller id account role name url
  | .activateReporter caller id => .reporter <$> Registry.activateReporter settings caller id
  | .deactivateReporter caller id => .reporter <$> Registry.deactivateReporter caller id
  | .unstakeReporter caller id => .amount <$> Registry.unstakeReporter settings caller id

end ReporterRegistry
