import ReporterRegistry.Proofs.Ledger.Calls
import ReporterRegistry.Registry.Operation

/-!
# Registries on ledgers that are alike

A registry uses its ledger through `TokenLedger` only, and of that only the two
transfers. So if two ledgers are related and their transfers keep them related, giving
the same answers, then a registry on the one does what it does on the other
(`Operation.agree`). The ledgers may be of different kinds: one may keep books that the
other does not.

`Agree` follows the code: it holds of the steps of a computation, and is passed on by
sequences, refusals and recovery from failures.
-/

namespace ReporterRegistry

namespace Registry

/-! ### Computations that agree -/

section

variable {ω ω' ε ε' α β : Type}

/-- The same answer or the same error, and related states. -/
inductive SameResult (R : ω → ω' → Prop) : EStateM.Result ε ω α → EStateM.Result ε ω' α → Prop
  | ok (a : α) {next : ω} {next' : ω'} (h : R next next') : SameResult R (.ok a next) (.ok a next')
  | error (error : ε) {next : ω} {next' : ω'} (h : R next next') :
      SameResult R (.error error next) (.error error next')

/-- From related states, two computations have the same result. -/
def Agree (R : ω → ω' → Prop) (action : EStateM ε ω α) (action' : EStateM ε ω' α) : Prop :=
  ∀ state state', R state state' → SameResult R (action state) (action' state')

namespace Agree

variable {R : ω → ω' → Prop}

theorem pure (a : α) :
    Agree R (Pure.pure a : EStateM ε ω α) (Pure.pure a : EStateM ε ω' α) :=
  fun _ _ h => .ok a h

theorem throw (error : ε) :
    Agree R (MonadExcept.throw error : EStateM ε ω α) (MonadExcept.throw error : EStateM ε ω' α) :=
  fun _ _ h => .error error h

/-- A check looks at no state, so that it ends alike from any two. -/
theorem require (check : Except ε Unit) :
    Agree R (Registry.require check : EStateM ε ω Unit) (Registry.require check) := by
  intro state state' h
  cases check with
  | ok u => exact .ok () h
  | error error => exact .error error h

/-- What is done next may depend on the answer, but not on which of the two gave it. -/
theorem bind {action : EStateM ε ω α} {action' : EStateM ε ω' α} {rest : α → EStateM ε ω β}
    {rest' : α → EStateM ε ω' β} (h : Agree R action action')
    (hrest : ∀ a, Agree R (rest a) (rest' a)) :
    Agree R (action >>= rest) (action' >>= rest') := by
  intro state state' hstate
  have hresult := h state state' hstate
  simp only [Bind.bind, EStateM.bind]
  generalize action state = result at hresult ⊢
  generalize action' state' = result' at hresult ⊢
  cases hresult with
  | ok a hnext => exact hrest a _ _ hnext
  | error error hnext => exact .error error hnext

theorem map {action : EStateM ε ω α} {action' : EStateM ε ω' α} (f : α → β)
    (h : Agree R action action') : Agree R (f <$> action) (f <$> action') := by
  intro state state' hstate
  have hresult := h state state' hstate
  simp only [Functor.map, EStateM.map]
  generalize action state = result at hresult ⊢
  generalize action' state' = result' at hresult ⊢
  cases hresult with
  | ok a hnext => exact .ok (f a) hnext
  | error error hnext => exact .error error hnext

/-- A refusal that does not apply lets the rest go on. -/
theorem throwIf {c : Prop} [Decidable c] {error : ε} {skipped : Unit → EStateM ε ω β}
    {skipped' : Unit → EStateM ε ω' β} {rest : EStateM ε ω β} {rest' : EStateM ε ω' β}
    (h : Agree R rest rest') :
    Agree R (if c then MonadExcept.throw error >>= skipped else rest)
      (if c then MonadExcept.throw error >>= skipped' else rest') := by
  by_cases hc : c
  · rw [if_pos hc, if_pos hc]
    exact fun _ _ hstate => .error error hstate
  · rw [if_neg hc, if_neg hc]
    exact h

theorem ite {c : Prop} [Decidable c] {action rest : EStateM ε ω α}
    {action' rest' : EStateM ε ω' α} (h : Agree R action action') (hrest : Agree R rest rest') :
    Agree R (if c then action else rest) (if c then action' else rest') := by
  by_cases hc : c
  · rw [if_pos hc, if_pos hc]
    exact h
  · rw [if_neg hc, if_neg hc]
    exact hrest

/-- A failure that is caught leaves related states, and what catches it sees the same error.
-/
theorem attempt {action : EStateM ε ω α} {action' : EStateM ε ω' α} (h : Agree R action action') :
    Agree R (Registry.attempt action : EStateM ε' ω (Except ε α)) (Registry.attempt action') := by
  intro state state' hstate
  have hresult := h state state' hstate
  simp only [Registry.attempt]
  generalize action state = result at hresult ⊢
  generalize action' state' = result' at hresult ⊢
  cases hresult with
  | ok a hnext => exact .ok (Except.ok a) hnext
  | error error hnext => exact .ok (Except.error error) hnext

/-- Computations that agree leave related states, whether or not they succeed. -/
theorem left {action : EStateM ε ω α} {action' : EStateM ε ω' α} (h : Agree R action action')
    {state : ω} {state' : ω'} (hstate : R state state') :
    R (ReporterRegistry.left action state) (ReporterRegistry.left action' state') := by
  have hresult := h state state' hstate
  simp only [ReporterRegistry.left]
  generalize action state = result at hresult ⊢
  generalize action' state' = result' at hresult ⊢
  cases hresult with
  | ok a hnext => exact hnext
  | error error hnext => exact hnext

/-- What succeeds is matched by a success with the same answer. -/
theorem exists_ok {action : EStateM ε ω α} {action' : EStateM ε ω' α} (h : Agree R action action')
    {state next : ω} {state' : ω'} (hstate : R state state') {a : α}
    (hrun : action state = .ok a next) : ∃ next', action' state' = .ok a next' ∧ R next next' := by
  have hresult := h state state' hstate
  rw [hrun] at hresult
  generalize action' state' = result' at hresult ⊢
  cases hresult with
  | ok a hnext => exact ⟨_, rfl, hnext⟩

end Agree

end

/-! ### Worlds that differ in their ledgers -/

variable {σ τ τ' α : Type} {R : τ → τ' → Prop}

/-- The ledgers are related, and all else is the same. -/
structure Beside (R : τ → τ' → Prop) (world : World σ τ) (world' : World σ τ') : Prop where
  ledger : R world.ledger world'.ledger
  store : world'.store = world.store
  now : world'.now = world.now
  outbox : world'.outbox = world.outbox

/-- The stores are the same, and so is what one says to an operation. -/
theorem agree_onStore (operation : EStateM StoreError σ α) :
    Agree (Beside R) (onStore operation : Action σ τ α) (onStore operation : Action σ τ' α) := by
  intro world world' h
  simp only [onStore, h.store]
  cases operation world.store with
  | ok a store => exact .ok a ⟨h.ledger, rfl, h.now, h.outbox⟩
  | error error store => exact .error _ ⟨h.ledger, rfl, h.now, h.outbox⟩

/-- This is where the ledgers are used, and where it matters that they agree. -/
theorem agree_onLedger {operation : EStateM TokenError τ α} {operation' : EStateM TokenError τ' α}
    (h : Agree R operation operation') :
    Agree (Beside R) (onLedger operation : Action σ τ α) (onLedger operation' : Action σ τ' α) := by
  intro world world' hworld
  have hresult := h _ _ hworld.ledger
  simp only [onLedger]
  generalize operation world.ledger = result at hresult ⊢
  generalize operation' world'.ledger = result' at hresult ⊢
  cases hresult with
  | ok a hnext => exact .ok a ⟨hnext, hworld.store, hworld.now, hworld.outbox⟩
  | error error hnext => exact .error _ ⟨hnext, hworld.store, hworld.now, hworld.outbox⟩

theorem agree_emit (event : Event) :
    Agree (Beside R) (emit event : Action σ τ Unit) (emit event : Action σ τ' Unit) :=
  fun _ _ h => .ok () ⟨h.ledger, h.store, h.now, by rw [h.outbox]⟩

theorem agree_now : Agree (Beside R) (now : Action σ τ Seconds) (now : Action σ τ' Seconds) := by
  intro world world' h
  simp only [now, h.now]
  exact .ok _ h

section

variable [Store σ]

theorem agree_configuration :
    Agree (Beside R) (configuration : Action σ τ Configuration)
      (configuration : Action σ τ' Configuration) := by
  refine (agree_onStore _).bind fun found => ?_
  cases found with
  | some config => exact Agree.pure config
  | none => exact Agree.throw _

/-- A reporter that is missing in one world is missing in the other. -/
theorem agree_reporter (id : ReporterId) :
    Agree (Beside R) (reporter id : Action σ τ Reporter) (reporter id : Action σ τ' Reporter) := by
  refine (agree_onStore _).bind fun found => ?_
  cases found with
  | some found => exact Agree.pure found
  | none => exact Agree.throw _

end

/-! ### Moving stakes -/

/-- Transfers keep the ledgers related. -/
structure Respects [TokenLedger τ] [TokenLedger τ'] (R : τ → τ' → Prop) : Prop where
  transfer : ∀ token payer payee amount, Agree R
    (TokenLedger.transfer token payer payee amount : EStateM TokenError τ Unit)
    (TokenLedger.transfer token payer payee amount : EStateM TokenError τ' Unit)
  transferFrom : ∀ token spender payer payee amount, Agree R
    (TokenLedger.transferFrom token spender payer payee amount : EStateM TokenError τ Unit)
    (TokenLedger.transferFrom token spender payer payee amount : EStateM TokenError τ' Unit)

section

variable [TokenLedger τ] [TokenLedger τ'] {settings : Settings}

/-- A stake is pulled on an allowance, where it matters that the allowances agree as well. -/
theorem agree_lockStake (h : Respects R) (token payer : Account) (amount : Amount) :
    Agree (Beside R) (lockStake settings token payer amount : Action σ τ Unit)
      (lockStake settings token payer amount : Action σ τ' Unit) := by
  refine Agree.ite ?_ (Agree.pure ())
  refine Agree.throwIf ?_
  exact agree_onLedger (h.transferFrom _ _ _ _ _)

/-- What a refund answers is dropped, but not the ledger that it leaves. -/
theorem agree_returnStake (h : Respects R) (token payee : Account) (amount : Amount) :
    Agree (Beside R) (returnStake settings token payee amount : Action σ τ Unit)
      (returnStake settings token payee amount : Action σ τ' Unit) := by
  refine Agree.ite ?_ (Agree.pure ())
  refine Agree.bind ?_ fun _ => Agree.pure ()
  exact (agree_onLedger (h.transfer _ _ _ _)).attempt

/-- A stake is paid by a plain transfer out of custody. -/
theorem agree_payStake (h : Respects R) (token payee : Account) (amount : Amount) :
    Agree (Beside R) (payStake settings token payee amount : Action σ τ Unit)
      (payStake settings token payee amount : Action σ τ' Unit) := by
  refine Agree.ite ?_ (Agree.pure ())
  exact agree_onLedger (h.transfer _ _ _ _)

end

/-! ### Operations -/

section

variable [Store σ] {settings : Settings}

/-- Operations on the configuration do not use the ledger at all. -/
theorem agree_setAuthority (caller authority : Account) :
    Agree (Beside R) (setAuthority settings caller authority : Action σ τ Unit)
      (setAuthority settings caller authority : Action σ τ' Unit) := by
  refine agree_configuration.bind fun config => ?_
  refine (Agree.require _).bind fun _ => ?_
  refine (Agree.require _).bind fun _ => ?_
  refine (Agree.require _).bind fun _ => ?_
  refine (agree_onStore _).bind fun _ => ?_
  exact agree_emit _

theorem agree_updateStakeTerms (caller : Account) (terms : StakeTerms) :
    Agree (Beside R) (updateStakeTerms settings caller terms : Action σ τ Unit)
      (updateStakeTerms settings caller terms : Action σ τ' Unit) := by
  refine agree_configuration.bind fun config => ?_
  refine (Agree.require _).bind fun _ => ?_
  refine (Agree.require _).bind fun _ => ?_
  refine (Agree.require _).bind fun _ => ?_
  refine (agree_onStore _).bind fun _ => ?_
  exact agree_emit _

theorem agree_updateRewardTerms (caller : Account) (terms : RewardTerms) :
    Agree (Beside R) (updateRewardTerms settings caller terms : Action σ τ Unit)
      (updateRewardTerms settings caller terms : Action σ τ' Unit) := by
  refine agree_configuration.bind fun config => ?_
  refine (Agree.require _).bind fun _ => ?_
  refine (Agree.require _).bind fun _ => ?_
  refine (agree_onStore _).bind fun _ => ?_
  exact agree_emit _

theorem agree_createReporter (caller : Account) (id : ReporterId) (account : Account) (role : Role)
    (name url : String) :
    Agree (Beside R)
      (createReporter settings caller id account role name url : Action σ τ Reporter)
      (createReporter settings caller id account role name url : Action σ τ' Reporter) := by
  refine agree_configuration.bind fun config => ?_
  refine (Agree.require _).bind fun _ => ?_
  refine (Agree.require _).bind fun _ => ?_
  refine (agree_onStore _).bind fun inserted => ?_
  refine Agree.ite ?_ (Agree.throw _)
  exact (agree_emit _).bind fun _ => Agree.pure _

theorem agree_updateReporter (caller : Account) (id : ReporterId) (account : Account) (role : Role)
    (name url : String) :
    Agree (Beside R)
      (updateReporter settings caller id account role name url : Action σ τ Reporter)
      (updateReporter settings caller id account role name url : Action σ τ' Reporter) := by
  refine agree_configuration.bind fun config => ?_
  refine (Agree.require _).bind fun _ => ?_
  refine (Agree.require _).bind fun _ => ?_
  refine (agree_reporter id).bind fun previous => ?_
  refine (agree_onStore _).bind fun _ => ?_
  exact (agree_emit _).bind fun _ => Agree.pure _

/-- Deactivation reads the clock, and leaves the stake where it is. -/
theorem agree_deactivateReporter (caller : Account) (id : ReporterId) :
    Agree (Beside R) (deactivateReporter caller id : Action σ τ Reporter)
      (deactivateReporter caller id : Action σ τ' Reporter) := by
  refine agree_configuration.bind fun config => ?_
  refine (agree_reporter id).bind fun previous => ?_
  refine (Agree.require _).bind fun _ => ?_
  refine Agree.throwIf ?_
  refine agree_now.bind fun time => ?_
  refine (agree_onStore _).bind fun _ => ?_
  exact (agree_emit _).bind fun _ => Agree.pure _

variable [TokenLedger τ] [TokenLedger τ']

/-- Activation takes the stake before it writes. If the write fails in one world, it fails
in the other, and both refund. -/
theorem agree_activateReporter (h : Respects R) (caller : Account) (id : ReporterId) :
    Agree (Beside R) (activateReporter settings caller id : Action σ τ Reporter)
      (activateReporter settings caller id : Action σ τ' Reporter) := by
  refine agree_configuration.bind fun config => ?_
  refine (agree_reporter id).bind fun previous => ?_
  refine (Agree.require _).bind fun _ => ?_
  refine Agree.throwIf ?_
  refine (agree_lockStake h _ _ _).bind fun _ => ?_
  refine (agree_onStore _).attempt.bind fun written => ?_
  -- Both worlds saw the same result of the write, so both emit or both refund.
  cases written with
  | ok u => exact (agree_emit _).bind fun _ => Agree.pure _
  | error error => exact (agree_returnStake h _ _ _).bind fun _ => Agree.throw error

/-- Withdrawal writes before it pays. If the payment fails in one world, it fails in the
other, and both write the reporter back. -/
theorem agree_unstakeReporter (h : Respects R) (caller : Account) (id : ReporterId) :
    Agree (Beside R) (unstakeReporter settings caller id : Action σ τ Amount)
      (unstakeReporter settings caller id : Action σ τ' Amount) := by
  refine agree_configuration.bind fun _ => ?_
  refine (agree_reporter id).bind fun previous => ?_
  refine (Agree.require _).bind fun _ => ?_
  refine Agree.throwIf ?_
  refine agree_now.bind fun time => ?_
  refine Agree.throwIf ?_
  refine Agree.throwIf ?_
  refine (agree_onStore _).bind fun _ => ?_
  refine (agree_payStake h _ _ _).attempt.bind fun paid => ?_
  -- The ledgers gave the same answer to the payment.
  cases paid with
  | ok u => exact (agree_emit _).bind fun _ => Agree.pure _
  | error error => exact (agree_onStore _).attempt.bind fun _ => Agree.throw error

end

end Registry

open Registry

/-- **A registry cannot tell ledgers apart** whose transfers agree. -/
theorem Operation.agree {σ τ τ' : Type} [Store σ] [TokenLedger τ] [TokenLedger τ']
    {R : τ → τ' → Prop} (h : Respects R) (settings : Settings) (operation : Operation) :
    Agree (Beside R) (operation.run settings : Action σ τ Outcome)
      (operation.run settings : Action σ τ' Outcome) := by
  cases operation with
  | setAuthority caller authority =>
      exact (agree_setAuthority caller authority).bind fun _ => Agree.pure _
  | updateStakeTerms caller terms =>
      exact (agree_updateStakeTerms caller terms).bind fun _ => Agree.pure _
  | updateRewardTerms caller terms =>
      exact (agree_updateRewardTerms caller terms).bind fun _ => Agree.pure _
  | createReporter caller id account role name url =>
      exact (agree_createReporter caller id account role name url).map _
  | updateReporter caller id account role name url =>
      exact (agree_updateReporter caller id account role name url).map _
  | activateReporter caller id => exact (agree_activateReporter h caller id).map _
  | deactivateReporter caller id => exact (agree_deactivateReporter caller id).map _
  | unstakeReporter caller id => exact (agree_unstakeReporter h caller id).map _

end ReporterRegistry
