import Mathlib.Algebra.Group.Nat.Defs
import ReporterRegistry.Ledger

/-!
# What ledger operations do to balances

A transfer that succeeds had a payer who could pay and a payee who could take it,
and one that fails says which of the two was missing (`move_eq_ok_iff`,
`move_eq_error`). Balances are compared as natural numbers, where the bounds of
amounts are out of the way: `toNat_balance_of_move` is the whole effect of a
transfer, on every holder of every token.
-/

namespace ReporterRegistry

namespace Ledger

variable {ledger next : Ledger} {token payer payee holder : Account} {amount : Amount}

/-! ### Sums in range -/

theorem uaddOverflow_iff {a b : Amount} :
    a.uaddOverflow b = true ↔ 2 ^ 128 ≤ a.toNat + b.toNat :=
  decide_eq_true_iff

theorem sum?_eq_some_iff {a b c : Amount} :
    sum? a b = some c ↔ a.toNat + b.toNat < 2 ^ 128 ∧ c.toNat = a.toNat + b.toNat := by
  unfold sum?
  constructor
  · intro h
    split at h
    · cases h
    · rename_i hrange
      cases h
      have hlt := Nat.lt_of_not_le (mt uaddOverflow_iff.mpr hrange)
      exact ⟨hlt, by rw [BitVec.toNat_add, Nat.mod_eq_of_lt hlt]⟩
  · rintro ⟨hlt, hc⟩
    rw [if_neg (mt uaddOverflow_iff.mp (Nat.not_le_of_lt hlt)), Option.some.injEq]
    apply BitVec.eq_of_toNat_eq
    rw [BitVec.toNat_add, Nat.mod_eq_of_lt hlt, hc]

theorem sum?_eq_none_iff {a b : Amount} : sum? a b = none ↔ 2 ^ 128 ≤ a.toNat + b.toNat := by
  rw [← uaddOverflow_iff, sum?]
  cases a.uaddOverflow b <;> simp

theorem toNat_of_not_pos {a : Amount} (h : ¬ 0 < a) : a.toNat = 0 := by
  have hle : a.toNat ≤ (0 : Amount).toNat := by simpa [BitVec.lt_def] using h
  exact Nat.le_zero.mp hle

theorem toNat_sub_of_not_lt {a b : Amount} (h : ¬ a < b) :
    (a - b).toNat + b.toNat = a.toNat := by
  have hle : b.toNat ≤ a.toNat := by simpa [BitVec.lt_def] using h
  rw [BitVec.toNat_sub_of_le (by simpa [BitVec.le_def] using hle)]
  omega

/-! ### Transfers -/

/-- **Success of a transfer.** The payer can pay; a payer that pays itself changes
nothing, and otherwise the payee's balance stays in range. -/
theorem move_eq_ok_iff :
    ledger.move token payer payee amount = .ok next ↔
      ¬ ledger.balance token payer < amount ∧
        ((payer = payee ∧ next = ledger) ∨
          (payer ≠ payee ∧ ∃ credited, sum? (ledger.balance token payee) amount = some credited ∧
            next = (ledger.withBalance token payer
              (ledger.balance token payer - amount)).withBalance token payee credited)) := by
  unfold move
  by_cases hfunds : ledger.balance token payer < amount
  · simp [hfunds]
  by_cases hself : payer = payee
  · simp only [if_neg hfunds, if_pos hself, Except.ok.injEq]
    constructor
    · rintro rfl
      exact ⟨hfunds, Or.inl ⟨hself, rfl⟩⟩
    · rintro ⟨-, ⟨-, rfl⟩ | ⟨hne, -⟩⟩
      · rfl
      · exact absurd hself hne
  cases hsum : sum? (ledger.balance token payee) amount with
  | none => simp [hfunds, hself]
  | some credited => simp [hfunds, hself, eq_comm]

/-- **Failure of a transfer.** Either the payer cannot pay, or the payee, who is
someone else, would hold more than fits. -/
theorem move_eq_error {error : TokenError}
    (h : ledger.move token payer payee amount = .error error) :
    (ledger.balance token payer < amount ∧
        error = .insufficientBalance amount (ledger.balance token payer)) ∨
      (¬ ledger.balance token payer < amount ∧ payer ≠ payee ∧
        2 ^ 128 ≤ (ledger.balance token payee).toNat + amount.toNat ∧
        error = .transferFailed .balanceOverflow) := by
  unfold move at h
  by_cases hfunds : ledger.balance token payer < amount
  · rw [if_pos hfunds] at h
    cases h
    exact Or.inl ⟨hfunds, rfl⟩
  rw [if_neg hfunds] at h
  by_cases hself : payer = payee
  · rw [if_pos hself] at h
    cases h
  rw [if_neg hself] at h
  cases hsum : sum? (ledger.balance token payee) amount with
  | none =>
      rw [hsum] at h
      cases h
      exact Or.inr ⟨hfunds, hself, sum?_eq_none_iff.mp hsum, rfl⟩
  | some credited =>
      rw [hsum] at h
      cases h

theorem allowance_of_move (h : ledger.move token payer payee amount = .ok next)
    (token' owner spender : Account) :
    next.allowance token' owner spender = ledger.allowance token' owner spender := by
  rcases (move_eq_ok_iff.mp h).2 with ⟨-, rfl⟩ | ⟨-, credited, -, rfl⟩
  · rfl
  · simp

/-- A transfer takes the amount from the payer and gives it to the payee, unless
they are the same, and changes no other balance. -/
theorem toNat_balance_of_move (h : ledger.move token payer payee amount = .ok next)
    (token' holder : Account) :
    (next.balance token' holder).toNat
        + (if payer ≠ payee ∧ token' = token ∧ holder = payer then amount.toNat else 0)
      = (ledger.balance token' holder).toNat
        + (if payer ≠ payee ∧ token' = token ∧ holder = payee then amount.toNat else 0) := by
  obtain ⟨hfunds, ⟨rfl, rfl⟩ | ⟨hne, credited, hsum, rfl⟩⟩ := move_eq_ok_iff.mp h
  · simp
  by_cases htoken : token' = token
  · subst htoken
    by_cases hpayee : holder = payee
    · subst hpayee
      have hsum' := (sum?_eq_some_iff.mp hsum).2
      simp [hne, hne.symm, hsum']
    · have hne' : (token', holder) ≠ (token', payee) := by simp [hpayee]
      rw [balance_withBalance_of_ne _ _ hne']
      by_cases hpayer : holder = payer
      · subst hpayer
        have hsub := toNat_sub_of_not_lt hfunds
        simp only [balance_withBalance_self, hsub, hne, ne_eq, not_false_eq_true,
          and_true, and_false, if_true, if_false, Nat.add_zero]
      · have hne'' : (token', holder) ≠ (token', payer) := by simp [hpayer]
        rw [balance_withBalance_of_ne _ _ hne'']
        simp [hpayee, hpayer]
  · have hpayee : (token', holder) ≠ (token, payee) := by simp [htoken]
    have hpayer : (token', holder) ≠ (token, payer) := by simp [htoken]
    rw [balance_withBalance_of_ne _ _ hpayee, balance_withBalance_of_ne _ _ hpayer]
    simp [htoken]

/-- The payer has less by the amount, unless it is the payee. -/
theorem toNat_balance_payer_of_move (hne : payer ≠ payee)
    (h : ledger.move token payer payee amount = .ok next) :
    (next.balance token payer).toNat + amount.toNat = (ledger.balance token payer).toNat := by
  have heffect := toNat_balance_of_move h token payer
  rw [if_pos ⟨hne, rfl, rfl⟩, if_neg fun hc => hne hc.2.2, Nat.add_zero] at heffect
  exact heffect

/-- The payee has more by the amount, unless it is the payer. -/
theorem toNat_balance_payee_of_move (hne : payer ≠ payee)
    (h : ledger.move token payer payee amount = .ok next) :
    (next.balance token payee).toNat = (ledger.balance token payee).toNat + amount.toNat := by
  have heffect := toNat_balance_of_move h token payee
  rw [if_neg fun hc => hne hc.2.2.symm, if_pos ⟨hne, rfl, rfl⟩, Nat.add_zero] at heffect
  exact heffect

/-- Nobody but the payer has less after a transfer. -/
theorem balance_le_of_move (h : ledger.move token payer payee amount = .ok next)
    (hne : payer ≠ holder) (token' : Account) :
    (ledger.balance token' holder).toNat ≤ (next.balance token' holder).toNat := by
  have heffect := toNat_balance_of_move h token' holder
  have hpayer : ¬ (payer ≠ payee ∧ token' = token ∧ holder = payer) := fun hc => hne hc.2.2.symm
  rw [if_neg hpayer] at heffect
  omega

/-! ### Transfers on behalf of a spender -/

/-- A transfer on behalf of a spender is one that the payer allowed, followed by
the reduction of what is still allowed. -/
theorem transferFrom_eq_ok_iff {spender : Account} :
    ledger.transferFrom token spender payer payee amount = .ok next ↔
      ¬ ledger.allowance token payer spender < amount ∧
        ∃ moved, ledger.move token payer payee amount = .ok moved ∧
          next = moved.withAllowance token payer spender
            (ledger.allowance token payer spender - amount) := by
  unfold transferFrom
  by_cases hallowed : ledger.allowance token payer spender < amount
  · simp [hallowed]
  cases hmove : ledger.move token payer payee amount with
  | error error => simp [hallowed]
  | ok moved => simp [hallowed, eq_comm]

theorem balance_of_transferFrom {spender : Account}
    (h : ledger.transferFrom token spender payer payee amount = .ok next) :
    ∃ moved, ledger.move token payer payee amount = .ok moved ∧
      ∀ token' holder, next.balance token' holder = moved.balance token' holder := by
  obtain ⟨-, moved, hmove, rfl⟩ := transferFrom_eq_ok_iff.mp h
  exact ⟨moved, hmove, fun token' holder => balance_withAllowance _ _ _ _ _ _ _⟩

/-- The spender may pull less by the amount. -/
theorem toNat_allowance_of_transferFrom {spender : Account}
    (h : ledger.transferFrom token spender payer payee amount = .ok next) :
    (next.allowance token payer spender).toNat + amount.toNat
      = (ledger.allowance token payer spender).toNat := by
  obtain ⟨hallowed, moved, -, rfl⟩ := transferFrom_eq_ok_iff.mp h
  rw [allowance_withAllowance_self]
  exact toNat_sub_of_not_lt hallowed

/-- Nobody but the payer has less after a transfer on behalf of a spender. -/
theorem balance_le_of_transferFrom {spender : Account}
    (h : ledger.transferFrom token spender payer payee amount = .ok next)
    (hne : payer ≠ holder) (token' : Account) :
    (ledger.balance token' holder).toNat ≤ (next.balance token' holder).toNat := by
  obtain ⟨moved, hmove, hbalance⟩ := balance_of_transferFrom h
  rw [hbalance]
  exact balance_le_of_move hmove hne token'

/-! ### Credits -/

/-- A credit takes nothing from anyone, not even when it stops at the greatest
balance. -/
theorem balance_le_mint (ledger : Ledger) (token holder : Account) (amount : Amount)
    (token' holder' : Account) :
    (ledger.balance token' holder').toNat
      ≤ ((ledger.mint token holder amount).balance token' holder').toNat := by
  unfold mint
  by_cases hsame : (token', holder') = (token, holder)
  · cases hsame
    rw [balance_withBalance_self]
    cases hsum : sum? (ledger.balance token holder) amount with
    | none =>
        rw [Option.getD_none, BitVec.toNat_allOnes]
        have hlt := (ledger.balance token holder).isLt
        omega
    | some credited =>
        rw [Option.getD_some, (sum?_eq_some_iff.mp hsum).2]
        omega
  · exact Nat.le_of_eq (by rw [balance_withBalance_of_ne _ _ hsame])

end Ledger

/-! ### What a change leaves alone -/

/-- Of all balances and allowances, only these of a token change. -/
structure OnlyEntries (token : Account) (holders : List Account)
    (allowances : List (Account × Account)) (before after : Ledger) : Prop where
  balance : ∀ token' holder, ¬ (token' = token ∧ holder ∈ holders) →
    after.balance token' holder = before.balance token' holder
  allowance : ∀ token' owner spender, ¬ (token' = token ∧ (owner, spender) ∈ allowances) →
    after.allowance token' owner spender = before.allowance token' owner spender

namespace OnlyEntries

variable {token payer payee : Account} {amount : Amount} {ledger next : Ledger}

theorem refl (token : Account) (holders : List Account) (allowances : List (Account × Account))
    (ledger : Ledger) : OnlyEntries token holders allowances ledger ledger where
  balance _ _ _ := rfl
  allowance _ _ _ _ := rfl

/-- A transfer changes the balances of the payer and of the payee. -/
theorem move (h : ledger.move token payer payee amount = .ok next) :
    OnlyEntries token [payer, payee] [] ledger next where
  balance token' holder hnot := by
    have hpayer : ¬ (payer ≠ payee ∧ token' = token ∧ holder = payer) := by
      rintro ⟨-, htoken, rfl⟩
      exact hnot ⟨htoken, by simp⟩
    have hpayee : ¬ (payer ≠ payee ∧ token' = token ∧ holder = payee) := by
      rintro ⟨-, htoken, rfl⟩
      exact hnot ⟨htoken, by simp⟩
    have heffect := Ledger.toNat_balance_of_move h token' holder
    rw [if_neg hpayer, if_neg hpayee] at heffect
    exact BitVec.eq_of_toNat_eq heffect
  allowance token' owner spender _ := Ledger.allowance_of_move h token' owner spender

/-- A transfer on behalf of a spender also changes what the spender may pull. -/
theorem transferFrom {spender : Account}
    (h : ledger.transferFrom token spender payer payee amount = .ok next) :
    OnlyEntries token [payer, payee] [(payer, spender)] ledger next := by
  obtain ⟨-, moved, hmove, rfl⟩ := Ledger.transferFrom_eq_ok_iff.mp h
  refine ⟨(move hmove).balance, ?_⟩
  intro token' owner spender' hnot
  have hother : (token', owner, spender') ≠ (token, payer, spender) := by
    rintro ⟨⟩
    exact hnot ⟨rfl, by simp⟩
  rw [Ledger.allowance_withAllowance_of_ne _ _ hother]
  exact Ledger.allowance_of_move hmove token' owner spender'

theorem withBalance (ledger : Ledger) (token holder : Account) (amount : Amount) :
    OnlyEntries token [holder] [] ledger (ledger.withBalance token holder amount) where
  balance token' holder' hnot := by
    refine Ledger.balance_withBalance_of_ne _ _ ?_
    rintro ⟨⟩
    exact hnot ⟨rfl, by simp⟩
  allowance token' owner spender _ := rfl

theorem withAllowance (ledger : Ledger) (token owner spender : Account) (amount : Amount) :
    OnlyEntries token [] [(owner, spender)] ledger
      (ledger.withAllowance token owner spender amount) where
  balance token' holder _ := rfl
  allowance token' owner' spender' hnot := by
    refine Ledger.allowance_withAllowance_of_ne _ _ ?_
    rintro ⟨⟩
    exact hnot ⟨rfl, by simp⟩

end OnlyEntries

end ReporterRegistry
