import Mathlib.Algebra.BigOperators.Group.Finset.Piecewise
import Mathlib.Algebra.Order.BigOperators.Group.Finset
import ReporterRegistry.Proofs.Ledger.Calls
import ReporterRegistry.Proofs.OrderedMap

/-!
# Ledgers conserve value

All that is held of a token is summed up over the balances that are listed
(`Ledger.supply`), which is the sum over all holders, since the others hold nothing
(`Ledger.sum_balance`). Setting one balance moves the sum by the new balance less the
old one; a transfer sets two, and takes from one what it gives to the other. So only
credits bring value into being, and nothing takes it away.

`LedgerCall.Settled` says exactly what a call does that was taken. Its equations are
those of natural numbers, so they also say that no balance and no allowance was taken
below zero, and that none wrapped around at its greatest value.
-/

namespace ReporterRegistry

open Finset

namespace Ledger

/-! ### All that is held of a token -/

/-- What a listed balance counts for in a token. -/
def share (token : Account) (entry : (Account × Account) × Amount) : Nat :=
  if entry.1.1 = token then entry.2.toNat else 0

/-- All that is held of a token. -/
def supply (ledger : Ledger) (token : Account) : Nat :=
  (ledger.balances.entries.map (share token)).sum

variable {ledger next : Ledger} {token payer payee : Account} {amount : Amount}

/-- A balance that is listed first counts for its holder, whose only one it is. -/
theorem toNat_find?_cons {entries : List ((Account × Account) × Amount)} {token' first : Account}
    (hfirst : (token', first) ∉ entries.map Prod.fst) (balance : Amount) (token holder : Account) :
    ((OrderedMap.find? (token, holder) (((token', first), balance) :: entries)).getD 0).toNat
      = (if token' = token ∧ holder = first then balance.toNat else 0)
        + ((OrderedMap.find? (token, holder) entries).getD 0).toNat := by
  by_cases hkey : token' = token ∧ holder = first
  · obtain ⟨rfl, rfl⟩ := hkey
    have hnone := OrderedMap.find?_eq_none_iff.mpr hfirst
    simp [OrderedMap.find?, hnone]
  · have hne : ¬ (token' = token ∧ first = holder) := fun h => hkey ⟨h.1, h.2.symm⟩
    simp [OrderedMap.find?, hkey, hne]

/-- The listed balances of a token are the balances of its holders. -/
theorem sum_find? {entries : List ((Account × Account) × Amount)}
    (hnd : (entries.map Prod.fst).Nodup) {holders : Finset Account}
    (hall : ∀ holder, (token, holder) ∈ entries.map Prod.fst → holder ∈ holders) :
    ∑ holder ∈ holders, ((OrderedMap.find? (token, holder) entries).getD 0).toNat
      = (entries.map (share token)).sum := by
  induction entries with
  | nil => simp [OrderedMap.find?]
  | cons entry entries ih =>
      obtain ⟨⟨token', first⟩, balance⟩ := entry
      rw [List.map_cons, List.nodup_cons] at hnd
      have hrest := ih hnd.2 fun holder hmem => hall holder (List.mem_cons_of_mem _ hmem)
      rw [sum_congr rfl fun holder _ => toNat_find?_cons hnd.1 balance token holder,
        sum_add_distrib, hrest, List.map_cons, List.sum_cons, share]
      by_cases htoken : token' = token
      · subst htoken
        have hfirst : first ∈ holders := hall first List.mem_cons_self
        simp [hfirst]
      · simp [htoken]

/-- **All that is held of a token** is the sum over any holders among whom are all
whose balance is listed. -/
theorem sum_balance {holders : Finset Account}
    (hall : ∀ holder, (token, holder) ∈ ledger.balances.keys → holder ∈ holders) :
    ∑ holder ∈ holders, (ledger.balance token holder).toNat = ledger.supply token :=
  sum_find? ledger.balances.nodup hall

/-- What two holders have together is among all that is held. -/
theorem balance_add_balance_le_supply (ledger : Ledger) (token : Account)
    {holder holder' : Account} (hne : holder ≠ holder') :
    (ledger.balance token holder).toNat + (ledger.balance token holder').toNat
      ≤ ledger.supply token := by
  have hall : ∀ other, (token, other) ∈ ledger.balances.keys →
      other ∈ (ledger.balances.keys.map Prod.snd).toFinset ∪ {holder, holder'} := by
    intro other hmem
    refine mem_union_left _ (List.mem_toFinset.mpr ?_)
    exact List.mem_map.mpr ⟨(token, other), hmem, rfl⟩
  rw [← sum_balance hall]
  calc (ledger.balance token holder).toNat + (ledger.balance token holder').toNat
      = ∑ other ∈ {holder, holder'}, (ledger.balance token other).toNat :=
        (sum_pair (f := fun other => (ledger.balance token other).toNat) hne).symm
    _ ≤ _ := sum_le_sum_of_subset subset_union_right

/-- Setting a balance moves the sum by the new balance less the old one. -/
theorem supply_withBalance (ledger : Ledger) (token holder : Account) (amount : Amount)
    (token' : Account) :
    (ledger.withBalance token holder amount).supply token'
        + (if token = token' then (ledger.balance token holder).toNat else 0)
      = ledger.supply token' + (if token = token' then amount.toNat else 0) := by
  have hsum := OrderedMap.sum_entries_insert ledger.balances (token, holder) amount (share token')
  have hold : ((ledger.balances.get? (token, holder)).elim 0 fun old =>
      share token' ((token, holder), old))
        = if token = token' then (ledger.balance token holder).toNat else 0 := by
    unfold balance
    cases ledger.balances.get? (token, holder) <;> simp [share]
  rw [hold] at hsum
  exact hsum

/-- A transfer leaves the sum as it was. -/
theorem supply_of_move (h : ledger.move token payer payee amount = .ok next) (token' : Account) :
    next.supply token' = ledger.supply token' := by
  obtain ⟨hfunds, ⟨-, rfl⟩ | ⟨hne, credited, hsum, rfl⟩⟩ := move_eq_ok_iff.mp h
  · rfl
  -- Payer and payee differ, so the credit finds the balance of the payee as it was.
  have hdebit := supply_withBalance ledger token payer (ledger.balance token payer - amount) token'
  have hcredit := supply_withBalance
    (ledger.withBalance token payer (ledger.balance token payer - amount)) token payee credited
    token'
  have hpayee : (token, payee) ≠ (token, payer) := by simp [hne.symm]
  rw [balance_withBalance_of_ne _ _ hpayee] at hcredit
  have hsub := toNat_sub_of_not_lt hfunds
  have hadd := (sum?_eq_some_iff.mp hsum).2
  by_cases htoken : token = token'
  · simp only [if_pos htoken] at hdebit hcredit
    omega
  · simp only [if_neg htoken] at hdebit hcredit
    omega

theorem supply_of_transferFrom {spender : Account}
    (h : ledger.transferFrom token spender payer payee amount = .ok next) (token' : Account) :
    next.supply token' = ledger.supply token' := by
  obtain ⟨-, moved, hmove, rfl⟩ := transferFrom_eq_ok_iff.mp h
  exact supply_of_move hmove token'

/-- A credit gives the holder the amount, up to the greatest balance. -/
theorem toNat_balance_mint (ledger : Ledger) (token holder : Account) (amount : Amount) :
    ((ledger.mint token holder amount).balance token holder).toNat
      = min ((ledger.balance token holder).toNat + amount.toNat) (2 ^ 128 - 1) := by
  unfold mint
  rw [balance_withBalance_self]
  cases hsum : sum? (ledger.balance token holder) amount with
  | none =>
      have hfull := sum?_eq_none_iff.mp hsum
      rw [Option.getD_none, BitVec.toNat_allOnes]
      omega
  | some credited =>
      obtain ⟨hrange, hadd⟩ := sum?_eq_some_iff.mp hsum
      rw [Option.getD_some, hadd]
      omega

end Ledger

/-! ### What a call brings into being -/

/-- How much of a token a call brings into being: what is credited, as far as the
balance can take it. -/
def LedgerCall.issued (token : Account) (ledger : Ledger) : LedgerCall → Nat
  | .mint token' holder amount =>
    if token' = token then
      min amount.toNat (2 ^ 128 - 1 - (ledger.balance token' holder).toNat)
    else 0
  | .approve _ _ _ _ | .transfer _ _ _ _ | .transferFrom _ _ _ _ _ => 0

/-- How much of a token some calls bring into being, one after the other. -/
def Ledger.issued (token : Account) : Ledger → List LedgerCall → Nat
  | _, [] => 0
  | ledger, call :: calls => call.issued token ledger + issued token (call.apply ledger) calls

theorem LedgerCall.supply_apply (call : LedgerCall) (ledger : Ledger) (token : Account) :
    (call.apply ledger).supply token = ledger.supply token + call.issued token ledger := by
  cases call with
  | mint token' holder amount =>
      -- A credit stops at the greatest balance, and so does what it brings into being.
      have hbalance := Ledger.toNat_balance_mint ledger token' holder amount
      have hrange := (ledger.balance token' holder).isLt
      unfold Ledger.mint at hbalance
      rw [Ledger.balance_withBalance_self] at hbalance
      have hsum := Ledger.supply_withBalance ledger token' holder
        ((Ledger.sum? (ledger.balance token' holder) amount).getD (BitVec.allOnes 128)) token
      rw [hbalance] at hsum
      show (ledger.withBalance token' holder _).supply token = _
      unfold issued
      by_cases htoken : token' = token
      · simp only [if_pos htoken] at hsum ⊢
        omega
      · simp only [if_neg htoken] at hsum ⊢
        omega
  | approve token' owner spender amount => rfl
  | transfer token' payer payee amount =>
      simp only [apply, left, TokenLedger.transfer, Ledger.commit]
      cases hmove : ledger.move token' payer payee amount with
      | error error => rfl
      | ok next => exact Ledger.supply_of_move hmove token
  | transferFrom token' spender payer payee amount =>
      simp only [apply, left, TokenLedger.transferFrom, Ledger.commit]
      cases hpull : ledger.transferFrom token' spender payer payee amount with
      | error error => rfl
      | ok next => exact Ledger.supply_of_transferFrom hpull token

theorem Ledger.supply_run (ledger : Ledger) (calls : List LedgerCall) (token : Account) :
    (ledger.run calls).supply token = ledger.supply token + ledger.issued token calls := by
  induction calls generalizing ledger with
  | nil => rfl
  | cons call calls ih =>
      rw [run_cons, ih, LedgerCall.supply_apply, issued, Nat.add_assoc]

/-! ### What a call does -/

/-- An amount went from one holder to another. The payer could pay it; a holder that
paid itself holds what it held. -/
structure Moved (token payer payee : Account) (amount : Amount) (before after : Ledger) : Prop where
  funds : amount.toNat ≤ (before.balance token payer).toNat
  debit : payer ≠ payee →
    (after.balance token payer).toNat + amount.toNat = (before.balance token payer).toNat
  credit : payer ≠ payee →
    (after.balance token payee).toNat = (before.balance token payee).toNat + amount.toNat
  self : payer = payee → after.balance token payer = before.balance token payer

theorem Moved.of_move {token payer payee : Account} {amount : Amount} {ledger next : Ledger}
    (h : ledger.move token payer payee amount = .ok next) :
    Moved token payer payee amount ledger next where
  funds := by
    have hfunds := (Ledger.move_eq_ok_iff.mp h).1
    rw [BitVec.lt_def] at hfunds
    exact Nat.le_of_not_lt hfunds
  debit hne := Ledger.toNat_balance_payer_of_move hne h
  credit hne := Ledger.toNat_balance_payee_of_move hne h
  self hself := by
    rcases (Ledger.move_eq_ok_iff.mp h).2 with ⟨-, rfl⟩ | ⟨hne, -⟩
    · rfl
    · exact absurd hself hne

theorem Moved.of_transferFrom {token spender payer payee : Account} {amount : Amount}
    {ledger next : Ledger} (h : ledger.transferFrom token spender payer payee amount = .ok next) :
    Moved token payer payee amount ledger next := by
  obtain ⟨-, moved, hmove, rfl⟩ := Ledger.transferFrom_eq_ok_iff.mp h
  obtain ⟨hfunds, hdebit, hcredit, hself⟩ := Moved.of_move hmove
  exact ⟨hfunds, hdebit, hcredit, hself⟩

/-- To move nothing is to leave the ledger as it is. -/
theorem Moved.zero (token payer payee : Account) (ledger : Ledger) :
    Moved token payer payee 0 ledger ledger where
  funds := Nat.zero_le _
  debit _ := rfl
  credit _ := rfl
  self _ := rfl

/-- What a call does that was taken: to the balances and allowances it is about, and to
no others. -/
def LedgerCall.Settled (before after : Ledger) : LedgerCall → Prop
  | .mint token holder amount =>
    OnlyEntries token [holder] [] before after ∧
      (after.balance token holder).toNat
        = min ((before.balance token holder).toNat + amount.toNat) (2 ^ 128 - 1)
  | .approve token owner spender amount =>
    OnlyEntries token [] [(owner, spender)] before after ∧
      after.allowance token owner spender = amount
  | .transfer token payer payee amount =>
    OnlyEntries token [payer, payee] [] before after ∧ Moved token payer payee amount before after
  | .transferFrom token spender payer payee amount =>
    OnlyEntries token [payer, payee] [(payer, spender)] before after ∧
      Moved token payer payee amount before after ∧
      (after.allowance token payer spender).toNat + amount.toNat
        = (before.allowance token payer spender).toNat

/-- A call is refused and changes nothing, or is taken and does what it says. -/
def LedgerCall.Exact (ledger : Ledger) (call : LedgerCall) : Prop :=
  match call.run ledger with
  | .error _ next => next = ledger
  | .ok () next => call.Settled ledger next

theorem LedgerCall.exact (call : LedgerCall) (ledger : Ledger) : call.Exact ledger := by
  unfold Exact
  cases call with
  | mint token holder amount =>
      exact ⟨OnlyEntries.withBalance ledger token holder _,
        Ledger.toNat_balance_mint ledger token holder amount⟩
  | approve token owner spender amount =>
      exact ⟨OnlyEntries.withAllowance ledger token owner spender amount,
        Ledger.allowance_withAllowance_self ledger token owner spender amount⟩
  | transfer token payer payee amount =>
      simp only [run, TokenLedger.transfer, Ledger.commit]
      cases hmove : ledger.move token payer payee amount with
      | error error => rfl
      | ok next => exact ⟨OnlyEntries.move hmove, Moved.of_move hmove⟩
  | transferFrom token spender payer payee amount =>
      simp only [run, TokenLedger.transferFrom, Ledger.commit]
      cases hpull : ledger.transferFrom token spender payer payee amount with
      | error error => rfl
      | ok next => exact ⟨OnlyEntries.transferFrom hpull, Moved.of_transferFrom hpull,
          Ledger.toNat_allowance_of_transferFrom hpull⟩

/-- **A ledger conserves value.** Whatever calls are made, all that is held of a token
grows by what was credited, and by nothing else. The next call, whatever it is, is
refused and changes nothing, or does to the balances and allowances it is about exactly
what it says, and nothing to any other. -/
theorem value_conserved (ledger : Ledger) (calls : List LedgerCall) :
    (∀ token, (ledger.run calls).supply token = ledger.supply token + ledger.issued token calls) ∧
    ∀ call : LedgerCall, call.Exact (ledger.run calls) :=
  ⟨ledger.supply_run calls, fun call => call.exact (ledger.run calls)⟩

end ReporterRegistry
