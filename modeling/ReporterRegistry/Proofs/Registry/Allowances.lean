import ReporterRegistry.Proofs.Registry.Alike
import ReporterRegistry.Proofs.Registry.Site

/-!
# Allowances bound what is pulled

What a spender may still pull of an owner's tokens, and what it has pulled since this
was last allowed, add up to what was allowed.

What is pulled is found out by doing the same once more on a ledger that keeps a record
of it (`Audited`). A registry cannot tell such a ledger from one that keeps none
(`Operation.agree`), so nothing has to be known about when and why it pulls, and nothing
about its store. The identity holds of one move, and adds up over a run
(`Site.allowance_add_total`).

A registry pulls when a stake is locked. So all the stakes that an account locks in one
token, for whatever reporters, are within what it has allowed (`Move.staked_le`).
-/

namespace ReporterRegistry

open Registry
open Session (Handle)

/-! ### What was pulled -/

/-- An amount that was pulled by a spender. -/
structure Pull where
  token : Account
  spender : Account
  payer : Account
  payee : Account
  amount : Amount
  deriving DecidableEq, Repr

/-- What a pull counts for in the use of one allowance. -/
def Pull.share (token owner spender : Account) (pull : Pull) : Nat :=
  if (pull.token, pull.payer, pull.spender) = (token, owner, spender) then pull.amount.toNat else 0

/-- How much of one allowance some pulls use up. -/
def pulled (token owner spender : Account) (pulls : List Pull) : Nat :=
  (pulls.map (Pull.share token owner spender)).sum

theorem pulled_concat (token owner spender : Account) (pulls : List Pull) (last : Pull) :
    pulled token owner spender (pulls ++ [last])
      = pulled token owner spender pulls + last.share token owner spender := by
  simp [pulled]

/-! ### Ledgers with a record -/

/-- A ledger with a record of what was pulled. -/
structure Audited (τ : Type) where
  ledger : τ
  pulls : List Pull

namespace Audited

variable {τ α : Type}

/-- A ledger whose record is empty. -/
def start (ledger : τ) : Audited τ := ⟨ledger, []⟩

/-- An operation of the ledger, and what it adds to the record if it succeeds. -/
def record (pulls : List Pull) (operation : EStateM TokenError τ α) :
    EStateM TokenError (Audited τ) α := fun audited =>
  match operation audited.ledger with
  | .ok a ledger => .ok a ⟨ledger, audited.pulls ++ pulls⟩
  | .error error ledger => .error error ⟨ledger, audited.pulls⟩

instance [TokenLedger τ] : TokenLedger (Audited τ) where
  balance token holder := record [] (TokenLedger.balance token holder)
  allowance token owner spender := record [] (TokenLedger.allowance token owner spender)
  transfer token payer payee amount := record [] (TokenLedger.transfer token payer payee amount)
  transferFrom token spender payer payee amount :=
    record [⟨token, spender, payer, payee, amount⟩]
      (TokenLedger.transferFrom token spender payer payee amount)
  approve token owner spender amount := record [] (TokenLedger.approve token owner spender amount)

end Audited

/-- The ledger is the audited one, and for every allowance what is left of it and what
the record says was pulled make up what it was at first. -/
structure Accounts (first ledger : Ledger) (audited : Audited Ledger) : Prop where
  same : audited.ledger = ledger
  adds : ∀ token owner spender,
    (ledger.allowance token owner spender).toNat + pulled token owner spender audited.pulls
      = (first.allowance token owner spender).toNat

theorem Accounts.start (ledger : Ledger) : Accounts ledger ledger (.start ledger) where
  same := rfl
  adds _ _ _ := rfl

/-- Transfers keep the account. -/
theorem respects_accounts (first : Ledger) : Respects (Accounts first) where
  transfer token payer payee amount := by
    rintro _ ⟨ledger, pulls⟩ ⟨rfl, hadds⟩
    simp only [TokenLedger.transfer, Audited.record, Ledger.commit]
    cases hmove : ledger.move token payer payee amount with
    | error error => exact .error error ⟨rfl, hadds⟩
    | ok next =>
        refine .ok () ⟨rfl, ?_⟩
        intro token' owner spender
        rw [Ledger.allowance_of_move hmove, List.append_nil]
        exact hadds token' owner spender
  transferFrom token spender payer payee amount := by
    rintro _ ⟨ledger, pulls⟩ ⟨rfl, hadds⟩
    simp only [TokenLedger.transferFrom, Audited.record, Ledger.commit]
    cases hpull : ledger.transferFrom token spender payer payee amount with
    | error error => exact .error error ⟨rfl, hadds⟩
    | ok next =>
        refine .ok () ⟨rfl, ?_⟩
        intro token' owner spender'
        have hbefore := hadds token' owner spender'
        rw [pulled_concat, Pull.share]
        -- Of all allowances, only the one that is spent moves, and by what is recorded.
        by_cases hsame : (token, payer, spender) = (token', owner, spender')
        · cases hsame
          have hspent := Ledger.toNat_allowance_of_transferFrom hpull
          simp only [if_true] at hbefore ⊢
          omega
        · have hother : next.allowance token' owner spender'
              = ledger.allowance token' owner spender' := by
            refine (OnlyEntries.transferFrom hpull).allowance token' owner spender' ?_
            rintro ⟨rfl, hmem⟩
            cases List.mem_singleton.mp hmem
            exact hsame rfl
          rw [if_neg hsame, hother]
          exact hbefore

/-! ### What an operation pulls -/

/-- The world with a ledger that keeps a record. -/
def World.audited {σ : Type} (world : World σ Ledger) : World σ (Audited Ledger) :=
  ⟨world.store, .start world.ledger, world.now, world.outbox⟩

theorem World.beside_audited {σ : Type} (world : World σ Ledger) :
    Beside (Accounts world.ledger) world world.audited :=
  ⟨Accounts.start world.ledger, rfl, rfl, rfl⟩

namespace Operation

variable {σ : Type} [Store σ] {settings : Settings} {world : World σ Ledger}

/-- What an operation pulls. -/
def pulls (settings : Settings) (world : World σ Ledger) (operation : Operation) : List Pull :=
  (left (operation.run settings) world.audited).ledger.pulls

theorem agree_audited (settings : Settings) (first : Ledger) (operation : Operation) :
    Agree (Beside (Accounts first)) (operation.run settings : Action σ Ledger Outcome)
      (operation.run settings : Action σ (Audited Ledger) Outcome) :=
  operation.agree (respects_accounts first) settings

/-- What is left of an allowance after an operation, and what the operation pulled, make
up what it was before. -/
theorem allowance_add_pulled (settings : Settings) (world : World σ Ledger)
    (operation : Operation) (token owner spender : Account) :
    ((left (operation.run settings) world).ledger.allowance token owner spender).toNat
        + pulled token owner spender (operation.pulls settings world)
      = (world.ledger.allowance token owner spender).toNat :=
  ((operation.agree_audited settings world.ledger).left world.beside_audited).ledger.adds
    token owner spender

end Operation

/-! ### What an activation pulls -/

namespace Registry

section

variable {σ τ α : Type} {world next : World σ τ}

theorem state_of_require {ω ε : Type} {check : Except ε Unit} {state next : ω}
    (h : require check state = .ok () next) : next = state := by
  cases check <;> cases h
  rfl

theorem ledger_of_onStore {operation : EStateM StoreError σ α} {a : α}
    (h : onStore operation world = .ok a next) : next.ledger = world.ledger := by
  unfold onStore at h
  split at h
  · cases h
    rfl
  · cases h

theorem ledger_of_attempt_onStore {operation : EStateM StoreError σ α}
    {result : Except RegistryError α} {ε : Type}
    (h : (attempt (onStore operation) : EStateM ε (World σ τ) _) world = .ok result next) :
    next.ledger = world.ledger := by
  unfold attempt onStore at h
  cases hstep : operation world.store with
  | ok a store =>
      simp only [hstep] at h
      cases h
      rfl
  | error error store =>
      simp only [hstep] at h
      cases h
      rfl

variable [Store σ]

theorem ledger_of_configuration {config : Configuration}
    (h : configuration world = .ok config next) : next.ledger = world.ledger := by
  obtain ⟨found, between, hread, hfound⟩ := run_bind_eq_ok_iff.mp h
  have hledger := ledger_of_onStore hread
  cases found with
  | none => cases hfound
  | some found =>
      cases hfound
      exact hledger

theorem ledger_of_reporter {id : ReporterId} {previous : Reporter}
    (h : reporter id world = .ok previous next) : next.ledger = world.ledger := by
  obtain ⟨found, between, hread, hfound⟩ := run_bind_eq_ok_iff.mp h
  have hledger := ledger_of_onStore hread
  cases found with
  | none => cases hfound
  | some found =>
      cases hfound
      exact hledger

end

/-- A stake that was locked is on the record, unless it is nothing. -/
theorem pulls_of_lockStake {σ : Type} {settings : Settings} {token payer : Account}
    {amount : Amount} {world next : World σ (Audited Ledger)}
    (h : lockStake settings token payer amount world = .ok () next) (hamount : 0 < amount) :
    next.ledger.pulls
      = world.ledger.pulls ++ [⟨token, settings.custody, payer, settings.custody, amount⟩] := by
  unfold lockStake at h
  rw [if_pos hamount] at h
  by_cases hzero : token.isZero = true
  · rw [if_pos hzero] at h
    cases h
  rw [if_neg hzero] at h
  simp only [onLedger, TokenLedger.transferFrom, Audited.record, Ledger.commit] at h
  cases hpull : world.ledger.ledger.transferFrom token settings.custody payer settings.custody
      amount with
  | error error =>
      simp only [hpull] at h
      cases h
  | ok pulled =>
      simp only [hpull] at h
      cases h
      rfl

/-- An activation that succeeds locks the stake with which it answers, in the token with
which it answers unless the stake is nothing. -/
theorem activateReporter_inv {σ τ : Type} [Store σ] [TokenLedger τ] {settings : Settings}
    {caller : Account} {id : ReporterId} {answer : Reporter} {world next : World σ τ}
    (h : activateReporter settings caller id world = .ok answer next) :
    ∃ previous terms amount, ∃ read locked : World σ τ, read.ledger = world.ledger ∧
      lockStake settings terms.token caller amount read = .ok () locked ∧
      next.ledger = locked.ledger ∧ answer = activated previous terms amount := by
  obtain ⟨config, configured, hconfig, hrun⟩ := run_bind_eq_ok_iff.mp h
  obtain ⟨previous, read, hprevious, hrun⟩ := run_bind_eq_ok_iff.mp hrun
  have hread : read.ledger = world.ledger :=
    (ledger_of_reporter hprevious).trans (ledger_of_configuration hconfig)
  obtain ⟨⟨⟩, checked, hstanding, hrun⟩ := run_bind_eq_ok_iff.mp hrun
  cases state_of_require hstanding
  by_cases hstatus : previous.status ≠ .inactive
  · rw [if_pos hstatus] at hrun
    cases hrun
  rw [if_neg hstatus] at hrun
  obtain ⟨⟨⟩, locked, hlock, hrun⟩ := run_bind_eq_ok_iff.mp hrun
  obtain ⟨written, last, hput, hrun⟩ := run_bind_eq_ok_iff.mp hrun
  -- A write that was refused ends in that error, whether or not the stake went back.
  cases written with
  | error error =>
      obtain ⟨⟨⟩, _, -, hthrow⟩ := run_bind_eq_ok_iff.mp hrun
      cases hthrow
  | ok u =>
      have hwritten : last.ledger = locked.ledger := ledger_of_attempt_onStore hput
      cases hrun
      exact ⟨previous, config.stake, _, read, locked, hread, hlock, hwritten, rfl⟩

end Registry

/-- What an activation answers to be staked was pulled from the caller. -/
theorem Operation.stake_le_pulled {σ : Type} [Store σ] {settings : Settings}
    {world next : World σ Ledger} {caller : Account} {id : ReporterId} {answer : Reporter}
    (h : (Operation.activateReporter caller id).run settings world = .ok (.reporter answer) next) :
    answer.stake.toNat ≤ pulled answer.stakeToken caller settings.custody
      ((Operation.activateReporter caller id).pulls settings world) := by
  -- The activation gives the same answer on the ledger with a record, where it is inverted.
  obtain ⟨next', hrun, -⟩ := ((Operation.activateReporter caller id).agree_audited settings
    world.ledger).exists_ok world.beside_audited h
  have hpulls : (Operation.activateReporter caller id).pulls settings world
      = next'.ledger.pulls := by
    rw [Operation.pulls, left, hrun]
  obtain ⟨reporter, hactivate, hanswer⟩ := run_map_eq_ok_iff.mp hrun
  cases hanswer
  obtain ⟨previous, terms, amount, read, locked, hread, hlock, hnext, rfl⟩ :=
    activateReporter_inv hactivate
  by_cases hamount : 0 < amount
  · have hlocked := pulls_of_lockStake hlock hamount
    rw [hpulls, hnext, hlocked, hread]
    have htoken : (activated previous terms amount).stakeToken = terms.token := if_pos hamount
    rw [htoken, pulled_concat, Pull.share, if_pos rfl]
    exact Nat.le_add_left _ _
  · have hzero : (activated previous terms amount).stake.toNat = 0 :=
      Ledger.toNat_of_not_pos hamount
    rw [hzero]
    exact Nat.zero_le _

/-! ### What a move pulls -/

namespace LedgerCall

/-- What a call pulls. -/
def pulls (ledger : Ledger) : LedgerCall → List Pull
  | .transferFrom token spender payer payee amount =>
    (left (TokenLedger.transferFrom token spender payer payee amount)
      (Audited.start ledger)).pulls
  | .mint _ _ _ | .approve _ _ _ _ | .transfer _ _ _ _ => []

/-- What is left of an allowance after a call that does not set it, and what the call
pulled, make up what it was before. -/
theorem allowance_add_pulled {call : LedgerCall} {token owner spender : Account}
    (hquiet : ∀ amount, call ≠ .approve token owner spender amount) (ledger : Ledger) :
    ((call.apply ledger).allowance token owner spender).toNat
        + pulled token owner spender (call.pulls ledger)
      = (ledger.allowance token owner spender).toNat := by
  cases call with
  | mint token' holder amount => rfl
  | approve token' owner' spender' amount =>
      have hother : (token, owner, spender) ≠ (token', owner', spender') := by
        rintro ⟨⟩
        exact hquiet amount rfl
      exact congrArg BitVec.toNat (Ledger.allowance_withAllowance_of_ne ledger amount hother)
  | transfer token' payer payee amount =>
      simp only [apply, left, TokenLedger.transfer, Ledger.commit]
      cases hmove : ledger.move token' payer payee amount with
      | error error => rfl
      | ok next => exact congrArg BitVec.toNat (Ledger.allowance_of_move hmove token owner spender)
  | transferFrom token' spender' payer payee amount =>
      have hagree := (respects_accounts ledger).transferFrom token' spender' payer payee amount
      exact (hagree.left (Accounts.start ledger)).adds token owner spender

end LedgerCall

namespace Move

variable {σ : Type} [Store σ]

/-- What a registry pulls in a move. -/
def registryPulls (site : Site σ) : Move → List Pull
  | .operate position operation =>
    match site.handles[position]? with
    | some handle => operation.pulls handle.settings (site.world handle)
    | none => []
  | _ => []

/-- All that is pulled in a move. -/
def pulls (site : Site σ) : Move → List Pull
  | .ledger call => call.pulls site.ledger
  | move => move.registryPulls site

/-- The stake that an account locks in a token with a registry of this custody, for one
of its reporters. -/
def staked (token owner custody : Account) (site : Site σ) : Move → Nat
  | .operate position (.activateReporter caller id) =>
    match site.handles[position]? with
    | some handle =>
      match (Operation.activateReporter caller id).outcome? handle.settings (site.world handle) with
      | some (.reporter reporter) =>
        if (reporter.stakeToken, caller, handle.settings.custody) = (token, owner, custody) then
          reporter.stake.toNat
        else 0
      | _ => 0
    | none => 0
  | _ => 0

theorem allowance_add_pulled {move : Move} {token owner spender : Account}
    (hquiet : ∀ amount, move ≠ .ledger (.approve token owner spender amount)) (site : Site σ) :
    ((move.apply site).ledger.allowance token owner spender).toNat
        + pulled token owner spender (move.pulls site)
      = (site.ledger.allowance token owner spender).toNat := by
  cases move with
  | establish settings owner' =>
      simp only [apply, Site.welcome]
      cases Registry.establish settings owner' site.store <;> rfl
  | attach settings =>
      simp only [apply, Site.welcome]
      cases Registry.attach settings site.store <;> rfl
  | operate position operation =>
      simp only [apply, pulls, registryPulls]
      cases site.handles[position]? with
      | none => rfl
      | some handle =>
          exact operation.allowance_add_pulled handle.settings (site.world handle) token owner
            spender
  | ledger call =>
      have hcall : ∀ amount, call ≠ .approve token owner spender amount := by
        rintro amount rfl
        exact hquiet amount rfl
      exact LedgerCall.allowance_add_pulled hcall site.ledger
  | clock change => rfl
  | drain position =>
      simp only [apply]
      cases site.handles[position]? <;> rfl
  | subscribe position =>
      simp only [apply]
      cases site.handles[position]? <;> rfl

/-- A registry pulls what is staked. -/
theorem staked_le (token owner custody : Account) (site : Site σ) (move : Move) :
    move.staked token owner custody site
      ≤ pulled token owner custody (move.registryPulls site) := by
  unfold staked
  split
  · rename_i position caller id
    simp only [registryPulls]
    cases hhandle : site.handles[position]? with
    | none => exact Nat.zero_le _
    | some handle =>
        simp only
        split
        · rename_i reporter houtcome
          split
          · rename_i hsame
            cases hsame
            obtain ⟨next, hrun⟩ := Operation.outcome?_eq_some_iff.mp houtcome
            exact Operation.stake_le_pulled hrun
          · exact Nat.zero_le _
        · exact Nat.zero_le _
  · exact Nat.zero_le _

/-- What a registry pulls is pulled. -/
theorem pulled_registryPulls_le (token owner spender : Account) (site : Site σ) (move : Move) :
    pulled token owner spender (move.registryPulls site)
      ≤ pulled token owner spender (move.pulls site) := by
  cases move with
  | ledger call => exact Nat.zero_le _
  | _ => exact Nat.le_refl _

end Move

/-! ### What a run pulls -/

namespace Site

variable {σ : Type} [Store σ] {token owner spender : Account}

/-- The sum of an amount over the moves of a run. -/
def total (amount : Site σ → Move → Nat) (site : Site σ) (moves : List Move) : Nat :=
  ((site.steps moves).map fun step => amount step.1 step.2).sum

theorem total_cons (amount : Site σ → Move → Nat) (site : Site σ) (move : Move)
    (moves : List Move) :
    site.total amount (move :: moves) = amount site move + (move.apply site).total amount moves :=
  List.sum_cons

theorem total_le_total {amount amount' : Site σ → Move → Nat}
    (h : ∀ site move, amount site move ≤ amount' site move) (site : Site σ) (moves : List Move) :
    site.total amount moves ≤ site.total amount' moves := by
  induction moves generalizing site with
  | nil => exact Nat.le_refl _
  | cons move moves ih =>
      rw [total_cons, total_cons]
      exact Nat.add_le_add (h site move) (ih _)

/-- What is left of an allowance after a run that does not set it, and what was pulled in
the run, make up what it was before. -/
theorem allowance_add_total {moves : List Move}
    (hquiet : ∀ amount, Move.ledger (.approve token owner spender amount) ∉ moves)
    (site : Site σ) :
    ((site.run moves).ledger.allowance token owner spender).toNat
        + site.total (fun site move => pulled token owner spender (move.pulls site)) moves
      = (site.ledger.allowance token owner spender).toNat := by
  induction moves generalizing site with
  | nil => rfl
  | cons move moves ih =>
      have hfirst : ∀ amount, move ≠ .ledger (.approve token owner spender amount) := by
        rintro amount rfl
        exact hquiet amount List.mem_cons_self
      have hmove := Move.allowance_add_pulled hfirst site
      have hrest := ih (fun amount hmem => hquiet amount (List.mem_cons_of_mem _ hmem))
        (move.apply site)
      rw [run_cons, total_cons]
      omega

end Site

/-- **Allowances bound what is pulled.** From the setting of an allowance to its next
setting, whatever registries do on whatever store and whatever else is done with the
ledger, what is left of the allowance and all that was pulled add up to what was
allowed. A move that pulls nothing of it leaves it as it is. All that registries pull is
within what was allowed, and so are all the stakes that the owner locks, over all
reporters and all activations. -/
theorem allowance_bounds_pulls {σ : Type} [Store σ] (site : Site σ)
    (token owner spender : Account) (amount : Amount) {moves : List Move}
    (hquiet : ∀ amount', Move.ledger (.approve token owner spender amount') ∉ moves) :
    let approved := (Move.ledger (.approve token owner spender amount)).apply site
    let after := approved.run moves
    (after.ledger.allowance token owner spender).toNat
        + approved.total (fun site move => pulled token owner spender (move.pulls site)) moves
      = amount.toNat ∧
    (∀ move : Move, (∀ amount', move ≠ .ledger (.approve token owner spender amount')) →
      pulled token owner spender (move.pulls after) = 0 →
        (move.apply after).ledger.allowance token owner spender
          = after.ledger.allowance token owner spender) ∧
    approved.total (fun site move => pulled token owner spender (move.registryPulls site)) moves
      ≤ amount.toNat ∧
    approved.total (fun site move => move.staked token owner spender site) moves
      ≤ approved.total
          (fun site move => pulled token owner spender (move.registryPulls site)) moves := by
  intro approved after
  have hallowed : approved.ledger.allowance token owner spender = amount :=
    Ledger.allowance_withAllowance_self site.ledger token owner spender amount
  have hadds := Site.allowance_add_total hquiet approved
  rw [hallowed] at hadds
  refine ⟨hadds, ?_, ?_, ?_⟩
  · intro move hmove hnone
    have hkept := Move.allowance_add_pulled hmove after
    rw [hnone, Nat.add_zero] at hkept
    exact BitVec.eq_of_toNat_eq hkept
  · have hregistry := Site.total_le_total (Move.pulled_registryPulls_le token owner spender)
      approved moves
    omega
  · exact Site.total_le_total (Move.staked_le token owner spender) approved moves

/-- In the sample run, the worker allows for eight and locks a stake of five. Three are
left when it tries to lock another. -/
theorem allowance_bounds_pulls_sample :
    let approved :=
      (Move.ledger (.approve Sample.token Sample.worker Sample.custody 8)).apply Sample.site
    (∀ amount, Move.ledger (.approve Sample.token Sample.worker Sample.custody amount)
      ∉ Sample.moves) ∧
    ((approved.run Sample.moves).ledger.allowance Sample.token Sample.worker Sample.custody).toNat
        + approved.total (fun site move =>
            pulled Sample.token Sample.worker Sample.custody (move.pulls site)) Sample.moves = 8 ∧
    approved.total (fun site move =>
      move.staked Sample.token Sample.worker Sample.custody site) Sample.moves = 5 := by
  intro approved
  have hquiet : ∀ amount, Move.ledger (.approve Sample.token Sample.worker Sample.custody amount)
      ∉ Sample.moves := by
    intro amount
    simp [Sample.moves]
  have hbounds := allowance_bounds_pulls Sample.site Sample.token Sample.worker Sample.custody 8
    hquiet
  exact ⟨hquiet, hbounds.1, by decide +kernel⟩

end ReporterRegistry
