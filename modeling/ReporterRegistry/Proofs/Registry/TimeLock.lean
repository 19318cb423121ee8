import ReporterRegistry.Proofs.Registry.Run

/-!
# The time lock

A stake that was given up may be withdrawn after the duration that was configured at
that moment. What is configured later makes no difference, and neither does the way
the clock goes in between, also backwards: what counts is its reading at the withdrawal.

`UnlocksAt` says when that is by looking only at the deactivations that succeeded
(`World.deactivations`), not at any record. The record of a reporter that waits for its
stake agrees with them (`Awaiting`): a deactivation makes it so, and nothing that comes
after, short of taking the reporter out of its waiting, writes the unlock time.
-/

namespace ReporterRegistry

/-! ### Deactivations -/

section

variable {σ : Type} [Store σ] {settings : Settings} {id : ReporterId} {world : World σ Ledger}

/-- The world in which a turn deactivates a reporter, if the turn does so. -/
def Turn.deactivation (settings : Settings) (id : ReporterId) (world : World σ Ledger) :
    Turn → List (World σ Ledger)
  | .operate (.deactivateReporter caller other) =>
    if other = id ∧
        ((Operation.deactivateReporter caller other).outcome? settings world).isSome then
      [world]
    else []
  | _ => []

/-- The worlds in which a reporter is deactivated in a run, in order. -/
def World.deactivations (settings : Settings) (id : ReporterId) (world : World σ Ledger) :
    List Turn → List (World σ Ledger)
  | [] => []
  | turn :: turns =>
    turn.deactivation settings id world
      ++ deactivations settings id (turn.apply settings world) turns

theorem Turn.deactivation_of_ne {turn : Turn}
    (h : ∀ caller, turn ≠ .operate (.deactivateReporter caller id)) :
    turn.deactivation settings id world = [] := by
  cases turn with
  | operate operation =>
      cases operation with
      | deactivateReporter caller other =>
          have hother : other ≠ id := by
            rintro rfl
            exact h caller rfl
          exact if_neg fun hc => hother hc.1
      | _ => rfl
  | _ => rfl

theorem Turn.deactivation_of_error {operation : Operation} {error : RegistryError}
    {next : World σ Ledger} (h : operation.run settings world = .error error next) :
    (Turn.operate operation).deactivation settings id world = [] := by
  cases operation with
  | deactivateReporter caller other => simp [Turn.deactivation, Operation.outcome?, h]
  | _ => rfl

theorem Turn.deactivation_of_ok {caller : Account} {outcome : Outcome} {next : World σ Ledger}
    (h : (Operation.deactivateReporter caller id).run settings world = .ok outcome next) :
    (Turn.operate (.deactivateReporter caller id)).deactivation settings id world = [world] := by
  simp [Turn.deactivation, Operation.outcome?, h]

/-! ### The lock -/

/-- After these deactivations, a stake may be withdrawn from this time on: what the last
of them read of the clock, and the duration that was stored then. The sum does not wrap
around, and stops at the greatest time that stores keep. -/
def UnlocksAt (past : List (World σ Ledger)) (time : Nat) : Prop :=
  ∃ before config, past.getLast? = some before ∧
    Store.configuration before.store = .ok (some config) before.store ∧
    time = min (before.now.toNat + config.stake.unlockDuration.toNat) maxSeconds.toNat

theorem UnlocksAt.unique {past : List (World σ Ledger)} {time time' : Nat}
    (h : UnlocksAt past time) (h' : UnlocksAt past time') : time = time' := by
  obtain ⟨before, config, hlast, hconfig, rfl⟩ := h
  obtain ⟨before', config', hlast', hconfig', rfl⟩ := h'
  rw [hlast] at hlast'
  cases hlast'
  rw [hconfig] at hconfig'
  cases hconfig'
  rfl

/-- At the end of a run, stakes are withdrawn when they are unlocked and not earlier. -/
structure TimeLocked (settings : Settings) (start : World σ Ledger) (turns : List Turn) :
    Prop where
  /-- A withdrawal that succeeds has waited. -/
  waited : ∀ {caller : Account} {id : ReporterId} {outcome : Outcome} {next : World σ Ledger},
    (Operation.unstakeReporter caller id).run settings (start.run settings turns)
        = .ok outcome next →
      ∃ time, UnlocksAt (start.deactivations settings id turns) time ∧
        time ≤ (start.run settings turns).now.toNat
  /-- A reporter that waits for its stake knows for how long. -/
  awaited : ∀ {id : ReporterId} {reporter : Reporter},
    Store.reporter id (start.run settings turns).store
        = .ok (some reporter) (start.run settings turns).store →
      reporter.status = .unstaking →
      ∃ time, UnlocksAt (start.deactivations settings id turns) time
  /-- From then on, nobody is told to wait. -/
  unlocked : ∀ {id : ReporterId} {time : Nat},
    UnlocksAt (start.deactivations settings id turns) time →
      time ≤ (start.run settings turns).now.toNat →
      ∀ caller other pending next,
        (Operation.unstakeReporter caller id).run settings (start.run settings turns)
          ≠ .error (.unlockPending other pending) next

end

/-! ### Waiting reporters -/

/-- If the reporter waits for its stake, it is until the time that its last deactivation
set. -/
def Awaiting {σ : Type} [Store σ] (id : ReporterId) (past : List (World σ Ledger))
    (records : MemoryStore) : Prop :=
  ∀ reporter, records.reporters.get? id = some reporter → reporter.status = .unstaking →
    UnlocksAt past reporter.unlockTime.toNat

namespace Awaiting

variable {σ : Type} [Store σ] {settings : Settings} {id : ReporterId}
  {past : List (World σ Ledger)} {store : MemoryStore}

theorem withReporter (h : Awaiting id past store) {reporter : Reporter}
    (hstatus : reporter.id = id → reporter.status ≠ .unstaking) :
    Awaiting id past (store.withReporter reporter) := by
  intro found hfound hunstaking
  rcases MemoryStore.get?_withReporter_cases hfound with ⟨hid, rfl⟩ | ⟨-, hfound⟩
  · exact absurd hunstaking (hstatus hid.symm)
  · exact h found hfound hunstaking

/-- Only a deactivation makes a reporter wait. -/
theorem grant {records : World MemoryStore Ledger} {operation : Operation} {change : Change}
    (h : Awaiting id past records.store) (hsound : records.store.Sound)
    (hgrant : Grant settings records operation change)
    (hne : ∀ caller, operation ≠ .deactivateReporter caller id) :
    Awaiting id past change.store := by
  cases hgrant with
  | setAuthority => exact h
  | updateStakeTerms => exact h
  | updateRewardTerms => exact h
  | createReporter => exact h.withReporter nofun
  | updateReporter => exact h.withReporter nofun
  | activateReporter => exact h.withReporter nofun
  | deactivateReporter _ hprevious =>
      obtain rfl := hsound.keyed hprevious
      refine h.withReporter ?_
      rintro rfl
      exact absurd rfl (hne _)
  | unstakeReporter => exact h.withReporter nofun

variable [RecordStore σ] {records : World MemoryStore Ledger} {world : World σ Ledger}

/-- A deactivation sets the unlock time by the clock and the configuration that it reads. -/
theorem deactivate (hshows : Shows records world) {caller : Account} {change : Change}
    (hgrant : Grant settings records (.deactivateReporter caller id) change) :
    Awaiting id (past ++ [world]) change.store := by
  cases hgrant with
  | @deactivateReporter _ config previous hconfig hprevious =>
      intro reporter hfound _
      have hid := (RecordStore.sound hshows.holds).keyed hprevious
      rcases MemoryStore.get?_withReporter_cases hfound with ⟨-, rfl⟩ | ⟨hne, -⟩
      · have hread : Store.configuration world.store = .ok (some config) world.store := by
          rw [RecordStore.configuration hshows.holds, hconfig]
        refine ⟨world, config, List.getLast?_concat, hread, ?_⟩
        rw [hshows.now]
        exact StakeTerms.toNat_unlockAt config.stake records.now
      · exact absurd hid.symm hne

/-- **Every turn keeps waiting reporters in agreement** with the deactivations. -/
theorem effect (h : Awaiting id past records.store) (hshows : Shows records world) {turn : Turn}
    {next : World MemoryStore Ledger} (heffect : ShownEffect settings records world turn next) :
    Awaiting id (past ++ turn.deactivation settings id world) next.store := by
  cases heffect with
  | refused hrun =>
      rw [Turn.deactivation_of_error hrun, List.append_nil]
      exact h
  | @granted operation change _ hverdict hrun =>
      have hgrant := grant_of_verdict hverdict
      by_cases hdeactivate : ∃ caller, operation = .deactivateReporter caller id
      · obtain ⟨caller, rfl⟩ := hdeactivate
        rw [Turn.deactivation_of_ok hrun]
        exact deactivate hshows hgrant
      · have hne : ∀ caller, operation ≠ .deactivateReporter caller id := fun caller heq =>
          hdeactivate ⟨caller, heq⟩
        have hnone : (Turn.operate operation).deactivation settings id world = [] :=
          Turn.deactivation_of_ne fun caller heq => hne caller (Turn.operate.inj heq)
        rw [hnone, List.append_nil]
        exact h.grant (RecordStore.sound hshows.holds) hgrant hne
  | aside hturn hstore =>
      rw [Turn.deactivation_of_ne fun caller => hturn _, List.append_nil, hstore]
      exact h

/-- **They agree after every run.** -/
theorem run (h : Awaiting id past records.store) (hshows : Shows records world)
    {turns : List Turn} (hfits : ∀ turn ∈ turns, turn.Fits σ settings) :
    ∃ records', Shows records' (world.run settings turns) ∧
      Awaiting id (past ++ world.deactivations settings id turns) records'.store := by
  induction turns generalizing records world past with
  | nil =>
      refine ⟨records, hshows, ?_⟩
      rw [World.deactivations, List.append_nil]
      exact h
  | cons turn turns ih =>
      obtain ⟨hfirst, hrest⟩ := List.forall_mem_cons.mp hfits
      obtain ⟨next, heffect, hnext⟩ := hshows.effect hfirst
      have hrun := ih (h.effect hshows heffect) hnext hrest
      rw [List.append_assoc] at hrun
      exact hrun

end Awaiting

/-! ### Runs -/

/-- Only a reporter whose unlock time is to come is told to wait. -/
theorem waits_of_verdict {settings : Settings} {world : World MemoryStore Ledger}
    {caller : Account} {id other : ReporterId} {pending : Seconds}
    (h : (Operation.unstakeReporter caller id).verdict settings world
      = .error (.unlockPending other pending)) :
    ∃ reporter, world.store.reporters.get? id = some reporter ∧
      reporter.status = .unstaking ∧ world.now < reporter.unlockTime := by
  simp only [Operation.verdict, bind_eq_error_iff, throwIf_eq_error_iff,
    World.configuration_eq_ok_iff, World.configuration_eq_error_iff, World.reporter_eq_ok_iff,
    World.reporter_eq_error_iff, checkStanding_eq_error_iff, reduceCtorEq, and_false,
    false_or] at h
  obtain ⟨config, -, reporter, hfound, -, -, hstatus, ⟨hlt, -⟩ | ⟨-, -, hrelease | hpaid⟩⟩ := h
  · exact ⟨reporter, hfound, Decidable.not_not.mp hstatus, hlt⟩
  · -- The ledger does not tell anybody to wait.
    obtain ⟨cause, hcause⟩ := Ledger.exists_ofToken_of_release hrelease
    cases cause <;> cases hcause
  · obtain ⟨ledger, -, hpaid⟩ := hpaid
    cases hpaid

/-- A registry that shows no reporters is time-locked from then on. -/
theorem TimeLocked.of_shows {σ : Type} [Store σ] [RecordStore σ] {settings : Settings}
    {records : World MemoryStore Ledger} {start : World σ Ledger} (hshows : Shows records start)
    (hnone : ∀ id, records.store.reporters.get? id = none) {turns : List Turn}
    (hfits : ∀ turn ∈ turns, turn.Fits σ settings) : TimeLocked settings start turns := by
  have hrun : ∀ id, ∃ records', Shows records' (start.run settings turns) ∧
      Awaiting id (start.deactivations settings id turns) records'.store := by
    intro id
    have hempty : Awaiting id ([] : List (World σ Ledger)) records.store := by
      intro reporter hfound
      rw [hnone id] at hfound
      cases hfound
    exact hempty.run hshows hfits
  constructor
  · intro caller id outcome next hok
    obtain ⟨records', hshows', hawaiting⟩ := hrun id
    obtain ⟨change, hgrant⟩ := hshows'.grant_of_ok hok
    cases hgrant with
    | unstakeReporter _ hprevious hstatus htime =>
        rw [hshows'.now]
        exact ⟨_, hawaiting _ hprevious hstatus, BitVec.not_lt.mp htime⟩
  · intro id reporter hread hstatus
    obtain ⟨records', hshows', hawaiting⟩ := hrun id
    rcases RecordStore.reporter hshows'.holds id with hfound | ⟨error, hrefused⟩
    · rw [hfound, EStateM.Result.ok.injEq] at hread
      exact ⟨_, hawaiting reporter hread.1 hstatus⟩
    · rw [hrefused] at hread
      cases hread
  · intro id time htime hle caller other pending next herror
    obtain ⟨records', hshows', hawaiting⟩ := hrun id
    rcases hshows'.verdict_of_error herror with ⟨refusal, hrefusal⟩ | hverdict
    · cases hrefusal
    obtain ⟨reporter, hfound, hstatus, hlt⟩ := waits_of_verdict hverdict
    have hsame := htime.unique (hawaiting reporter hfound hstatus)
    rw [hshows'.now, hsame] at hle
    exact Nat.not_lt_of_le hle hlt

/-- **The time lock.** In every run of a registry that was started on an empty store, a
stake is withdrawn at the earliest when it unlocks: at the time that its last
deactivation read of the clock, and the duration that it found in the configuration. From
then on the reporter is not told to wait. -/
theorem timeLocked_run (settings : Settings) (owner : Account) (ledger : Ledger) (now : Seconds)
    (turns : List Turn) :
    (∀ store, Registry.establish settings owner MemoryStore.empty = .ok () store →
      TimeLocked settings (⟨store, ledger, now, .empty⟩ : World MemoryStore Ledger) turns) ∧
    ∀ db, Registry.establish settings owner Database.fresh = .ok () db → owner.Sized →
      (∀ turn ∈ turns, turn.Sized) →
      TimeLocked settings (⟨db, ledger, now, .empty⟩ : World Database Ledger) turns := by
  have hnone : ∀ id, (World.started owner ledger now).store.reporters.get? id = none :=
    OrderedMap.get?_empty
  constructor
  · intro store hstart
    rw [eq_started_of_establish hstart]
    have hshows := Shows.refl (World.sound_started owner ledger now)
    exact TimeLocked.of_shows hshows hnone fun turn _ => Turn.fits_memory settings turn
  · intro db hstart howner hturns
    have hshows := shows_started_of_establish hstart howner ledger now
    exact TimeLocked.of_shows hshows hnone fun turn hmem => Turn.fits_of_sized (hturns turn hmem)

/-- After the sample run, in which a stake is given up at time zero with a duration of
ten, the duration is raised and the clock is set back to nine and then to ten. At nine
the withdrawal is refused, and at ten it goes through, over both stores. -/
theorem timeLocked_run_sample :
    let early := Sample.beforeWithdrawal ++
      [.operate (.updateStakeTerms Sample.owner ⟨Sample.token, 1000, 5, 5, 5, 5⟩), .clock (.set 9)]
    let turns := early ++ [.clock (.set 10)]
    let operation : Operation := .unstakeReporter Sample.worker Sample.id
    operation.outcome? Sample.settings (Sample.databaseWorld.run Sample.settings early) = none ∧
      operation.outcome? Sample.settings (Sample.databaseWorld.run Sample.settings turns)
        = some (.amount 5) ∧
      (∃ time, UnlocksAt
          (Sample.databaseWorld.deactivations Sample.settings Sample.id turns) time ∧ time ≤ 10) ∧
      TimeLocked Sample.settings Sample.world turns := by
  intro early turns operation
  have hlock := timeLocked_run Sample.settings Sample.owner Sample.ledger 0 turns
  have htoken : Sample.token.Sized := Sample.sized_single 4
  have hturns : ∀ turn ∈ turns, turn.Sized := by
    simp only [turns, early, List.forall_mem_append]
    exact ⟨⟨Sample.sized_beforeWithdrawal, by simp [Turn.Sized, Operation.Sized, htoken]⟩,
      by simp [Turn.Sized]⟩
  have houtcome : operation.outcome? Sample.settings
      (Sample.databaseWorld.run Sample.settings turns) = some (.amount 5) := by decide +kernel
  obtain ⟨next, hrun⟩ := Operation.outcome?_eq_some_iff.mp houtcome
  have hdatabase := hlock.2 Sample.databaseWorld.store Sample.established_database
    Sample.sized_owner hturns
  exact ⟨by decide +kernel, houtcome, hdatabase.waited hrun,
    hlock.1 Sample.world.store Sample.established⟩

end ReporterRegistry
