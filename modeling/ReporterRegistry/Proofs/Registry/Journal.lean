import ReporterRegistry.Proofs.Registry.Run

/-!
# The journal determines the state

A registry that is replayed from its journal, starting with nothing but the owner, is
the registry that is stored: its configuration, its reporters in the order of their
creation, and all that is kept of each but its name and url.

A `Replica` is what the journal tells. It is changed by one event at a time
(`Replica.apply`), with no regard to how the registry came to announce it. One granted
operation changes what is stored as its event changes the replica (`Grant.replica?`);
an operation that is refused announces nothing and changes nothing.
-/

namespace ReporterRegistry

/-! ### Replicas -/

/-- What the journal tells of a reporter. -/
structure ReporterState where
  account : Account
  role : Role
  status : Status
  stake : Amount
  stakeToken : Account
  unlockTime : Seconds
  deriving DecidableEq, Repr

namespace ReporterState

/-- Inactive, with nothing staked. -/
def reset (state : ReporterState) : ReporterState :=
  { state with
    status := .inactive
    stake := 0
    stakeToken := .zero state.account.format
    unlockTime := 0 }

/-- A reporter that was just created. -/
def fresh (account : Account) (role : Role) : ReporterState where
  account := account
  role := role
  status := .inactive
  stake := 0
  stakeToken := .zero account.format
  unlockTime := 0

end ReporterState

/-- What the journal tells of a registry. -/
structure Replica where
  config : Configuration
  /-- In the order of their creation. -/
  reporters : List (ReporterId × ReporterState)
  deriving DecidableEq, Repr

namespace Replica

/-- A registry that has announced nothing. -/
def start (owner : Account) : Replica := ⟨.new owner, []⟩

/-- The replica with one reporter changed in its place. -/
def alter (replica : Replica) (id : ReporterId) (change : ReporterState → ReporterState) :
    Replica :=
  { replica with
    reporters := replica.reporters.map fun entry =>
      if entry.1 = id then (id, change entry.2) else entry }

/-- The replica after an event. -/
def apply (replica : Replica) : Event → Replica
  | .authorityChanged authority =>
    { replica with config := { replica.config with authority := authority } }
  | .stakeTermsChanged terms => { replica with config := { replica.config with stake := terms } }
  | .rewardTermsChanged terms => { replica with config := { replica.config with reward := terms } }
  | .reporterCreated id account role =>
    { replica with reporters := replica.reporters ++ [(id, .fresh account role)] }
  | .reporterUpdated id account role =>
    replica.alter id fun state => { state with account := account, role := role }.reset
  | .reporterActivated id _ stake =>
    replica.alter id fun state =>
      { state with
        status := .active
        stake := stake
        stakeToken := if 0 < stake then replica.config.stake.token else state.stakeToken
        unlockTime := 0 }
  | .reporterDeactivated id unlockTime =>
    replica.alter id fun state => { state with status := .unstaking, unlockTime := unlockTime }
  | .stakeWithdrawn id _ _ => replica.alter id ReporterState.reset

/-- The replica after some events. -/
def replay (replica : Replica) (events : List Event) : Replica := events.foldl apply replica

theorem replay_concat (replica : Replica) (events : List Event) (event : Event) :
    replica.replay (events ++ [event]) = (replica.replay events).apply event := by
  rw [replay, List.foldl_append]
  rfl

end Replica

/-! ### What is stored -/

/-- All that is kept of a reporter but its name and url. -/
def Reporter.state (reporter : Reporter) : ReporterState where
  account := reporter.account
  role := reporter.role
  status := reporter.status
  stake := reporter.stake
  stakeToken := reporter.stakeToken
  unlockTime := reporter.unlockTime

namespace MemoryStore

/-- All that is stored but names and urls, if there is a configuration. -/
def replica? (store : MemoryStore) : Option Replica :=
  store.config.map fun config =>
    ⟨config, store.reporters.values.map fun reporter => (reporter.id, reporter.state)⟩

variable {store : MemoryStore} {replica : Replica} {reporter : Reporter}

theorem replica?_withConfiguration (h : store.replica? = some replica) (config : Configuration) :
    (store.withConfiguration config).replica? = some { replica with config := config } := by
  obtain ⟨_, -, rfl⟩ := Option.map_eq_some_iff.mp h
  rfl

/-- A new reporter comes last. -/
theorem replica?_withReporter_of_none (h : store.replica? = some replica)
    (hnew : store.reporters.get? reporter.id = none) :
    (store.withReporter reporter).replica? = some
      { replica with reporters := replica.reporters ++ [(reporter.id, reporter.state)] } := by
  obtain ⟨config, hconfig, rfl⟩ := Option.map_eq_some_iff.mp h
  simp only [replica?, config_withReporter, hconfig, Option.map_some, reporters_withReporter,
    OrderedMap.values_insert_of_none reporter hnew, List.map_append, List.map_singleton]

/-- A reporter that exists is changed in its place. -/
theorem replica?_withReporter_of_some (h : store.replica? = some replica) (hsound : store.Sound)
    {previous : Reporter} (hprevious : store.reporters.get? previous.id = some previous)
    (hid : reporter.id = previous.id) {change : ReporterState → ReporterState}
    (hchange : reporter.state = change previous.state) :
    (store.withReporter reporter).replica? = some (replica.alter previous.id change) := by
  rw [← hid] at hprevious ⊢
  obtain ⟨config, hconfig, rfl⟩ := Option.map_eq_some_iff.mp h
  simp only [replica?, config_withReporter, hconfig, Option.map_some, Replica.alter,
    hsound.values_withReporter hprevious, List.map_map]
  congr 2
  refine List.map_congr_left ?_
  intro found hmem
  by_cases hid : found.id = reporter.id
  · -- Only one reporter stands under an id.
    obtain ⟨id, hfound⟩ := OrderedMap.mem_values.mp hmem
    have hsame := hsound.get?_id hfound
    rw [hid, hprevious] at hsame
    cases hsame
    simp [hid, hchange]
  · simp [hid]

end MemoryStore

/-! ### Operations and events -/

/-- **A granted operation changes what is stored as its event changes the replica.** -/
theorem Grant.replica? {settings : Settings} {world : World MemoryStore Ledger}
    {operation : Operation} {change : Change} {replica : Replica}
    (hgrant : Grant settings world operation change) (hsound : world.store.Sound)
    (h : world.store.replica? = some replica) :
    change.store.replica? = some (replica.apply change.event) := by
  obtain ⟨config, hconfig, hreplica⟩ := Option.map_eq_some_iff.mp h
  have hsame : ∀ {config' : Configuration}, world.store.config = some config' →
      config' = replica.config := by
    intro config' hconfig'
    rw [← hreplica]
    exact Option.some.inj (hconfig'.symm.trans hconfig)
  cases hgrant with
  | setAuthority hconfig' =>
      obtain rfl := hsame hconfig'
      exact MemoryStore.replica?_withConfiguration h _
  | updateStakeTerms hconfig' =>
      obtain rfl := hsame hconfig'
      exact MemoryStore.replica?_withConfiguration h _
  | updateRewardTerms hconfig' =>
      obtain rfl := hsame hconfig'
      exact MemoryStore.replica?_withConfiguration h _
  | createReporter _ _ _ hnew => exact MemoryStore.replica?_withReporter_of_none h hnew
  | updateReporter _ _ _ hprevious =>
      obtain rfl := hsound.keyed hprevious
      rw [Replica.apply]
      refine MemoryStore.replica?_withReporter_of_some h hsound hprevious ?_ ?_
      · rfl
      · rfl
  | activateReporter hconfig' hprevious =>
      obtain rfl := hsound.keyed hprevious
      obtain rfl := hsame hconfig'
      rw [Replica.apply]
      refine MemoryStore.replica?_withReporter_of_some h hsound hprevious ?_ ?_
      · rfl
      · rfl
  | deactivateReporter _ hprevious =>
      obtain rfl := hsound.keyed hprevious
      rw [Replica.apply]
      refine MemoryStore.replica?_withReporter_of_some h hsound hprevious ?_ ?_
      · rfl
      · rfl
  | unstakeReporter _ hprevious =>
      obtain rfl := hsound.keyed hprevious
      rw [Replica.apply]
      refine MemoryStore.replica?_withReporter_of_some h hsound hprevious ?_ ?_
      · rfl
      · rfl

/-! ### Runs -/

section

variable {σ : Type} [Store σ]

/-- What a turn takes out of the journal. -/
def Turn.drained (world : World σ Ledger) : Turn → List Event
  | .drain => world.outbox.drain.1
  | _ => []

/-- What a run takes out of the journal. -/
def World.drained (settings : Settings) (world : World σ Ledger) : List Turn → List Event
  | [] => []
  | turn :: turns => turn.drained world ++ drained settings (turn.apply settings world) turns

/-- All that is announced in a run: what was taken out of the journal, and what is left
in it. -/
def World.announced (settings : Settings) (world : World σ Ledger) (turns : List Turn) :
    List Event :=
  world.drained settings turns ++ (world.run settings turns).outbox.journal

end

/-- What is stored is what the journal tells, after what was taken out of it. -/
def Told (replica : Replica) (taken : List Event) (world : World MemoryStore Ledger) : Prop :=
  world.store.replica? = some (replica.replay (taken ++ world.outbox.journal))

namespace Told

variable {settings : Settings} {replica : Replica} {taken : List Event}
  {world : World MemoryStore Ledger}

/-- **Every turn keeps the journal in step with the store.** -/
theorem apply (h : Told replica taken world) (hsound : world.store.Sound) {turn : Turn}
    (hturn : turn ≠ .reopen) :
    Told replica (taken ++ turn.drained world) (turn.apply settings world) := by
  cases turn with
  | operate operation =>
      have heffect := effect_apply settings hsound (.operate operation)
      rw [Turn.drained, List.append_nil]
      · generalize (Turn.operate operation).apply settings world = next at heffect
        cases heffect with
        | refused => exact h
        | granted hgrant =>
            have hnext := hgrant.replica? hsound h
            rw [← Replica.replay_concat, List.append_assoc] at hnext
            exact hnext
        | aside hturn => exact absurd rfl (hturn operation)
      · simp
  | ledger call => exact (List.append_nil taken).symm ▸ h
  | clock change => exact (List.append_nil taken).symm ▸ h
  | drain =>
      show world.store.replica? = some (replica.replay ((taken ++ world.outbox.journal) ++ []))
      rw [List.append_nil]
      exact h
  | subscribe => exact (List.append_nil taken).symm ▸ h
  | reopen => exact absurd rfl hturn

theorem run (h : Told replica taken world) (hsound : world.store.Sound) {turns : List Turn}
    (hturns : .reopen ∉ turns) :
    Told replica (taken ++ world.drained settings turns) (world.run settings turns) := by
  induction turns generalizing world taken with
  | nil => exact (List.append_nil taken).symm ▸ h
  | cons turn turns ih =>
      obtain ⟨hfirst, hrest⟩ := not_or.mp (List.mem_cons.not.mp hturns)
      have heffect := effect_apply settings hsound turn
      have hnext := ih (h.apply hsound (Ne.symm hfirst)) (heffect.sound hsound) hrest
      rw [List.append_assoc] at hnext
      exact hnext

end Told

/-- **The journal determines the state.** In every run of a registry that was started on
an empty store in memory, all that is stored but names and urls is what a replay of all
that was announced gives, starting with the first configuration and no reporters. -/
theorem replica_eq_replay {settings : Settings} {owner : Account} {store : MemoryStore}
    (hstart : Registry.establish settings owner MemoryStore.empty = .ok () store)
    (ledger : Ledger) (now : Seconds) {turns : List Turn} (hturns : .reopen ∉ turns) :
    let world : World MemoryStore Ledger := ⟨store, ledger, now, .empty⟩
    (world.run settings turns).store.replica?
      = some ((Replica.start owner).replay (world.announced settings turns)) := by
  intro world
  have hworld : world = World.started owner ledger now := eq_started_of_establish hstart ledger now
  have htold : Told (.start owner) [] (World.started owner ledger now) := rfl
  rw [hworld]
  exact htold.run (World.sound_started owner ledger now) hturns

/-- The sample run is drained before the withdrawal at its end, which fails at first and
then goes through. What it announced are five events before the drain and one after it. -/
theorem replica_eq_replay_sample :
    let turns := Sample.beforeOverflow ++
      [.operate (.unstakeReporter Sample.worker Sample.id), .drain,
        .ledger (.transfer Sample.token Sample.worker Sample.owner 8),
        .operate (.unstakeReporter Sample.worker Sample.id)]
    .reopen ∉ turns ∧ (Sample.world.drained Sample.settings turns).length = 5 ∧
      (Sample.world.announced Sample.settings turns).length = 6 ∧
      (Sample.world.run Sample.settings turns).store.replica?
        = some ((Replica.start Sample.owner).replay
            (Sample.world.announced Sample.settings turns)) := by
  intro turns
  have hturns : .reopen ∉ turns := by decide
  exact ⟨hturns, by decide +kernel, by decide +kernel,
    replica_eq_replay Sample.established Sample.ledger 0 hturns⟩

end ReporterRegistry
