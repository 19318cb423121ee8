import ReporterRegistry.Proofs.Registry.Site

/-!
# What governs a registry

From the first start on, a store has one owner, and what else is configured is what was
last decided: the authority, the stake terms and the reward terms are the arguments of
the last operations that set them, each as a whole. All of it is of the format of the
first settings, since no registry of another format can take over the store.

Every operation rewrites the whole configuration, so the induction is on the run, with
the operations that succeeded as its log (`Ruled.run`).
-/

namespace ReporterRegistry

open Registry RecordStore
open Session (Handle)

/-! ### What was decided -/

namespace Operation

/-- The authority that the operation installs. -/
def authority? : Operation → Option Account
  | .setAuthority _ authority => some authority
  | _ => none

/-- The stake terms that the operation sets. -/
def stakeTerms? : Operation → Option StakeTerms
  | .updateStakeTerms _ terms => some terms
  | _ => none

/-- The reward terms that the operation sets. -/
def rewardTerms? : Operation → Option RewardTerms
  | .updateRewardTerms _ terms => some terms
  | _ => none

end Operation

/-- The last of the decisions in a log, or what stood at first. -/
def lastDecided {α : Type} (decision? : Operation → Option α) (log : List Operation) (first : α) :
    α :=
  (log.filterMap decision?).getLast?.getD first

theorem lastDecided_concat_of_some {α : Type} (decision? : Operation → Option α)
    {operation : Operation} {decision : α} (h : decision? operation = some decision)
    (log : List Operation) (first : α) :
    lastDecided decision? (log ++ [operation]) first = decision := by
  simp [lastDecided, h]

theorem lastDecided_concat_of_none {α : Type} (decision? : Operation → Option α)
    {operation : Operation} (h : decision? operation = none) (log : List Operation) (first : α) :
    lastDecided decision? (log ++ [operation]) first = lastDecided decision? log first := by
  simp [lastDecided, h]

/-- The configuration that an owner began, after the operations of a log. -/
structure Governed (format : AddressFormat) (owner : Account) (log : List Operation)
    (config : Configuration) : Prop where
  owner_eq : config.owner = owner
  authority_eq : config.authority = lastDecided Operation.authority? log owner
  stake_eq : config.stake = lastDecided Operation.stakeTerms? log (.unset format)
  reward_eq : config.reward = lastDecided Operation.rewardTerms? log (.unset format)
  owner_format : config.owner.format = format
  authority_isZero : config.authority.isZero = false
  authority_format : config.authority.format = format
  stakeToken_format : config.stake.token.format = format
  rewardToken_format : config.reward.token.format = format
  unlockDuration_le : config.stake.unlockDuration ≤ maxSeconds

namespace Governed

variable {format : AddressFormat} {owner : Account} {log : List Operation} {config : Configuration}
  {operation : Operation}

/-- What an owner begins with. -/
theorem new (hformat : owner.format = format) (hzero : owner.isZero = false) :
    Governed format owner [] (.new owner) where
  owner_eq := rfl
  authority_eq := rfl
  stake_eq := congrArg StakeTerms.unset hformat
  reward_eq := congrArg RewardTerms.unset hformat
  owner_format := hformat
  authority_isZero := hzero
  authority_format := hformat
  stakeToken_format := hformat
  rewardToken_format := hformat
  unlockDuration_le := by
    show (0 : Seconds) ≤ maxSeconds
    decide

/-- An operation that decides nothing leaves the configuration what it was. -/
theorem concat (h : Governed format owner log config) (hauthority : operation.authority? = none)
    (hstake : operation.stakeTerms? = none) (hreward : operation.rewardTerms? = none) :
    Governed format owner (log ++ [operation]) config :=
  { h with
    authority_eq := by rw [lastDecided_concat_of_none _ hauthority, h.authority_eq]
    stake_eq := by rw [lastDecided_concat_of_none _ hstake, h.stake_eq]
    reward_eq := by rw [lastDecided_concat_of_none _ hreward, h.reward_eq] }

theorem setAuthority (h : Governed format owner log config) (caller : Account)
    {authority : Account} (hformat : authority.format = format)
    (hzero : authority.isZero = false) :
    Governed format owner (log ++ [.setAuthority caller authority])
      { config with authority := authority } :=
  { h with
    authority_eq := (lastDecided_concat_of_some Operation.authority? rfl log owner).symm
    stake_eq := by rw [lastDecided_concat_of_none _ rfl, h.stake_eq]
    reward_eq := by rw [lastDecided_concat_of_none _ rfl, h.reward_eq]
    authority_isZero := hzero
    authority_format := hformat }

theorem updateStakeTerms (h : Governed format owner log config) (caller : Account)
    {terms : StakeTerms} (hformat : terms.token.format = format)
    (hduration : terms.unlockDuration ≤ maxSeconds) :
    Governed format owner (log ++ [.updateStakeTerms caller terms])
      { config with stake := terms } :=
  { h with
    authority_eq := by rw [lastDecided_concat_of_none _ rfl, h.authority_eq]
    stake_eq := (lastDecided_concat_of_some Operation.stakeTerms? rfl log (.unset format)).symm
    reward_eq := by rw [lastDecided_concat_of_none _ rfl, h.reward_eq]
    stakeToken_format := hformat
    unlockDuration_le := hduration }

theorem updateRewardTerms (h : Governed format owner log config) (caller : Account)
    {terms : RewardTerms} (hformat : terms.token.format = format) :
    Governed format owner (log ++ [.updateRewardTerms caller terms])
      { config with reward := terms } :=
  { h with
    authority_eq := by rw [lastDecided_concat_of_none _ rfl, h.authority_eq]
    stake_eq := by rw [lastDecided_concat_of_none _ rfl, h.stake_eq]
    reward_eq := (lastDecided_concat_of_some Operation.rewardTerms? rfl log (.unset format)).symm
    rewardToken_format := hformat }

/-- **A change that is granted** leaves the configuration that was decided. -/
theorem grant (h : Governed format owner log config) {settings : Settings}
    {world : World MemoryStore Ledger} {change : Change}
    (hgrant : Grant settings world operation change) (hconfig : world.store.config = some config)
    (hformat : settings.format = format) :
    ∃ next, change.store.config = some next ∧
      Governed format owner (log ++ [operation]) next := by
  cases hgrant with
  | setAuthority hfound _ hauthority hzero =>
      cases hfound.symm.trans hconfig
      exact ⟨_, rfl, h.setAuthority _ (hauthority.trans hformat) hzero⟩
  | updateStakeTerms hfound _ htoken hduration =>
      cases hfound.symm.trans hconfig
      exact ⟨_, rfl, h.updateStakeTerms _ (htoken.trans hformat) (BitVec.not_lt.mp hduration)⟩
  | updateRewardTerms hfound _ htoken =>
      cases hfound.symm.trans hconfig
      exact ⟨_, rfl, h.updateRewardTerms _ (htoken.trans hformat)⟩
  | createReporter => exact ⟨config, hconfig, h.concat rfl rfl rfl⟩
  | updateReporter => exact ⟨config, hconfig, h.concat rfl rfl rfl⟩
  | activateReporter => exact ⟨config, hconfig, h.concat rfl rfl rfl⟩
  | deactivateReporter => exact ⟨config, hconfig, h.concat rfl rfl rfl⟩
  | unstakeReporter => exact ⟨config, hconfig, h.concat rfl rfl rfl⟩

end Governed

/-! ### The operations that succeed in a run -/

/-- The operation that a move carries out with success. -/
def Move.carried? {σ : Type} [Store σ] (site : Site σ) : Move → Option Operation
  | .operate position operation =>
    match site.handles[position]? with
    | some handle =>
      (operation.outcome? handle.settings (site.world handle)).map fun _ => operation
    | none => none
  | _ => none

/-- The operations that succeed in a run, in their order. -/
def Site.carried {σ : Type} [Store σ] (site : Site σ) (moves : List Move) : List Operation :=
  (site.steps moves).filterMap fun step => step.2.carried? step.1

theorem Site.carried_cons {σ : Type} [Store σ] (site : Site σ) (move : Move) (moves : List Move) :
    site.carried (move :: moves)
      = (move.carried? site).toList ++ (move.apply site).carried moves := by
  rw [carried, steps_cons, List.filterMap_cons]
  cases move.carried? site <;> rfl

/-! ### Sites that are governed -/

/-- A check that is followed by a failure is followed by it or fails itself. -/
theorem Registry.exists_error_of_require {ω ε α : Type} {check : Except ε Unit}
    {rest : Unit → EStateM ε ω α} {state : ω}
    (h : ∃ error, rest () state = .error error state) :
    ∃ error, (require check >>= rest) state = .error error state := by
  cases check with
  | ok u => exact h
  | error error => exact ⟨error, rfl⟩

section

variable {σ : Type} [Store σ] [RecordStore σ]

/-- The move writes only configurations that the store can give back. -/
def Move.Fits (σ : Type) [Store σ] [RecordStore σ] : Move → Prop
  | .operate _ operation => ∀ settings, (Turn.operate operation).Fits σ settings
  | _ => True

/-- The store holds the configuration that an owner began, after the operations of a log,
and all registries at work on it are of the same format. -/
structure Ruled (format : AddressFormat) (owner : Account) (log : List Operation)
    (site : Site σ) : Prop where
  store : ∃ records, Holds records site.store ∧ ∃ config, records.config = some config ∧
    Governed format owner log config
  handles : ∀ handle ∈ site.handles, handle.settings.format = format

namespace Ruled

variable {format : AddressFormat} {owner : Account} {log : List Operation} {site : Site σ}

/-- A store that is governed is not begun anew. -/
theorem exists_establish_error (h : Ruled format owner log site) (settings : Settings)
    (owner' : Account) :
    ∃ error, establish settings owner' site.store = .error error site.store := by
  obtain ⟨records, hholds, config, hconfig, -⟩ := h.store
  have hinsert := insertConfiguration_of_taken hholds hconfig (.new owner')
  -- Any of the three checks may fail before the store is asked.
  refine exists_error_of_require ?_
  refine exists_error_of_require ?_
  refine exists_error_of_require ?_
  refine ⟨.alreadyInitialized, ?_⟩
  simp only [bind, EStateM.bind, onBareStore, hinsert]
  rfl

theorem establish (h : Ruled format owner log site) (settings : Settings) (owner' : Account) :
    Ruled format owner log ((Move.establish settings owner').apply site) := by
  obtain ⟨error, herror⟩ := h.exists_establish_error settings owner'
  simp only [Move.apply, herror, Site.welcome]
  exact h

/-- A registry that takes over the store is of the same format. -/
theorem attach (h : Ruled format owner log site) (settings : Settings) :
    Ruled format owner log ((Move.attach settings).apply site) := by
  obtain ⟨records, hholds, config, hconfig, hgoverned⟩ := h.store
  have hattach := attach_settles settings (RecordStore.configuration hholds)
  rw [hconfig] at hattach
  cases hadmits : admits settings (some config) with
  | error error =>
      simp only [Move.apply, hattach, hadmits, settle, Site.welcome]
      exact h
  | ok u =>
      -- A registry is let in only if the stored owner is of its format.
      obtain ⟨-, -, hcheck⟩ := bind_eq_ok_iff.mp hadmits
      have hformat := checkFormat_eq_ok_iff.mp hcheck
      simp only [Move.apply, hattach, hadmits, settle, Site.welcome]
      refine ⟨h.store, List.forall_mem_append.mpr ⟨h.handles, ?_⟩⟩
      intro handle hhandle
      rw [List.mem_singleton.mp hhandle, ← hformat, hgoverned.owner_format]

/-- Another outbox changes nothing. -/
theorem withOutbox (h : Ruled format owner log site) {position : Nat} {handle : Handle}
    (hhandle : site.handles[position]? = some handle) (outbox : Outbox) :
    Ruled format owner log (site.withOutbox position handle outbox) where
  store := h.store
  handles other hother := by
    rcases List.mem_or_eq_of_mem_set hother with hmem | rfl
    · exact h.handles other hmem
    · exact h.handles handle (List.mem_of_getElem? hhandle)

/-- An operation leaves what was decided, its own decision included if it succeeds. -/
theorem operate (h : Ruled format owner log site) {position : Nat} {operation : Operation}
    (hfits : Move.Fits σ (.operate position operation)) :
    Ruled format owner (log ++ ((Move.operate position operation).carried? site).toList)
      ((Move.operate position operation).apply site) := by
  cases hhandle : site.handles[position]? with
  | none =>
      simp only [Move.apply, Move.carried?, hhandle, Option.toList_none, List.append_nil]
      exact h
  | some handle =>
      obtain ⟨records, hholds, config, hconfig, hgoverned⟩ := h.store
      have hformat := h.handles handle (List.mem_of_getElem? hhandle)
      have hshows : Shows ((site.world handle).withStore records) (site.world handle) :=
        ⟨hholds, rfl⟩
      -- The store may be a database: what the operation does is read off the records it shows.
      obtain ⟨next, heffect, hnext⟩ := hshows.effect (hfits handle.settings)
      have hsite : (Move.operate position operation).apply site = site.ofWorld position handle
          ((Turn.operate operation).apply handle.settings (site.world handle)) := by
        simp only [Move.apply, hhandle]
        rfl
      have hhandles := (h.withOutbox hhandle
        ((Turn.operate operation).apply handle.settings (site.world handle)).outbox).handles
      rw [hsite]
      simp only [Move.carried?, hhandle, Operation.outcome?]
      cases heffect with
      | refused hrun =>
          rw [hrun]
          simp only [Option.map_none, Option.toList_none, List.append_nil]
          exact ⟨⟨records, hnext.holds, config, hconfig, hgoverned⟩, hhandles⟩
      | granted hverdict hrun =>
          rw [hrun]
          obtain ⟨config', hconfig', hgoverned'⟩ :=
            hgoverned.grant (grant_of_verdict hverdict) hconfig hformat
          exact ⟨⟨_, hnext.holds, config', hconfig', hgoverned'⟩, hhandles⟩
      | aside hturn => exact absurd rfl (hturn operation)

/-- **A move keeps a site governed.** -/
theorem apply (h : Ruled format owner log site) {move : Move} (hfits : move.Fits σ) :
    Ruled format owner (log ++ (move.carried? site).toList) (move.apply site) := by
  have hnothing : log ++ (none : Option Operation).toList = log := List.append_nil log
  cases move with
  | establish settings owner' => exact hnothing.symm ▸ h.establish settings owner'
  | attach settings => exact hnothing.symm ▸ h.attach settings
  | operate position operation => exact h.operate hfits
  | ledger call => exact hnothing.symm ▸ ⟨h.store, h.handles⟩
  | clock change => exact hnothing.symm ▸ ⟨h.store, h.handles⟩
  | drain position =>
      refine hnothing.symm ▸ ?_
      simp only [Move.apply]
      cases hhandle : site.handles[position]? with
      | none => exact h
      | some handle => exact h.withOutbox hhandle _
  | subscribe position =>
      refine hnothing.symm ▸ ?_
      simp only [Move.apply]
      cases hhandle : site.handles[position]? with
      | none => exact h
      | some handle => exact h.withOutbox hhandle _

/-- **A run keeps a site governed.** -/
theorem run (h : Ruled format owner log site) {moves : List Move}
    (hfits : ∀ move ∈ moves, move.Fits σ) :
    Ruled format owner (log ++ site.carried moves) (site.run moves) := by
  induction moves generalizing log site with
  | nil => exact (List.append_nil log).symm ▸ h
  | cons move moves ih =>
      obtain ⟨hmove, hmoves⟩ := List.forall_mem_cons.mp hfits
      rw [Site.run_cons, Site.carried_cons, ← List.append_assoc]
      exact ih (h.apply hmove) hmoves

end Ruled

/-- A registry that started governs the store from then on. -/
theorem ruled_of_establish {settings : Settings} {owner : Account} {records : MemoryStore}
    {start store : σ} (hholds : Holds records start) (hfits : RecordStore.Fits σ (.new owner))
    (h : establish settings owner start = .ok () store) (ledger : Ledger) (now : Seconds) :
    Ruled settings.format owner [] (Site.begun settings store ledger now) := by
  obtain ⟨-, hformat, hzero, -⟩ := establish_inv h
  refine ⟨⟨_, holds_of_establish hholds hfits h, _, rfl, Governed.new hformat hzero⟩, ?_⟩
  intro handle hhandle
  rw [List.mem_singleton.mp hhandle]

end

/-! ### What is read of the store -/

/-- What is read as the configuration is what an owner began and the operations of a log
decided, and an attempt to begin anew fails and changes nothing. -/
structure Site.Decided {σ : Type} [Store σ] (format : AddressFormat) (owner : Account)
    (log : List Operation) (site : Site σ) : Prop where
  configuration : ∃ config, Store.configuration site.store = .ok (some config) site.store ∧
    Governed format owner log config
  begun : ∀ settings owner', ∃ error,
    Registry.establish settings owner' site.store = .error error site.store

theorem Ruled.decided {σ : Type} [Store σ] [RecordStore σ] {format : AddressFormat}
    {owner : Account} {log : List Operation} {site : Site σ} (h : Ruled format owner log site) :
    site.Decided format owner log := by
  obtain ⟨records, hholds, config, hconfig, hgoverned⟩ := h.store
  refine ⟨⟨config, ?_, hgoverned⟩, h.exists_establish_error⟩
  rw [RecordStore.configuration hholds, hconfig]

/-- The accounts that a move puts into the configuration are sized. -/
def Move.Sized : Move → Prop
  | .operate _ operation => operation.Sized
  | _ => True

theorem Move.fits_memory (move : Move) : move.Fits MemoryStore := by
  cases move with
  | operate position operation => exact fun settings => Turn.fits_memory settings _
  | _ => trivial

theorem Move.fits_of_sized {move : Move} (h : move.Sized) : move.Fits Database := by
  cases move with
  | operate position operation =>
      intro settings
      have hsized : (Turn.operate operation).Sized := h
      exact Turn.fits_of_sized hsized
  | _ => trivial

/-- A registry has started with a database only where there was no configuration. -/
theorem holds_of_establish_database {settings : Settings} {owner : Account}
    {records : MemoryStore} {db : Database} (hsound : records.Sound)
    (h : establish settings owner (Database.ofMemory records) = .ok () db) :
    Holds records (Database.ofMemory records) := by
  obtain ⟨-, -, -, hinserted⟩ := establish_inv h
  refine ⟨hsound, ?_, rfl⟩
  intro config hconfig
  -- A configuration in the store would have kept the first one of the owner out.
  have htaken : Store.insertConfiguration (.new owner) (Database.ofMemory records)
      = .ok false (Database.ofMemory records) := by
    show Database.change (fun db => db.insertConfiguration _) (Database.ofMemory records) = _
    rw [Database.change, Database.insertConfiguration_ofMemory,
      MemoryStore.insertConfiguration_of_some hconfig]
  rw [htaken] at hinserted
  cases hinserted

/-- **What governs a registry.** From the first start on, whatever registries of whatever
settings do on the store and whoever else tries to start on it, the owner is the first
one; the authority, the stake terms and the reward terms are, each as a whole, what was
last set with success, or what stood at first; they are of the first format, the
authority is not the zero address, and stakes stay locked no longer than stores can
hold. An attempt to start on the store anew fails and changes nothing. -/
theorem governance_invariant (settings : Settings) (owner : Account) (ledger : Ledger)
    (now : Seconds) (moves : List Move) :
    (∀ start store, start.Sound → establish settings owner start = .ok () store →
      let site : Site MemoryStore := Site.begun settings store ledger now
      (site.run moves).Decided settings.format owner (site.carried moves)) ∧
    ∀ records db, records.Sound →
      establish settings owner (Database.ofMemory records) = .ok () db → owner.Sized →
      (∀ move ∈ moves, move.Sized) →
      let site : Site Database := Site.begun settings db ledger now
      (site.run moves).Decided settings.format owner (site.carried moves) := by
  constructor
  · intro start store hsound hstart site
    have hholds : Holds start start := ⟨rfl, hsound⟩
    have hruled := ruled_of_establish hholds trivial hstart ledger now
    exact (hruled.run fun move _ => move.fits_memory).decided
  · intro records db hsound hstart howner hmoves site
    have hholds := holds_of_establish_database hsound hstart
    have hruled := ruled_of_establish hholds (Configuration.sized_new howner) hstart ledger now
    exact (hruled.run fun move hmem => Move.fits_of_sized (hmoves move hmem)).decided

theorem Sample.sized_moves : ∀ move ∈ Sample.moves, move.Sized := by
  simp only [moves, List.forall_mem_cons]
  exact ⟨sized_single 4, trivial, sized_single 3, trivial, trivial, trivial, trivial, trivial,
    trivial, trivial, by simp⟩

/-- In the sample run, over both stores, the worker is the authority at the end, under
the stake terms of the first operation. The attempts to start anew and to lock a second
stake are not in the log. -/
theorem governance_invariant_sample :
    Sample.site.carried Sample.moves
        = [.updateStakeTerms Sample.owner ⟨Sample.token, 10, 5, 5, 5, 5⟩,
          .createReporter Sample.owner Sample.id Sample.worker .validator "" "",
          .setAuthority Sample.owner Sample.worker,
          .activateReporter Sample.worker Sample.id,
          .deactivateReporter Sample.worker Sample.id,
          .unstakeReporter Sample.worker Sample.id] ∧
      (Sample.site.run Sample.moves).Decided .plain Sample.owner
        (Sample.site.carried Sample.moves) ∧
      (Sample.databaseSite.run Sample.moves).Decided .plain Sample.owner
        (Sample.databaseSite.carried Sample.moves) := by
  obtain ⟨hmemory, hdatabase⟩ :=
    governance_invariant Sample.settings Sample.owner Sample.ledger 0 Sample.moves
  have hmemory := hmemory MemoryStore.empty Sample.world.store MemoryStore.Sound.empty
    Sample.established
  have hdatabase := hdatabase MemoryStore.empty Sample.databaseWorld.store MemoryStore.Sound.empty
    Sample.established_database Sample.sized_owner Sample.sized_moves
  exact ⟨by decide +kernel, hmemory, hdatabase⟩

end ReporterRegistry
