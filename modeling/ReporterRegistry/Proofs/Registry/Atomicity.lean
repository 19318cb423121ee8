import ReporterRegistry.Proofs.Registry.Run

/-!
# All or nothing

An operation that fails leaves the world as it was: the records and their order,
every balance and every allowance, and the journal. An operation that succeeds
announces one event. This holds in every state that a registry gets into, over
both stores, also where a withdrawal fails after the record was written.
-/

namespace ReporterRegistry

open Registry

/-- The operation announces one event, or it fails and changes nothing. -/
structure AllOrNothing {σ : Type} [Store σ] (settings : Settings) (operation : Operation)
    (world : World σ Ledger) : Prop where
  all : ∀ {outcome : Outcome} {next : World σ Ledger},
    operation.run settings world = .ok outcome next →
      ∃ event, next.outbox.journal = world.outbox.journal ++ [event]
  nothing : ∀ {error : RegistryError} {next : World σ Ledger},
    operation.run settings world = .error error next → next = world

namespace AllOrNothing

variable {σ : Type} [Store σ] {settings : Settings} {operation : Operation} {world : World σ Ledger}

theorem of_error {error : RegistryError}
    (h : operation.run settings world = .error error world) :
    AllOrNothing settings operation world where
  all hrun := by
    rw [h] at hrun
    cases hrun
  nothing hrun := by
    rw [h] at hrun
    cases hrun
    rfl

theorem of_ok {outcome : Outcome} {next : World σ Ledger} {event : Event}
    (h : operation.run settings world = .ok outcome next)
    (hjournal : next.outbox.journal = world.outbox.journal ++ [event]) :
    AllOrNothing settings operation world where
  all hrun := by
    rw [h] at hrun
    cases hrun
    exact ⟨event, hjournal⟩
  nothing hrun := by
    rw [h] at hrun
    cases hrun

/-- An operation that carries out a verdict on records is all or nothing. -/
theorem of_shows [RecordStore σ] {records : World MemoryStore Ledger} (h : Shows records world)
    (settings : Settings) (operation : Operation) : AllOrNothing settings operation world := by
  rcases h.answer settings operation with ⟨id, error, -, hrun⟩ | hanswer
  · exact of_error hrun
  cases hverdict : operation.verdict settings records with
  | error error =>
      rw [hverdict] at hanswer
      exact of_error hanswer
  | ok change =>
      rw [hverdict] at hanswer
      obtain ⟨store, hrun, -⟩ := hanswer
      have hjournal : (change.commit records).outbox.journal
          = world.outbox.journal ++ [change.event] := by
        rw [h.same]
        rfl
      exact of_ok hrun hjournal

end AllOrNothing

/-- **Operations are all or nothing.** Whatever has happened to a registry since it was
started on an empty store, every operation, with any caller and any arguments, either
succeeds and appends one event to the journal or leaves everything as it was. -/
theorem operation_all_or_nothing (settings : Settings) (owner : Account) (ledger : Ledger)
    (now : Seconds) (turns : List Turn) (operation : Operation) :
    (∀ store, establish settings owner MemoryStore.empty = .ok () store →
      AllOrNothing settings operation (World.run settings turns ⟨store, ledger, now, .empty⟩)) ∧
    ∀ db, establish settings owner Database.fresh = .ok () db → owner.Sized →
      (∀ turn ∈ turns, turn.Sized) →
      AllOrNothing settings operation (World.run settings turns ⟨db, ledger, now, .empty⟩) := by
  constructor
  · intro store hstart
    rw [eq_started_of_establish hstart]
    have hsound := World.sound_run settings (World.sound_started owner ledger now) turns
    exact AllOrNothing.of_shows (Shows.refl hsound) settings operation
  · intro db hstart howner hturns
    obtain ⟨turns', -, hshows⟩ := shows_database_run hstart howner hturns ledger now
    exact AllOrNothing.of_shows hshows settings operation

/-- A withdrawal that fails after its record was written, because the payee would hold
too much, is one of the operations that change nothing, over both stores. -/
theorem operation_all_or_nothing_sample :
    (match (Operation.unstakeReporter Sample.worker Sample.id).run Sample.settings
        (Sample.databaseWorld.run Sample.settings Sample.beforeOverflow) with
      | .error error _ => some error
      | .ok _ _ => none) = some (.transferFailed (.transferFailed .balanceOverflow)) ∧
      AllOrNothing Sample.settings (.unstakeReporter Sample.worker Sample.id)
        (Sample.world.run Sample.settings Sample.beforeOverflow) ∧
      AllOrNothing Sample.settings (.unstakeReporter Sample.worker Sample.id)
        (Sample.databaseWorld.run Sample.settings Sample.beforeOverflow) := by
  have hall := operation_all_or_nothing Sample.settings Sample.owner Sample.ledger 0
    Sample.beforeOverflow (.unstakeReporter Sample.worker Sample.id)
  have hmemory := hall.1 Sample.world.store Sample.established
  have hdatabase := hall.2 Sample.databaseWorld.store Sample.established_database
    Sample.sized_owner Sample.sized_beforeOverflow
  exact ⟨by decide +kernel, hmemory, hdatabase⟩

end ReporterRegistry
