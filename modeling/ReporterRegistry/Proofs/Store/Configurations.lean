import ReporterRegistry.Proofs.Store.Agreement
import ReporterRegistry.Proofs.Store.Migration

/-!
# The configuration of a database

A configuration is written as a blob that reads back as the same configuration, so
different configurations have different blobs. Once written, it stays what the database
answers: nothing that happens to a store touches the blob but a replacement of the
configuration, and opening the database again finds it.
-/

namespace ReporterRegistry

open Session (StoreStep)

/-- **Configurations are told apart by their blobs.** -/
theorem Configuration.eq_of_toBlob_eq {config other : Configuration} (h : config.Sized)
    (hother : other.Sized) (hblob : other.toBlob = config.toBlob) : other = config := by
  have hread : some other = some config := by
    rw [← ofBlob?_toBlob hother, hblob, ofBlob?_toBlob h]
  exact Option.some.inj hread

namespace StoreEvent

/-- The database after an event. -/
def apply (db : Database) : StoreEvent → Database
  | .call step => left step.perform db
  | .reopen => left Database.migrate db

/-- The event replaces the configuration. -/
def Reconfigures : StoreEvent → Prop
  | .call (.putConfiguration _) => True
  | _ => False

end StoreEvent

namespace Database

/-- The database after some events. -/
def after (db : Database) (events : List StoreEvent) : Database :=
  events.foldl StoreEvent.apply db

/-- The database holds the blob of a configuration. -/
def Keeps (db : Database) (config : Configuration) : Prop :=
  db.config = some (some (.blob config.toBlob))

variable {db next : Database} {config : Configuration}

/-! ### Writing and reading -/

theorem keeps_of_insertConfiguration
    (h : Store.insertConfiguration config db = .ok true next) :
    next.Keeps config ∧ next.versions = db.versions := by
  simp only [Store.insertConfiguration, change, insertConfiguration] at h
  cases hconfig : db.config with
  | none => simp [hconfig] at h
  | some cell =>
      cases cell with
      | none =>
          simp only [hconfig] at h
          cases h
          exact ⟨rfl, rfl⟩
      | some found => simp [hconfig] at h

theorem keeps_of_putConfiguration (h : Store.putConfiguration config db = .ok () next) :
    next.Keeps config ∧ next.versions = db.versions := by
  simp only [Store.putConfiguration, change, putConfiguration] at h
  cases hconfig : db.config with
  | none => simp [hconfig, Except.map] at h
  | some cell =>
      simp only [hconfig, Except.map] at h
      cases h
      exact ⟨rfl, rfl⟩

theorem Keeps.configuration (h : db.Keeps config) (hsized : config.Sized) :
    Store.configuration db = .ok (some config) db := by
  simp only [Keeps] at h
  simp [Store.configuration, answer, Database.configuration, h, readConfiguration,
    Configuration.ofBlob?_toBlob hsized, Except.map]

/-! ### What happens afterwards -/

@[simp] theorem left_answer {α : Type} (query : Database → Except StoreError α) (db : Database) :
    left (answer query) db = db := by
  simp only [left, answer]
  cases query db <;> rfl

/-- A change that leaves the configuration alone whenever it succeeds leaves it alone. -/
theorem Keeps.left_change {α : Type} {update : Database → Except StoreError (α × Database)}
    (h : db.Keeps config)
    (hupdate : ∀ a next, update db = .ok (a, next) → next.config = db.config) :
    (left (change update) db).Keeps config := by
  simp only [left, change]
  cases hdone : update db with
  | error error => exact h
  | ok done => exact (hupdate done.1 done.2 hdone).trans h

theorem config_of_insertReporter {reporter : Reporter} {inserted : Bool}
    (h : db.insertReporter reporter = .ok (inserted, next)) : next.config = db.config := by
  simp only [insertReporter, bind_eq_ok_iff] at h
  obtain ⟨-, -, rows, -, h⟩ := h
  split at h <;> cases h <;> rfl

theorem config_of_putReporter {reporter : Reporter} (h : db.putReporter reporter = .ok next) :
    next.config = db.config := by
  simp only [putReporter, bind_eq_ok_iff] at h
  obtain ⟨-, -, rows, -, h⟩ := h
  split at h <;> cases h
  rfl

/-- A configuration that is there is not inserted once more. -/
theorem Keeps.insertConfiguration (h : db.Keeps config) (other : Configuration) :
    db.insertConfiguration other = .ok (false, db) := by
  simp only [Keeps] at h
  simp only [Database.insertConfiguration, h]

/-- Opening creates tables only where there are none. -/
theorem Keeps.left_migrate (h : db.Keeps config) : (left migrate db).Keeps config := by
  unfold left
  cases hdone : migrate db with
  | ok done next => exact (extends_of_migrate hdone).config.eq_some h
  | error error next =>
      rw [eq_withVersions_of_migrate hdone]
      exact h

/-- **Only a replacement touches the configuration.** -/
theorem Keeps.apply (h : db.Keeps config) {event : StoreEvent} (hevent : ¬ event.Reconfigures) :
    (event.apply db).Keeps config := by
  cases event with
  | reopen => exact h.left_migrate
  | call step =>
      cases step with
      | putConfiguration other => exact absurd trivial hevent
      | insertConfiguration other =>
          simp only [StoreEvent.apply, StoreStep.perform, left_map, Store.insertConfiguration]
          refine h.left_change ?_
          intro inserted next hinsert
          rw [h.insertConfiguration other] at hinsert
          cases hinsert
          rfl
      | insertReporter reporter =>
          simp only [StoreEvent.apply, StoreStep.perform, left_map, Store.insertReporter]
          refine h.left_change ?_
          intro inserted next hinsert
          exact config_of_insertReporter hinsert
      | putReporter reporter =>
          simp only [StoreEvent.apply, StoreStep.perform, left_bind_pure, Store.putReporter]
          refine h.left_change ?_
          intro done next hput
          obtain ⟨found, hfound, hsame⟩ := map_eq_ok_iff.mp hput
          cases hsame
          exact config_of_putReporter hfound
      | configuration | reporter id | count | page skip take | findByAccount account =>
          simpa [StoreEvent.apply, StoreStep.perform, Store.configuration, Store.reporter,
            Store.count, Store.page, Store.findByAccount] using h

/-- What is kept is kept until it is replaced. -/
theorem Keeps.after (h : db.Keeps config) {events : List StoreEvent}
    (hevents : ∀ event ∈ events, ¬ event.Reconfigures) : (db.after events).Keeps config := by
  induction events generalizing db with
  | nil => exact h
  | cons event events ih =>
      obtain ⟨hevent, hevents⟩ := List.forall_mem_cons.mp hevents
      exact ih (h.apply hevent) hevents

end Database

/-- **A configuration is kept as it was written.** Its blob reads back as the
configuration, and no other configuration has that blob. After it was inserted into a
database or put there, the database answers it, at once and after whatever happens to
the store short of a replacement: reporters are written, the database is closed and
opened again. A database that was opened once is opened again as it was left. The
accounts of a configuration are shorter than `2 ^ 64` octets, as all octets in a program
are. -/
theorem configuration_kept {config : Configuration} (h : config.Sized) :
    Configuration.ofBlob? config.toBlob = some config ∧
      (∀ other : Configuration, other.Sized → other.toBlob = config.toBlob → other = config) ∧
      ∀ db next : Database,
        Store.insertConfiguration config db = .ok true next ∨
            Store.putConfiguration config db = .ok () next →
          Store.configuration next = .ok (some config) next ∧
          (∀ events : List StoreEvent, (∀ event ∈ events, ¬ event.Reconfigures) →
            Store.configuration (next.after events) = .ok (some config) (next.after events)) ∧
          ∀ before : Database, Database.migrate before = .ok () db →
            Database.migrate next = .ok () next := by
  refine ⟨Configuration.ofBlob?_toBlob h, fun other => Configuration.eq_of_toBlob_eq h, ?_⟩
  intro db next hwritten
  have hkeeps : next.Keeps config ∧ next.versions = db.versions := by
    rcases hwritten with hinsert | hput
    · exact Database.keeps_of_insertConfiguration hinsert
    · exact Database.keeps_of_putConfiguration hput
  refine ⟨hkeeps.1.configuration h, ?after, ?opened⟩
  case after =>
    intro events hevents
    exact (hkeeps.1.after hevents).configuration h
  case opened =>
    intro before hbefore
    have hcurrent := Database.current_of_migrate hbefore
    exact Database.migrate_of_current (hcurrent.congr hkeeps.2)

namespace Sample

/-- Terms with a number on either side of most widths. -/
def widths : Configuration where
  owner := ⟨.plain, []⟩
  authority := ⟨.near, List.replicate 24 0xff⟩
  stake := ⟨⟨.ethereum, List.replicate 20 0x18⟩, 0xffffffff#64, 23#128, 24#128, 0x100#128,
    0x10000#128⟩
  reward := ⟨⟨.bitcoin, [0x17, 0x18]⟩, 0xffffffffffffffff#128, 0x10000000000000000#128⟩

end Sample

/-- The sample configuration is put into a new database, which is opened again. -/
theorem configuration_kept_sample :
    Configuration.ofBlob? Sample.widths.toBlob = some Sample.widths ∧
      Store.configuration ((Database.fresh.after
          [.call (.putConfiguration Sample.widths)]).after [.reopen, .call .count])
        = .ok (some Sample.widths)
          ((Database.fresh.after [.call (.putConfiguration Sample.widths)]).after
            [.reopen, .call .count]) := by
  have hsized : Sample.widths.Sized := by
    constructor <;> simp [Account.Sized, Sample.widths, UInt64.size]
  obtain ⟨hread, -, hkept⟩ := configuration_kept hsized
  obtain ⟨-, hafter, -⟩ := hkept Database.fresh _ (Or.inr rfl)
  exact ⟨hread, hafter [.reopen, .call .count] (by simp [StoreEvent.Reconfigures])⟩

end ReporterRegistry
