import Mathlib.Order.Bounds.Basic
import ReporterRegistry.Proofs.Outcomes
import ReporterRegistry.Store.Migration

/-!
# Databases of the current version

A database is `Current` if the highest version that it has recorded is the one that
this library reads and writes. Opening a database makes it current, and a current one
is opened as it is. So what is done to a database between two openings is found by the
second one, as long as it leaves the versions alone.

What an older database lacks is added version by version. Each layout adds empty tables
and leaves those that are there (`adds_of_layout`), so all of them together do, and every
version is recorded behind the ones before it (`upgrade_inv`). What an upgrade had done
when it failed is nowhere to be seen (`Opened.refused`).
-/

namespace ReporterRegistry

namespace Database

/-- The highest recorded version is the current one. -/
def Current (db : Database) : Prop :=
  ∃ versions, db.versions = some versions ∧ highest versions = currentVersion

theorem Current.congr {db next : Database} (h : db.Current) (hsame : next.versions = db.versions) :
    next.Current := by
  obtain ⟨versions, hversions, hhighest⟩ := h
  exact ⟨versions, hsame.trans hversions, hhighest⟩

variable {db next : Database}

/-! ### Recorded versions -/

theorem versions_of_mem_recorded {version : Int} (h : version ∈ db.recorded) :
    db.versions = some db.recorded := by
  cases hversions : db.versions with
  | none => simp [recorded, hversions] at h
  | some versions => simp [recorded, hversions]

theorem withVersions_of_versions {versions : List Int} (h : db.versions = some versions) :
    db.withVersions = db := by
  have hrecorded : db.recorded = versions := by simp [recorded, h]
  rw [withVersions, hrecorded, ← h]

/-- The version is recorded, and no higher one. -/
def Latest (db : Database) (version : Int) : Prop :=
  IsGreatest {found | found ∈ db.recorded} version

theorem latest_iff {version : Int} :
    db.Latest version ↔ version ∈ db.recorded ∧ ∀ found ∈ db.recorded, found ≤ version := Iff.rfl

/-- The highest of some versions is computed as it is meant. -/
theorem isGreatest_highest {versions : List Int} (h : versions ≠ []) :
    IsGreatest {version | version ∈ versions} (highest versions) := by
  cases versions with
  | nil => exact absurd rfl h
  | cons first rest =>
      have hmax : (first :: rest).max? = some (highest (first :: rest)) := List.max?_cons'
      exact List.max?_eq_some_iff.mp hmax

theorem highest_eq_of_isGreatest {versions : List Int} {version : Int}
    (h : IsGreatest {version | version ∈ versions} version) : highest versions = version :=
  (isGreatest_highest (List.ne_nil_of_mem h.1)).unique h

theorem version?_eq_some_iff {version : Nat} :
    db.version? = some version ↔
      highest db.recorded = version ∧ version < UInt32.size := by
  unfold version?
  simp only [Option.ite_none_right_eq_some, Option.some.injEq]
  omega

/-- No version above the one that is read is recorded. -/
theorem le_of_version? {version : Nat} (h : db.version? = some version) :
    ∀ found ∈ db.recorded, found ≤ version := by
  intro found hfound
  rw [← (version?_eq_some_iff.mp h).1]
  exact (isGreatest_highest (List.ne_nil_of_mem hfound)).2 hfound

/-- A database is current if its latest version is the one that this library writes. -/
theorem current_iff_latest : db.Current ↔ db.Latest currentVersion := by
  constructor
  · rintro ⟨versions, hversions, hhighest⟩
    have hne : versions ≠ [] := by
      rintro rfl
      cases hhighest
    have hrecorded : db.recorded = versions := by simp [recorded, hversions]
    rw [Latest, hrecorded, ← hhighest]
    exact isGreatest_highest hne
  · intro h
    exact ⟨_, versions_of_mem_recorded h.1, highest_eq_of_isGreatest h⟩

/-! ### Adding what is missing -/

/-- What became of a table: it has the rows that it had, or it is new and empty. -/
def TableKept {α : Type} (empty : α) (table next : Option α) : Prop :=
  next = table ∨ table = none ∧ next = some empty

theorem TableKept.trans {α : Type} {empty : α} {table between next : Option α}
    (h : TableKept empty table between) (hnext : TableKept empty between next) :
    TableKept empty table next := by
  rcases h with rfl | ⟨hmissing, rfl⟩
  · exact hnext
  · rcases hnext with rfl | ⟨hnone, -⟩
    · exact Or.inr ⟨hmissing, rfl⟩
    · cases hnone

/-- Rows that are there stay. -/
theorem TableKept.eq_some {α : Type} {empty rows : α} {table next : Option α}
    (h : TableKept empty table next) (hrows : table = some rows) : next = some rows := by
  rcases h with hsame | ⟨hmissing, -⟩
  · exact hsame.trans hrows
  · cases hmissing.symm.trans hrows

/-- A database has all that another one has. What it has more is empty tables, and
versions that were recorded later. -/
structure Extends (next db : Database) : Prop where
  config : TableKept none db.config next.config
  reporters : TableKept [] db.reporters next.reporters
  recorded : db.recorded <+: next.recorded

theorem Extends.refl (db : Database) : db.Extends db :=
  ⟨Or.inl rfl, Or.inl rfl, List.prefix_refl _⟩

theorem Extends.trans {between : Database} (hnext : next.Extends between)
    (h : between.Extends db) : next.Extends db :=
  ⟨h.config.trans hnext.config, h.reporters.trans hnext.reporters,
    h.recorded.trans hnext.recorded⟩

theorem record_eq_ok_iff {version : Int} :
    record version db = .ok () next ↔
      version ∉ db.recorded ∧ { db with versions := some (db.recorded ++ [version]) } = next := by
  unfold record
  by_cases h : version ∈ db.recorded <;> simp [h]

theorem createTables_eq_ok_iff :
    createTables db = .ok () next ↔
      db.config = none ∧ db.reporters = none ∧
        { db with config := some none, reporters := some [] } = next := by
  simp only [createTables, run_bind_eq_ok_iff, createConfiguration, createReporters]
  obtain ⟨versions, config, reporters⟩ := db
  cases config <;> cases reporters <;> simp

/-- **Each layout** adds empty tables, and does not record that. -/
theorem adds_of_layout {add : EStateM StoreError Database Unit} (hadd : add ∈ layouts)
    (h : add db = .ok () next) : next.Extends db ∧ next.recorded = db.recorded := by
  obtain rfl : add = createTables := List.mem_singleton.mp hadd
  obtain ⟨hconfig, hreporters, rfl⟩ := createTables_eq_ok_iff.mp h
  exact ⟨⟨Or.inr ⟨hconfig, rfl⟩, Or.inr ⟨hreporters, rfl⟩, List.prefix_refl _⟩, rfl⟩

theorem applyLayout_inv {add : EStateM StoreError Database Unit} (hadd : add ∈ layouts)
    {version : Nat} (h : applyLayout (add, version) db = .ok () next) :
    next.Extends db ∧ next.recorded = db.recorded ++ [(version : Int)] := by
  obtain ⟨_, added, hadded, hrecord⟩ := run_bind_eq_ok_iff.mp h
  obtain ⟨hextends, hsame⟩ := adds_of_layout hadd hadded
  obtain ⟨-, rfl⟩ := record_eq_ok_iff.mp hrecord
  have hrecorded : added.recorded ++ [(version : Int)] = db.recorded ++ [(version : Int)] :=
    congrArg (· ++ [(version : Int)]) hsame
  exact ⟨⟨hextends.config, hextends.reporters, _, hrecorded.symm⟩, hrecorded⟩

/-- **Layouts in a row** add empty tables, and their versions are recorded in this order. -/
theorem forM_applyLayout_inv {adds : List (EStateM StoreError Database Unit)}
    (hadds : ∀ add ∈ adds, add ∈ layouts) {first : Nat}
    (h : (adds.zipIdx first).forM applyLayout db = .ok () next) :
    next.Extends db ∧
      next.recorded = db.recorded ++ (List.range' first adds.length).map Nat.cast := by
  -- Each layout starts from what the one before has left, so the database is general.
  induction adds generalizing db first with
  | nil =>
      cases h
      exact ⟨.refl _, (List.append_nil _).symm⟩
  | cons add adds ih =>
      obtain ⟨hadd, hadds⟩ := List.forall_mem_cons.mp hadds
      obtain ⟨_, between, happly, hrest⟩ := run_bind_eq_ok_iff.mp h
      obtain ⟨hextends, hrecorded⟩ := applyLayout_inv hadd happly
      obtain ⟨hall, hrest⟩ := ih hadds hrest
      refine ⟨hall.trans hextends, ?_⟩
      rw [hrest, hrecorded, List.length_cons, List.range'_succ, List.map_cons,
        List.append_assoc, List.singleton_append]

theorem length_layouts : layouts.length = currentVersion := rfl

/-- An upgrade records every version up to the current one. -/
theorem upgrade_inv {version : Nat} (h : upgrade version db = .ok () next) :
    next.Extends db ∧
      next.recorded = db.recorded ++
        (List.range' (version + 1) (currentVersion - version)).map Nat.cast := by
  have hinv := forM_applyLayout_inv (fun _ => List.mem_of_mem_drop) h
  rwa [List.length_drop, length_layouts] at hinv

theorem current_of_upgrade {version : Nat} (hversion : db.version? = some version)
    (hearlier : version < currentVersion) (h : upgrade version db = .ok () next) :
    next.Current := by
  have hrecorded := (upgrade_inv h).2
  rw [current_iff_latest, latest_iff, hrecorded]
  -- The current version is the last that is added, and none before was above `version`.
  refine ⟨?_, ?_⟩
  · have hlast : currentVersion ∈ List.range' (version + 1) (currentVersion - version) :=
      List.mem_range'_1.mpr (by omega)
    exact List.mem_append_right _ (List.mem_map_of_mem hlast)
  · intro found hfound
    rcases List.mem_append.mp hfound with hfound | hfound
    · have hle := le_of_version? hversion found hfound
      omega
    · obtain ⟨applied, happlied, rfl⟩ := List.mem_map.mp hfound
      have hrange := List.mem_range'_1.mp happlied
      omega

/-! ### Opening -/

/-- What opening a database comes to. -/
inductive Opened (db : Database) : EStateM.Result StoreError Database Unit → Prop
  /-- The highest version is no number of 32 bits. -/
  | unreadable : db.version? = none → Opened db (.error .database db.withVersions)
  | later {version : Nat} : db.version? = some version → currentVersion < version →
      Opened db (.error (.migration version currentVersion) db.withVersions)
  | current : db.version? = some currentVersion → Opened db (.ok () db.withVersions)
  | upgraded {version : Nat} {next : Database} : db.version? = some version →
      version < currentVersion → upgrade version db.withVersions = .ok () next →
      Opened db (.ok () next)
  /-- An upgrade failed, and what it had done is taken back. -/
  | refused {version : Nat} {error : StoreError} {half : Database} :
      db.version? = some version → version < currentVersion →
      upgrade version db.withVersions = .error error half →
      Opened db (.error error db.withVersions)

theorem migrate_of_unreadable (h : db.version? = none) :
    migrate db = .error .database db.withVersions := by
  have hread : db.withVersions.version? = none := h
  change migrate.run db = _
  simp only [migrate, EStateM.run_bind, EStateM.run_modify, EStateM.run_get, hread,
    EStateM.run_throw]

/-- What opening does depends on how the version that is read compares to the current one.
-/
theorem migrate_of_version? {version : Nat} (h : db.version? = some version) :
    migrate db =
      if currentVersion < version then
        .error (.migration version currentVersion) db.withVersions
      else if version < currentVersion then transaction (upgrade version) db.withVersions
      else .ok () db.withVersions := by
  have hread : db.withVersions.version? = some version := h
  change migrate.run db = _
  simp only [migrate, EStateM.run_bind, EStateM.run_modify, EStateM.run_get, hread]
  by_cases hlater : currentVersion < version
  · simp only [if_pos hlater, EStateM.run_bind, EStateM.run_throw]
  · by_cases hearlier : version < currentVersion
    · simp only [if_neg hlater, if_pos hearlier]
      rfl
    · simp only [if_neg hlater, if_neg hearlier]
      rfl

/-- **Opening a database comes to one of five things.** -/
theorem opened_migrate (db : Database) : Opened db (migrate db) := by
  cases h : db.version? with
  | none =>
      rw [migrate_of_unreadable h]
      exact .unreadable h
  | some version =>
      rw [migrate_of_version? h]
      rcases Nat.lt_trichotomy version currentVersion with hearlier | rfl | hlater
      · rw [if_neg (Nat.lt_asymm hearlier), if_pos hearlier]
        unfold transaction
        cases hdone : upgrade version db.withVersions with
        | ok done next => exact .upgraded h hearlier hdone
        | error error half => exact .refused h hearlier hdone
      · rw [if_neg (Nat.lt_irrefl _), if_neg (Nat.lt_irrefl _)]
        exact .current h
      · rw [if_pos hlater]
        exact .later h hlater

/-- A current database is opened as it is. -/
theorem migrate_of_current (h : db.Current) : migrate db = .ok () db := by
  obtain ⟨versions, hversions, hhighest⟩ := h
  have hrecorded : db.recorded = versions := by simp [recorded, hversions]
  have hversion : db.version? = some currentVersion :=
    version?_eq_some_iff.mpr ⟨hrecorded ▸ hhighest, by decide⟩
  rw [migrate_of_version? hversion, if_neg (Nat.lt_irrefl _), if_neg (Nat.lt_irrefl _),
    withVersions_of_versions hversions]

/-- **What is opened is current.** -/
theorem current_of_migrate {before db : Database} (h : migrate before = .ok () db) :
    db.Current := by
  have hopened := opened_migrate before
  rw [h] at hopened
  cases hopened with
  | current hversion => exact ⟨_, rfl, (version?_eq_some_iff.mp hversion).1⟩
  | upgraded hversion hearlier hupgrade =>
      have hread : before.withVersions.version? = some _ := hversion
      exact current_of_upgrade hread hearlier hupgrade

/-- What is opened keeps all that it had. -/
theorem extends_of_migrate (h : migrate db = .ok () next) : next.Extends db := by
  have hsame : db.withVersions.Extends db := ⟨Or.inl rfl, Or.inl rfl, List.prefix_refl _⟩
  have hopened := opened_migrate db
  rw [h] at hopened
  cases hopened with
  | current hversion => exact hsame
  | upgraded hversion hearlier hupgrade => exact (upgrade_inv hupgrade).1.trans hsame

/-- What cannot be opened is left alone. -/
theorem eq_withVersions_of_migrate {error : StoreError} (h : migrate db = .error error next) :
    next = db.withVersions := by
  have hopened := opened_migrate db
  rw [h] at hopened
  cases hopened <;> rfl

end Database

end ReporterRegistry
