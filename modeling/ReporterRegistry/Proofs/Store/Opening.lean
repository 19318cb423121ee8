import ReporterRegistry.Proofs.Store.Migration

/-!
# Opening a database loses nothing

A database comes as it is: of this version, of an earlier or a later one, or half set up.
Opening it either brings it to the current version with all that it had, or fails and
leaves it as it was.

The only version before the current one is zero, which is read where nothing is recorded.
An upgrade from there needs that both tables are missing (`upgrade_zero_eq_ok_iff`), and
nothing else can fail. So it is known which databases can be opened.
-/

namespace ReporterRegistry

namespace Database

variable {db next : Database}

theorem version?_of_latest {version : Nat} (h : db.Latest version)
    (hfits : version < UInt32.size) : db.version? = some version :=
  version?_eq_some_iff.mpr ⟨highest_eq_of_isGreatest h, hfits⟩

theorem version?_eq_zero_iff : db.version? = some 0 ↔ db.recorded = [] ∨ db.Latest 0 := by
  constructor
  · intro h
    by_cases hnone : db.recorded = []
    · exact Or.inl hnone
    · have hhighest : highest db.recorded = 0 := (version?_eq_some_iff.mp h).1
      exact Or.inr (hhighest ▸ isGreatest_highest hnone)
  · rintro (hnone | hlatest)
    · exact version?_eq_some_iff.mpr ⟨by rw [hnone]; rfl, by decide⟩
    · exact version?_of_latest hlatest (by decide)

theorem upgrade_zero_eq_ok_iff :
    upgrade 0 db = .ok () next ↔
      db.config = none ∧ db.reporters = none ∧ 1 ∉ db.recorded ∧
        ⟨some (db.recorded ++ [1]), some none, some []⟩ = next := by
  have honly : upgrade 0 = applyLayout (createTables, 1) := bind_pure_unit
  have hsteps : upgrade 0 = createTables >>= fun _ => record 1 := honly
  rw [hsteps, run_bind_eq_ok_iff]
  constructor
  · rintro ⟨_, added, hadded, hrecord⟩
    obtain ⟨hconfig, hreporters, rfl⟩ := createTables_eq_ok_iff.mp hadded
    obtain ⟨hnew, rfl⟩ := record_eq_ok_iff.mp hrecord
    exact ⟨hconfig, hreporters, hnew, rfl⟩
  · rintro ⟨hconfig, hreporters, hnew, rfl⟩
    exact ⟨(), _, createTables_eq_ok_iff.mpr ⟨hconfig, hreporters, rfl⟩,
      record_eq_ok_iff.mpr ⟨hnew, rfl⟩⟩

/-- **Which databases can be opened**: the current ones, and those that have neither a
version nor tables. -/
theorem exists_migrate_eq_ok_iff :
    (∃ next, migrate db = .ok () next) ↔
      db.Latest currentVersion ∨
        (db.recorded = [] ∨ db.Latest 0) ∧ db.config = none ∧ db.reporters = none := by
  constructor
  · rintro ⟨next, h⟩
    have hopened := opened_migrate db
    rw [h] at hopened
    cases hopened with
    | current hversion =>
        have hcurrent : db.withVersions.Latest currentVersion :=
          current_iff_latest.mp (current_of_migrate h)
        exact Or.inl hcurrent
    | upgraded hversion hearlier hupgrade =>
        obtain rfl := Nat.lt_one_iff.mp hearlier
        obtain ⟨hconfig, hreporters, -⟩ := upgrade_zero_eq_ok_iff.mp hupgrade
        exact Or.inr ⟨version?_eq_zero_iff.mp hversion, hconfig, hreporters⟩
  · rintro (hcurrent | ⟨hunversioned, hconfig, hreporters⟩)
    · exact ⟨db, migrate_of_current (current_iff_latest.mpr hcurrent)⟩
    · have hversion := version?_eq_zero_iff.mpr hunversioned
      have hnew : 1 ∉ db.recorded := by
        intro hone
        have hle := le_of_version? hversion 1 hone
        omega
      obtain ⟨next, hupgrade⟩ : ∃ next, upgrade 0 db.withVersions = .ok () next :=
        ⟨_, upgrade_zero_eq_ok_iff.mpr ⟨hconfig, hreporters, hnew, rfl⟩⟩
      refine ⟨next, ?_⟩
      rw [migrate_of_version? hversion, if_neg (by decide), if_pos (by decide), transaction,
        hupgrade]

/-- A table of versions may have been made; otherwise nothing has changed. -/
theorem eq_of_migrate_error {error : StoreError} (h : migrate db = .error error next) :
    next = db ∨ db.versions = none ∧ next = { db with versions := some [] } := by
  rw [eq_withVersions_of_migrate h]
  cases hversions : db.versions with
  | some versions => exact Or.inl (withVersions_of_versions hversions)
  | none => exact Or.inr ⟨rfl, by rw [withVersions, recorded, hversions, Option.getD_none]⟩

/-- A later version is refused, and nothing has changed. -/
theorem migrate_of_later {version : Nat} (h : db.Latest version)
    (hlater : currentVersion < version) (hfits : version < UInt32.size) :
    migrate db = .error (.migration version currentVersion) db := by
  rw [migrate_of_version? (version?_of_latest h hfits), if_pos hlater,
    withVersions_of_versions (versions_of_mem_recorded h.1)]

end Database

/-- **Opening a database loses nothing**, whatever versions are recorded and whatever rows
there are. If it succeeds, then the current version is the highest that is recorded, all
rows are as they were, new tables are empty, and opening the database once more succeeds and
changes nothing. A later version of 32 bits is refused. If opening fails, then the database
is as it was, up to a table of versions that it lacked and that is empty. Opening succeeds
exactly for a database that is current, and for one that has neither a version above zero nor
tables. -/
theorem opening_loses_nothing (db : Database) :
    (∀ next, Database.migrate db = .ok () next →
      next.Latest Database.currentVersion ∧ next.Extends db ∧
        Database.migrate next = .ok () next) ∧
    (∀ version : Nat, db.Latest version → Database.currentVersion < version →
      version < UInt32.size →
      Database.migrate db = .error (.migration version Database.currentVersion) db) ∧
    (∀ error next, Database.migrate db = .error error next →
      next = db ∨ db.versions = none ∧ next = { db with versions := some [] }) ∧
    ((∃ next, Database.migrate db = .ok () next) ↔
      db.Latest Database.currentVersion ∨
        (db.recorded = [] ∨ db.Latest 0) ∧ db.config = none ∧ db.reporters = none) := by
  refine ⟨?opened, ?later, ?failed, Database.exists_migrate_eq_ok_iff⟩
  case opened =>
    intro next h
    have hcurrent := Database.current_of_migrate h
    exact ⟨Database.current_iff_latest.mp hcurrent, Database.extends_of_migrate h,
      Database.migrate_of_current hcurrent⟩
  case later =>
    intro version h hlater hfits
    exact Database.migrate_of_later h hlater hfits
  case failed =>
    intro error next h
    exact Database.eq_of_migrate_error h

namespace Sample

/-- A reporter's row. -/
def row : Row := Row.ofReporter (Reporter.new ⟨3⟩ ⟨.plain, [0x62]⟩ .publisher "" "")

/-- Versions that no layout has are recorded, and there are no tables. -/
def bare : Database := ⟨some [-2, 0], none, none⟩

/-- The tables of a later version, which had been one of the current version. -/
def newer : Database := ⟨some [1, 99], some (some (.blob [0xa0])), some [row]⟩

/-- The table of the configuration is missing, and so are the versions. -/
def halfMade : Database := ⟨none, none, some [row]⟩

end Sample

/-- A database gets its tables, a newer one is refused, and in a database that is half set
up the table that was created before the other one failed is gone again. -/
theorem opening_loses_nothing_sample :
    (∃ next, Database.migrate Sample.bare = .ok () next ∧
      next.Latest Database.currentVersion ∧ next.Extends Sample.bare ∧
        Database.migrate next = .ok () next) ∧
    Database.migrate Sample.newer
      = .error (.migration 99 Database.currentVersion) Sample.newer ∧
    ∃ error next, Database.migrate Sample.halfMade = .error error next ∧
      next = { Sample.halfMade with versions := some [] } := by
  obtain ⟨hopened, -, -, hopens⟩ := opening_loses_nothing Sample.bare
  obtain ⟨-, hlater, -, -⟩ := opening_loses_nothing Sample.newer
  obtain ⟨-, -, hfailed, -⟩ := opening_loses_nothing Sample.halfMade
  refine ⟨?bare, ?newer, ?halfMade⟩
  case bare =>
    have hzero : Sample.bare.Latest 0 := Database.latest_iff.mpr (by decide)
    obtain ⟨next, h⟩ := hopens.mpr (Or.inr ⟨Or.inr hzero, rfl, rfl⟩)
    exact ⟨next, h, hopened next h⟩
  case newer =>
    have hlatest : Sample.newer.Latest 99 := Database.latest_iff.mpr (by decide)
    exact hlater 99 hlatest (by decide) (by decide)
  case halfMade =>
    have h : Database.migrate Sample.halfMade
        = .error .database { Sample.halfMade with versions := some [] } := rfl
    refine ⟨_, _, h, ?_⟩
    rcases hfailed _ _ h with hsame | ⟨-, hmade⟩
    · cases congrArg Database.versions hsame
    · exact hmade

end ReporterRegistry
