import Mathlib.Data.List.Forall2
import ReporterRegistry.Proofs.Outcomes
import ReporterRegistry.Proofs.Store.Agreement

/-!
# Rows and the reporters they stand for

A row of cells is read as a reporter exactly if it is the row that this reporter is
written as (`TypedRow.reporter_eq_ok_iff`): every column is read by the inverse of how
it is written, and what no reporter is written as is refused as invalid data.

Several rows are read one by one, in order, or not at all
(`Database.readRows_eq_ok_iff`). So no page leaves out a row that cannot be read.
-/

namespace ReporterRegistry

/-! ### Columns -/

theorem ReporterId.ofBytes?_eq_some_iff {bs : Bytes} {id : ReporterId} :
    ofBytes? bs = some id ↔ bs = id.bytes := by
  constructor
  · intro h
    unfold ofBytes? at h
    split at h
    · rename_i hlength
      have hvalue : bs.toNat < 2 ^ 128 := by
        have hlt := Bytes.toNat_lt bs
        rwa [hlength] at hlt
      cases h
      rw [bytes, BitVec.toNat_ofNat, Nat.mod_eq_of_lt hvalue, ← hlength, Bytes.ofNatBE_toNat]
    · cases h
  · intro h
    rw [h, ofBytes?_bytes]

theorem Role.ofCode?_eq_some_iff {n : Nat} {role : Role} : ofCode? n = some role ↔ role.code = n :=
  ⟨code_of_ofCode?, fun h => h ▸ ofCode?_code role⟩

theorem Status.ofCode?_eq_some_iff {n : Nat} {status : Status} :
    ofCode? n = some status ↔ status.code = n :=
  ⟨code_of_ofCode?, fun h => h ▸ ofCode?_code status⟩

namespace TypedRow

theorem orFault_eq_ok_iff {α : Type} {value? : Option α} {fault : DataFault} {value : α} :
    orFault value? fault = .ok value ↔ value? = some value := by
  cases value? <;> simp [orFault]

theorem amount?_eq_some_iff {bs : Bytes} {amount : Amount} :
    amount? bs = some amount ↔ bs = Bytes.ofNatBE 16 amount.toNat := by
  constructor
  · intro h
    have hid : ReporterId.ofBytes? bs = some ⟨amount⟩ := by
      unfold amount? at h
      unfold ReporterId.ofBytes?
      split at h <;> simp_all
    exact ReporterId.ofBytes?_eq_some_iff.mp hid
  · intro h
    rw [h, amount?_ofNatBE]

/-- A signed number of 64 bits, which is at most the last time that stores keep, is a
time if it is not negative. -/
theorem time?_eq_some_iff {n : Int} (hn : n ≤ maxSeconds.toNat) {time : Seconds} :
    time? n = some time ↔ n = time.toNat ∧ ¬ maxSeconds < time := by
  have hmax : maxSeconds.toNat = 2 ^ 63 - 1 := rfl
  rw [BitVec.lt_def, hmax]
  constructor
  · intro h
    unfold time? at h
    split at h
    · cases h
      rw [BitVec.toNat_ofNat, Nat.mod_eq_of_lt (by omega)]
      omega
    · cases h
  · rintro ⟨rfl, -⟩
    exact time?_toNat time

theorem readAccount_eq_ok_iff {id : ReporterId} {format : String} {bs : Bytes}
    {account : Account} :
    readAccount id format bs = .ok account ↔
      format = account.format.name ∧ bs = account.bytes ∧ account.isCanonical = true := by
  constructor
  · intro h
    unfold readAccount AddressFormat.parse at h
    cases hname : AddressFormat.ofName? format with
    | none => simp [hname] at h
    | some found =>
        cases haccount : Account.ofBytes found bs with
        | error error => simp [hname, haccount] at h
        | ok read =>
            simp only [hname, haccount, Except.ok.injEq] at h
            obtain ⟨hread, hcanonical⟩ := Account.ofBytes_eq_ok_iff.mp haccount
            have hformat := AddressFormat.name_of_ofName? hname
            subst h hread
            exact ⟨hformat.symm, rfl, hcanonical⟩
  · rintro ⟨rfl, rfl, hcanonical⟩
    exact readAccount_of_canonical id hcanonical

/-! ### Rows -/

/-- **A row is read exactly as the reporter it is written for.** -/
theorem reporter_eq_ok_iff {row : TypedRow} (htime : row.unlockTime ≤ maxSeconds.toNat)
    {reporter : Reporter} :
    row.reporter = .ok reporter ↔
      row = ofReporter reporter ∧ reporter.Readable ∧ ¬ maxSeconds < reporter.unlockTime := by
  constructor
  · intro h
    simp only [TypedRow.reporter, bind_eq_ok_iff, orFault_eq_ok_iff, readAccount_eq_ok_iff,
      ReporterId.ofBytes?_eq_some_iff, Role.ofCode?_eq_some_iff, Status.ofCode?_eq_some_iff,
      amount?_eq_some_iff, time?_eq_some_iff htime] at h
    obtain ⟨id, hid, account, ⟨hformat, haccount, hcanonical⟩, token, ⟨htokenFormat, htoken,
      htokenCanonical⟩, role, hrole, status, hstatus, stake, hstake, time, ⟨hunlock, hkept⟩, h⟩ := h
    cases h
    refine ⟨?_, ⟨hcanonical, htokenCanonical⟩, hkept⟩
    cases row
    simp_all [ofReporter]
  · rintro ⟨rfl, hreadable, -⟩
    exact reporter_of_readable hreadable

/-- A result that fails blames the data. -/
def BlamesData {α : Type} (result : Except StoreError α) : Prop :=
  ∀ error, result = .error error → ∃ fault, error = .invalidData fault

theorem BlamesData.bind {α β : Type} {result : Except StoreError α}
    {next : α → Except StoreError β} (h : BlamesData result) (hnext : ∀ a, BlamesData (next a)) :
    BlamesData (result >>= next) := by
  intro error herror
  rcases bind_eq_error_iff.mp herror with hfirst | ⟨a, -, hsecond⟩
  · exact h error hfirst
  · exact hnext a error hsecond

theorem blamesData_orFault {α : Type} (value? : Option α) (fault : DataFault) :
    BlamesData (orFault value? fault) := by
  intro error h
  cases value? with
  | none =>
      cases h
      exact ⟨fault, rfl⟩
  | some value => cases h

theorem blamesData_readAccount (id : ReporterId) (format : String) (bs : Bytes) :
    BlamesData (readAccount id format bs) := by
  intro error h
  unfold readAccount at h
  split at h
  · cases h
    exact ⟨_, rfl⟩
  · split at h
    · cases h
      exact ⟨_, rfl⟩
    · cases h

/-- A row that is refused is refused for its data. -/
theorem blamesData_reporter (row : TypedRow) : BlamesData row.reporter := by
  refine (blamesData_orFault _ _).bind fun id => ?_
  refine (blamesData_readAccount _ _ _).bind fun account => ?_
  refine (blamesData_readAccount _ _ _).bind fun token => ?_
  refine (blamesData_orFault _ _).bind fun role => ?_
  refine (blamesData_orFault _ _).bind fun status => ?_
  refine (blamesData_orFault _ _).bind fun stake => ?_
  refine (blamesData_orFault _ _).bind fun time => ?_
  intro error h
  cases h

end TypedRow

/-- The row is read as the reporter. -/
def Row.Decodes (row : Row) (reporter : Reporter) : Prop :=
  ∃ values, row.typed? = some values ∧ values.reporter = .ok reporter

theorem Row.decodes_ofReporter {reporter : Reporter} (h : reporter.Readable) :
    (Row.ofReporter reporter).Decodes reporter :=
  ⟨_, typed?_ofReporter reporter, TypedRow.reporter_of_readable h⟩

/-- Columns keep the cells that a reporter is written as. -/
theorem Row.convert_ofReporter (reporter : Reporter) (column : Column) :
    ((Row.ofReporter reporter).get column).convert column.affinity
      = (Row.ofReporter reporter).get column := by
  cases column <;> rfl

/-! ### Selected rows -/

namespace Database

theorem readRows_cons_eq_ok_iff {row : Row} {rows : List Row} {reporters : List Reporter} :
    readRows (row :: rows) = .ok reporters ↔
      ∃ reporter, row.Decodes reporter ∧
        ∃ rest, readRows rows = .ok rest ∧ reporters = reporter :: rest := by
  unfold readRows Row.Decodes
  rw [List.mapM_cons]
  cases row.typed? with
  | none => simp
  | some values =>
      cases rows.mapM Row.typed? with
      | none => simp
      | some rest =>
          simp [List.mapM_cons, bind_eq_ok_iff, pure, Except.pure, eq_comm (a := reporters)]

/-- **Rows are read one by one and in order**, and if one cannot be read, none is. -/
theorem readRows_eq_ok_iff {rows : List Row} {reporters : List Reporter} :
    readRows rows = .ok reporters ↔ List.Forall₂ Row.Decodes rows reporters := by
  induction rows generalizing reporters with
  | nil =>
      show Except.ok [] = Except.ok reporters ↔ _
      simp [eq_comm]
  | cons row rows ih =>
      simp only [readRows_cons_eq_ok_iff, ih, List.forall₂_cons_left_iff]
      simp

/-- Of the rows that match, the first one is read. -/
theorem readFirst_filter_eq_ok_iff {p : Row → Bool} {rows : List Row} {found : Option Reporter} :
    readFirst (rows.filter p) = .ok found ↔
      List.Forall₂ Row.Decodes (rows.find? p).toList found.toList := by
  rw [readFirst, map_eq_ok_iff, ← List.head?_filter]
  simp only [readRows_eq_ok_iff]
  cases rows.filter p with
  | nil => cases found <;> simp
  | cons row rest => cases found <;> simp [List.forall₂_cons_left_iff]

variable {db : Database} {rows : List Row}

theorem page_eq_ok_iff (hrows : db.reporters = some rows) (hfew : rows.length ≤ maxRows)
    {skip take : Nat} {reporters : List Reporter} :
    db.page skip take = .ok reporters ↔
      List.Forall₂ Row.Decodes ((rows.drop skip).take take) reporters := by
  rw [← readRows_eq_ok_iff, ← take_drop_min hfew]
  simp only [page, Database.rows, hrows, ok_bind]

theorem reporter_eq_ok_iff (hrows : db.reporters = some rows) {id : ReporterId}
    {found : Option Reporter} :
    db.reporter id = .ok found ↔
      List.Forall₂ Row.Decodes (rows.find? (hasId id)).toList found.toList := by
  simp only [← readFirst_filter_eq_ok_iff, reporter, Database.rows, hrows, ok_bind]

theorem findByAccount_eq_ok_iff (hrows : db.reporters = some rows) {account : Account}
    {found : Option Reporter} :
    db.findByAccount account = .ok found ↔
      List.Forall₂ Row.Decodes (rows.find? (hasAccount account)).toList found.toList := by
  simp only [← readFirst_filter_eq_ok_iff, findByAccount, Database.rows, hrows, ok_bind]

/-! ### Written rows -/

theorem rows_eq_ok_iff : db.rows = .ok rows ↔ db.reporters = some rows := by
  unfold Database.rows
  cases db.reporters <;> simp

/-- The first row of an id stands for the reporter. -/
theorem reporter_of_find? {reporter : Reporter} (hreadable : reporter.Readable)
    (hrows : db.reporters = some rows)
    (hfirst : rows.find? (hasId reporter.id) = some (Row.ofReporter reporter)) :
    db.reporter reporter.id = .ok (some reporter) := by
  rw [reporter_eq_ok_iff hrows, hfirst]
  exact .cons (Row.decodes_ofReporter hreadable) .nil

/-- A reporter that was inserted is read back, whatever else is in the table. -/
theorem reporter_of_insertReporter {next : Database} {reporter : Reporter}
    (hreadable : reporter.Readable) (h : db.insertReporter reporter = .ok (true, next)) :
    next.reporter reporter.id = .ok (some reporter) := by
  simp only [insertReporter, bind_eq_ok_iff, rows_eq_ok_iff] at h
  obtain ⟨-, -, rows, -, h⟩ := h
  split at h
  · cases h
  · rename_i hfree
    cases h
    refine reporter_of_find? hreadable rfl ?_
    have hnone : rows.find? (hasId reporter.id) = none := by
      simpa using hfree
    rw [List.find?_append, hnone, Option.none_or]
    exact List.find?_cons_of_pos (by simp [hasId_ofReporter])

/-- A reporter that was replaced is read back, whatever else is in the table. -/
theorem reporter_of_putReporter {next : Database} {reporter : Reporter}
    (hreadable : reporter.Readable) (h : db.putReporter reporter = .ok next) :
    next.reporter reporter.id = .ok (some reporter) := by
  simp only [putReporter, bind_eq_ok_iff, rows_eq_ok_iff] at h
  obtain ⟨-, -, rows, -, h⟩ := h
  split at h
  · rename_i htaken
    cases h
    refine reporter_of_find? hreadable rfl ?_
    obtain ⟨row, hfound⟩ := Option.isSome_iff_exists.mp (List.find?_isSome.mpr
      (List.any_eq_true.mp htaken))
    have hkept : (hasId reporter.id ∘ fun row =>
        if hasId reporter.id row then Row.ofReporter reporter else row)
          = hasId reporter.id := by
      funext row
      by_cases hrow : hasId reporter.id row = true
      · simp [hrow, hasId_ofReporter]
      · simp [hrow]
    rw [List.find?_map, hkept, hfound, Option.map_some, if_pos (List.find?_some hfound)]
  · cases h

end Database

/-- **The row format is exact.** A reporter with canonical accounts is read back from
the row it is written as, which no column changes, and from whatever table it is
written into. Any other row of values is refused as invalid data. And rows are answered
only as the reporters they are read as, all of them and in order: a row that cannot be
read is not left out. -/
theorem row_format_exact :
    (∀ reporter : Reporter, reporter.Readable → ¬ maxSeconds < reporter.unlockTime →
      (Row.ofReporter reporter).Decodes reporter ∧
      (∀ column : Column, ((Row.ofReporter reporter).get column).convert column.affinity
        = (Row.ofReporter reporter).get column) ∧
      ∀ db next : Database,
        db.insertReporter reporter = .ok (true, next) ∨ db.putReporter reporter = .ok next →
          next.reporter reporter.id = .ok (some reporter)) ∧
    (∀ row : TypedRow, row.unlockTime ≤ maxSeconds.toNat →
      (∃ reporter, row.reporter = .ok reporter ∧ (Row.ofReporter reporter).typed? = some row) ∨
        ∃ fault, row.reporter = .error (.invalidData fault)) ∧
    ∀ (db : Database) (rows : List Row), db.reporters = some rows → rows.length ≤ Database.maxRows →
      (∀ skip take reporters, db.page skip take = .ok reporters ↔
        List.Forall₂ Row.Decodes ((rows.drop skip).take take) reporters) ∧
      ∀ account found, db.findByAccount account = .ok found ↔
        List.Forall₂ Row.Decodes (rows.find? (Database.hasAccount account)).toList
          found.toList := by
  refine ⟨?written, ?row, ?selected⟩
  case written =>
    intro reporter hreadable htime
    refine ⟨Row.decodes_ofReporter hreadable, Row.convert_ofReporter reporter, ?_⟩
    intro db next h
    rcases h with hinsert | hput
    · exact Database.reporter_of_insertReporter hreadable hinsert
    · exact Database.reporter_of_putReporter hreadable hput
  case row =>
    intro row htime
    cases hread : row.reporter with
    | ok reporter =>
        obtain ⟨hrow, -, -⟩ := (TypedRow.reporter_eq_ok_iff htime).mp hread
        exact Or.inl ⟨reporter, rfl, hrow ▸ Row.typed?_ofReporter reporter⟩
    | error error =>
        obtain ⟨fault, rfl⟩ := row.blamesData_reporter error hread
        exact Or.inr ⟨fault, rfl⟩
  case selected =>
    intro db rows hrows hfew
    exact ⟨fun skip take reporters => Database.page_eq_ok_iff hrows hfew,
      fun account found => Database.findByAccount_eq_ok_iff hrows⟩

namespace Sample

/-- The values of a row with a code that no status has. -/
def damagedRow : TypedRow := { TypedRow.ofReporter tracer with status := 3 }

/-- A table of one row. -/
def tracerTable : Database := { Database.fresh with reporters := some [Row.ofReporter tracer] }

end Sample

/-- The sample reporter is read back, alone and from a table, and a row with an unknown
status is invalid data. -/
theorem row_format_exact_sample :
    (Row.ofReporter Sample.tracer).Decodes Sample.tracer ∧
      Sample.tracerTable.page 0 5 = .ok [Sample.tracer] ∧
      ∃ fault, Sample.damagedRow.reporter = .error (.invalidData fault) := by
  obtain ⟨hwritten, hrow, htable⟩ := row_format_exact
  have hdecodes := (hwritten Sample.tracer ⟨by decide, by decide⟩ (by decide)).1
  refine ⟨hdecodes, ?page, ?damaged⟩
  case page =>
    have hselected := htable Sample.tracerTable [Row.ofReporter Sample.tracer] rfl (by decide)
    exact (hselected.1 0 5 [Sample.tracer]).mpr (.cons hdecodes .nil)
  case damaged =>
    rcases hrow Sample.damagedRow (by decide) with ⟨reporter, -, hsame⟩ | hfault
    · rw [Row.typed?_ofReporter] at hsame
      have hcode : reporter.status.code = 3 := congrArg TypedRow.status (Option.some.inj hsame)
      cases hstatus : reporter.status <;> simp [hstatus, Status.code] at hcode
    · exact hfault

end ReporterRegistry
