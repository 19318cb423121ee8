import ReporterRegistry.Proofs.Cbor.Records
import ReporterRegistry.Proofs.Store.Records
import ReporterRegistry.Store.Migration

/-!
# Records in tables

`Database.ofMemory` is the database that holds given records: the configuration
as a blob, and one row for each reporter in creation order. A row is read as the
reporter it was written for, or not at all, and it is read if the reporter's
accounts are canonical. Rows are told apart by the octets of their ids, which
tell ids apart.

So a database is a kind of store that holds records (the instance at the end),
as long as the accounts of its configuration are sized.
-/

namespace ReporterRegistry

/-! ### Rows -/

/-- The values of the row that a reporter is written as. -/
def TypedRow.ofReporter (reporter : Reporter) : TypedRow where
  id := reporter.id.bytes
  accountFormat := reporter.account.format.name
  account := reporter.account.bytes
  name := reporter.name
  url := reporter.url
  role := reporter.role.code
  status := reporter.status.code
  stake := Bytes.ofNatBE 16 reporter.stake.toNat
  tokenFormat := reporter.stakeToken.format.name
  token := reporter.stakeToken.bytes
  unlockTime := reporter.unlockTime.toNat

theorem Role.octet?_code (role : Role) : (Cell.integer role.code).octet? = some role.code := by
  cases role <;> rfl

theorem Status.octet?_code (status : Status) :
    (Cell.integer status.code).octet? = some status.code := by
  cases status <;> rfl

/-- A written row has cells of the kinds that its columns ask for. -/
theorem Row.typed?_ofReporter (reporter : Reporter) :
    (Row.ofReporter reporter).typed? = some (.ofReporter reporter) := by
  simp only [Row.typed?, Row.ofReporter, Role.octet?_code, Status.octet?_code]
  rfl

theorem ReporterId.ofBytes?_bytes (id : ReporterId) : ofBytes? id.bytes = some id := by
  have h : id.value.toNat < 256 ^ 16 := id.value.isLt
  simp [ofBytes?, bytes, Bytes.toNat_ofNatBE h]

/-- Ids are told apart by their octets, on which rows are selected. -/
theorem ReporterId.bytes_inj {id id' : ReporterId} : id.bytes = id'.bytes ↔ id = id' := by
  constructor
  · intro h
    have hread : some id = some id' := by
      rw [← ofBytes?_bytes id, h, ofBytes?_bytes]
    cases hread
    rfl
  · intro h
    rw [h]

/-- Formats are told apart by their names, as rows hold them. -/
theorem AddressFormat.name_inj {format format' : AddressFormat} :
    format.name = format'.name ↔ format = format' := by
  constructor
  · intro h
    have hread : some format = some format' := by
      rw [← ofName?_name format, h, ofName?_name]
    cases hread
    rfl
  · intro h
    rw [h]

/-- The accounts that a row holds are such that a database takes them back. -/
structure Reporter.Readable (reporter : Reporter) : Prop where
  account : reporter.account.isCanonical = true
  stakeToken : reporter.stakeToken.isCanonical = true

namespace TypedRow

theorem parse_name (format : AddressFormat) : AddressFormat.parse format.name = .ok format := by
  simp [AddressFormat.parse]

theorem readAccount_of_canonical (id : ReporterId) {account : Account}
    (h : account.isCanonical = true) :
    readAccount id account.format.name account.bytes = .ok account := by
  have haccount : Account.ofBytes account.format account.bytes = .ok account :=
    Account.ofBytes_eq_ok_iff.mpr ⟨rfl, h⟩
  simp only [readAccount, parse_name, haccount]

/-- An account is read as it was written, or refused. -/
theorem readAccount_cases (id : ReporterId) (account : Account) :
    readAccount id account.format.name account.bytes = .ok account ∨
      ∃ error, readAccount id account.format.name account.bytes = .error error := by
  cases h : account.isCanonical with
  | true => exact Or.inl (readAccount_of_canonical id h)
  | false =>
      refine Or.inr ?_
      cases haccount : Account.ofBytes account.format account.bytes with
      | ok found =>
          obtain ⟨rfl, hcanonical⟩ := Account.ofBytes_eq_ok_iff.mp haccount
          rw [h] at hcanonical
          cases hcanonical
      | error error =>
          refine ⟨.invalidData (.input id error), ?_⟩
          simp only [readAccount, parse_name, haccount]

theorem amount?_ofNatBE (amount : Amount) :
    amount? (Bytes.ofNatBE 16 amount.toNat) = some amount := by
  have h : amount.toNat < 256 ^ 16 := amount.isLt
  simp [amount?, Bytes.toNat_ofNatBE h]

theorem time?_toNat (time : Seconds) : time? time.toNat = some time := by
  simp [time?]

/-- The accounts decide whether a row is read; everything else always is. -/
theorem reporter_ofReporter (reporter : Reporter) :
    (ofReporter reporter).reporter = do
      let account ← readAccount reporter.id reporter.account.format.name reporter.account.bytes
      let token ← readAccount reporter.id reporter.stakeToken.format.name reporter.stakeToken.bytes
      return { reporter with account := account, stakeToken := token } := by
  simp only [TypedRow.reporter, ofReporter, ReporterId.ofBytes?_bytes, Role.ofCode?_code,
    Status.ofCode?_code, amount?_ofNatBE, time?_toNat, orFault]
  rfl

theorem reporter_of_readable {reporter : Reporter} (h : reporter.Readable) :
    (ofReporter reporter).reporter = .ok reporter := by
  rw [reporter_ofReporter, readAccount_of_canonical reporter.id h.account,
    readAccount_of_canonical reporter.id h.stakeToken]
  rfl

/-- **A row is read as the reporter it was written for**, or not at all. -/
theorem reporter_cases (reporter : Reporter) :
    (ofReporter reporter).reporter = .ok reporter ∨
      ∃ error, (ofReporter reporter).reporter = .error error := by
  rw [reporter_ofReporter]
  rcases readAccount_cases reporter.id reporter.account with haccount | ⟨error, haccount⟩
  · rw [haccount]
    rcases readAccount_cases reporter.id reporter.stakeToken with htoken | ⟨error, htoken⟩
    · rw [htoken]
      exact Or.inl rfl
    · rw [htoken]
      exact Or.inr ⟨error, rfl⟩
  · rw [haccount]
    exact Or.inr ⟨error, rfl⟩

end TypedRow

/-! ### Tables -/

namespace OrderedMap

/-- Where every value stands under its own key, looking up a key is selecting its
value. -/
theorem filter_find? {κ ν : Type} [DecidableEq κ] (key : ν → κ) {entries : List (κ × ν)}
    (hnd : (entries.map Prod.fst).Nodup) (hkey : ∀ entry ∈ entries, key entry.2 = entry.1)
    (k : κ) :
    (entries.map Prod.snd).filter (fun v => key v = k) = (find? k entries).toList := by
  induction entries with
  | nil => rfl
  | cons entry rest ih =>
      obtain ⟨k', v⟩ := entry
      rw [List.map_cons, List.nodup_cons] at hnd
      have hhead : key v = k' := hkey (k', v) List.mem_cons_self
      have hrest := ih hnd.2 fun e he => hkey e (List.mem_cons_of_mem _ he)
      rw [List.map_cons]
      by_cases hk : k' = k
      · have hnone : find? k rest = none := find?_eq_none_iff.mpr (hk ▸ hnd.1)
        rw [List.filter_cons_of_pos (by simp [hhead, hk]), hrest, hnone]
        simp [find?, hk]
      · rw [List.filter_cons_of_neg (by simp [hhead, hk]), hrest]
        simp [find?, hk]

end OrderedMap

namespace MemoryStore

/-- Selecting the reporters of an id gives what stands under the id. -/
theorem Sound.filter_id {store : MemoryStore} (h : store.Sound) (id : ReporterId) :
    store.reporters.values.filter (fun reporter => reporter.id = id)
      = (store.reporters.get? id).toList := by
  refine OrderedMap.filter_find? Reporter.id store.reporters.nodup ?_ id
  intro entry hentry
  exact h.keyed (OrderedMap.find?_of_mem store.reporters.nodup hentry)

end MemoryStore

namespace Database

theorem answer_of_ok {α : Type} {query : Database → Except StoreError α} {db : Database} {a : α}
    (h : query db = .ok a) : answer query db = .ok a db := by
  rw [answer, h]

theorem hasId_ofReporter (id : ReporterId) (reporter : Reporter) :
    hasId id (Row.ofReporter reporter) = decide (reporter.id = id) := by
  simp [hasId, Row.ofReporter, ReporterId.bytes_inj]

theorem hasAccount_ofReporter (account : Account) (reporter : Reporter) :
    hasAccount account (Row.ofReporter reporter) = decide (reporter.account = account) := by
  obtain ⟨format, content⟩ := account
  have hparts : reporter.account = ⟨format, content⟩ ↔
      reporter.account.format = format ∧ reporter.account.bytes = content := by
    constructor
    · intro h
      rw [h]
      exact ⟨rfl, rfl⟩
    · rintro ⟨rfl, rfl⟩
      rfl
  simp [hasAccount, Row.ofReporter, AddressFormat.name_inj, hparts]

/-- The database that holds the records. -/
def ofMemory (store : MemoryStore) : Database where
  versions := some [1]
  config := some (store.config.map fun config => .blob config.toBlob)
  reporters := some (store.reporters.values.map Row.ofReporter)

/-! ### Reading tables -/

/-- Written rows have cells of the right kinds; what remains is to check their values. -/
theorem readRows_ofReporter (reporters : List Reporter) :
    readRows (reporters.map Row.ofReporter)
      = (reporters.map TypedRow.ofReporter).mapM TypedRow.reporter := by
  have htyped : (reporters.map Row.ofReporter).mapM Row.typed?
      = some (reporters.map TypedRow.ofReporter) := by
    induction reporters with
    | nil => rfl
    | cons r reporters ih =>
        rw [List.map_cons, List.mapM_cons, Row.typed?_ofReporter, ih]
        rfl
  rw [readRows, htyped]

/-- Rows of canonical accounts are read as the reporters they were written for. -/
theorem readRows_of_readable {reporters : List Reporter} (h : ∀ r ∈ reporters, r.Readable) :
    readRows (reporters.map Row.ofReporter) = .ok reporters := by
  rw [readRows_ofReporter]
  induction reporters with
  | nil => rfl
  | cons r reporters ih =>
      rw [List.map_cons, List.mapM_cons, TypedRow.reporter_of_readable (h r List.mem_cons_self),
        ih fun r' hr' => h r' (List.mem_cons_of_mem r hr')]
      rfl

theorem readFirst_of_readable {reporters : List Reporter} (h : ∀ r ∈ reporters, r.Readable) :
    readFirst (reporters.map Row.ofReporter) = .ok reporters.head? := by
  have htake : ∀ r ∈ reporters.take 1, r.Readable := fun r hr => h r (List.mem_of_mem_take hr)
  rw [readFirst, ← List.map_take, readRows_of_readable htake]
  cases reporters <;> rfl

/-- The first row is read as the reporter it was written for, or refused. -/
theorem readFirst_cases (reporters : List Reporter) :
    readFirst (reporters.map Row.ofReporter) = .ok reporters.head? ∨
      ∃ error, readFirst (reporters.map Row.ofReporter) = .error error := by
  cases reporters with
  | nil => exact Or.inl rfl
  | cons r reporters =>
      have hfirst : (r :: reporters).take 1 = [r] := rfl
      rw [readFirst, ← List.map_take, hfirst, readRows_ofReporter, List.map_singleton,
        List.mapM_cons]
      rcases TypedRow.reporter_cases r with hread | ⟨error, hread⟩
      · rw [hread]
        exact Or.inl rfl
      · rw [hread]
        exact Or.inr ⟨error, rfl⟩

/-! ### Databases that hold records -/

theorem fresh_eq : fresh = ofMemory MemoryStore.empty := rfl

/-- Opening a database that holds records changes nothing. -/
theorem migrate_ofMemory (store : MemoryStore) :
    migrate (ofMemory store) = .ok () (ofMemory store) := rfl

section

variable {store : MemoryStore}

/-- The rows of an id are those of the reporter that stands under it. -/
theorem filter_hasId (h : store.Sound) (id : ReporterId) :
    (store.reporters.values.map Row.ofReporter).filter (hasId id)
      = (store.reporters.get? id).toList.map Row.ofReporter := by
  have hsame : hasId id ∘ Row.ofReporter = fun reporter => decide (reporter.id = id) :=
    funext (hasId_ofReporter id)
  rw [List.filter_map, hsame, h.filter_id]

/-- There is a row of an id if there is a reporter under it. -/
theorem any_hasId (h : store.Sound) (id : ReporterId) :
    (store.reporters.values.map Row.ofReporter).any (hasId id)
      = (store.reporters.get? id).isSome := by
  have hfilter := filter_hasId h id
  cases hget : store.reporters.get? id with
  | none =>
      rw [hget] at hfilter
      have hnone := List.filter_eq_nil_iff.mp hfilter
      simpa using hnone
  | some found =>
      have hmem : Row.ofReporter found ∈
          (store.reporters.values.map Row.ofReporter).filter (hasId id) := by
        rw [hfilter, hget]
        exact List.mem_singleton.mpr rfl
      obtain ⟨hrow, hid⟩ := List.mem_filter.mp hmem
      exact List.any_eq_true.mpr ⟨_, hrow, hid⟩

/-- A configuration is given back, if its accounts are sized. -/
theorem configuration_ofMemory
    (h : ∀ config, store.config = some config → config.Sized) :
    (ofMemory store).configuration = .ok store.config := by
  cases hconfig : store.config with
  | none =>
      simp only [configuration, ofMemory, hconfig, Option.map_none]
  | some config =>
      simp only [configuration, ofMemory, hconfig, Option.map_some, readConfiguration,
        Configuration.ofBlob?_toBlob (h config hconfig)]
      rfl

theorem insertConfiguration_ofMemory (config : Configuration) :
    (ofMemory store).insertConfiguration config
      = .ok ((store.insertConfiguration config).1,
        ofMemory (store.insertConfiguration config).2) := by
  cases hconfig : store.config with
  | none =>
      rw [MemoryStore.insertConfiguration_of_none hconfig]
      simp only [insertConfiguration, ofMemory, hconfig, Option.map_none]
      rfl
  | some found =>
      rw [MemoryStore.insertConfiguration_of_some hconfig]
      simp only [insertConfiguration, ofMemory, hconfig, Option.map_some]

theorem reporter_ofMemory (h : store.Sound) (id : ReporterId) :
    (ofMemory store).reporter id
      = readFirst ((store.reporters.get? id).toList.map Row.ofReporter) := by
  rw [← filter_hasId h id]
  rfl

/-- Inserting a row is inserting the reporter. -/
theorem insertReporter_ofMemory (h : store.Sound) (reporter : Reporter) :
    (ofMemory store).insertReporter reporter
      = (store.insertReporter reporter).map fun done => (done.1, ofMemory done.2) := by
  have hany := any_hasId h reporter.id
  cases htime : reporter.checkUnlockTime with
  | error error =>
      simp only [insertReporter, MemoryStore.insertReporter, htime]
      rfl
  | ok u =>
      cases hget : store.reporters.get? reporter.id with
      | some found =>
          rw [hget] at hany
          simp only [insertReporter, MemoryStore.insertReporter, htime, hget, rows, ofMemory, bind,
            Except.bind, hany, Option.isSome_some, if_true]
          rfl
      | none =>
          rw [hget] at hany
          simp only [insertReporter, MemoryStore.insertReporter, htime, hget, rows, ofMemory, bind,
            Except.bind, hany, Option.isSome_none, Bool.false_eq_true, if_false, Except.map,
            OrderedMap.values_insert_of_none reporter hget, List.map_append]
          rfl

/-- Writing a reporter that exists changes its row and no other. -/
theorem map_replaceRow (h : store.Sound) {reporter found : Reporter}
    (hget : store.reporters.get? reporter.id = some found) :
    ((store.reporters.values.map Row.ofReporter).map fun row =>
        if hasId reporter.id row then Row.ofReporter reporter else row)
      = (store.reporters.insert reporter.id reporter).values.map Row.ofReporter := by
  have hvalues : (store.reporters.insert reporter.id reporter).values = _ :=
    h.values_withReporter hget
  rw [hvalues, List.map_map, List.map_map]
  refine List.map_congr_left ?_
  intro found _
  by_cases hid : found.id = reporter.id
  · simp [hasId_ofReporter, hid]
  · simp [hasId_ofReporter, hid]

/-- Changing a row is replacing the reporter. -/
theorem putReporter_ofMemory (h : store.Sound) (reporter : Reporter) :
    (ofMemory store).putReporter reporter = (store.putReporter reporter).map ofMemory := by
  have hany := any_hasId h reporter.id
  cases htime : reporter.checkUnlockTime with
  | error error =>
      simp only [putReporter, MemoryStore.putReporter, htime]
      rfl
  | ok u =>
      cases hget : store.reporters.get? reporter.id with
      | none =>
          rw [hget] at hany
          simp only [putReporter, MemoryStore.putReporter, htime, hget, rows, ofMemory, bind,
            Except.bind, hany, Option.isSome_none, Bool.false_eq_true, if_false]
          rfl
      | some found =>
          rw [hget] at hany
          simp only [putReporter, MemoryStore.putReporter, htime, hget, rows, ofMemory, bind,
            Except.bind, hany, Option.isSome_some, if_true, map_replaceRow h hget]
          rfl

end

/-- **A database holds records** that it can give back: their configuration has
sized accounts. It may refuse to read a reporter, namely if an account of it is
not canonical. -/
instance : RecordStore Database where
  Holds records db :=
    records.Sound ∧ (∀ config, records.config = some config → config.Sized) ∧ db = ofMemory records
  Fits config := config.Sized
  sound h := h.1
  fits h hconfig := h.2.1 _ hconfig
  unique h h' := by rw [h.2.2, h'.2.2]
  configuration {records db} h := by
    obtain ⟨-, hsized, rfl⟩ := h
    show answer configuration (ofMemory records) = _
    rw [answer, configuration_ofMemory hsized]
  reporter {records db} h id := by
    obtain ⟨hsound, -, rfl⟩ := h
    have hread := reporter_ofMemory hsound id
    rcases readFirst_cases (records.reporters.get? id).toList with hfirst | ⟨error, hfirst⟩
    · refine Or.inl ?_
      show answer (fun db => db.reporter id) (ofMemory records) = _
      rw [answer, hread, hfirst]
      cases records.reporters.get? id <;> rfl
    · refine Or.inr ⟨error, ?_⟩
      show answer (fun db => db.reporter id) (ofMemory records) = _
      rw [answer, hread, hfirst]
  insertConfiguration {records db} h hnone config := by
    obtain ⟨hsound, hsized, rfl⟩ := h
    refine ⟨ofMemory (records.withConfiguration config), ?_, fun hfits =>
      ⟨hsound.withConfiguration config, fun _ hconfig => Option.some.inj hconfig ▸ hfits, rfl⟩⟩
    show change (fun db => db.insertConfiguration config) (ofMemory records) = _
    rw [change, insertConfiguration_ofMemory, MemoryStore.insertConfiguration_of_none hnone]
  insertConfiguration_of_taken {records db found} h hsome config := by
    obtain ⟨-, -, rfl⟩ := h
    show change (fun db => db.insertConfiguration config) (ofMemory records) = _
    rw [change, insertConfiguration_ofMemory, MemoryStore.insertConfiguration_of_some hsome]
  putConfiguration {records db} h config := by
    obtain ⟨hsound, hsized, rfl⟩ := h
    exact ⟨ofMemory (records.withConfiguration config), rfl, fun hfits =>
      ⟨hsound.withConfiguration config, fun _ hconfig => Option.some.inj hconfig ▸ hfits, rfl⟩⟩
  insertReporter {records db} h {reporter} htime hnone := by
    obtain ⟨hsound, hsized, rfl⟩ := h
    refine ⟨ofMemory (records.withReporter reporter), ?_, hsound.withReporter htime, hsized, rfl⟩
    show change (fun db => db.insertReporter reporter) (ofMemory records) = _
    rw [change, insertReporter_ofMemory hsound, MemoryStore.insertReporter_of_none htime hnone]
    rfl
  insertReporter_of_taken {records db} h {reporter found} htime hsome := by
    obtain ⟨hsound, -, rfl⟩ := h
    show change (fun db => db.insertReporter reporter) (ofMemory records) = _
    rw [change, insertReporter_ofMemory hsound, MemoryStore.insertReporter_of_some htime hsome]
    rfl
  putReporter {records db} h {reporter found} htime hsome := by
    obtain ⟨hsound, hsized, rfl⟩ := h
    refine ⟨ofMemory (records.withReporter reporter), ?_, hsound.withReporter htime, hsized, rfl⟩
    show change (fun db => (db.putReporter reporter).map ((), ·)) (ofMemory records) = _
    rw [change, putReporter_ofMemory hsound, MemoryStore.putReporter_of_some htime hsome]
    rfl

end Database

end ReporterRegistry
