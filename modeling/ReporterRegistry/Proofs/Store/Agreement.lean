import ReporterRegistry.Proofs.Store.Tables
import ReporterRegistry.Session.Step

/-!
# The two stores agree

Whatever calls are made, in whatever order, a database answers what a store in
memory answers, value by value and error by error, and it goes on to do so when
it is closed and opened again in between.

The store in memory is the specification. One call on the database that holds
some records gives the answer of the same call on the records, and leaves the
database that holds the next records (`respond_ofMemory`); the rest is an
induction on the calls. What has to be kept up is that the database can give back
what was written (`Storable`), and that its rows are few enough to be counted
with signed numbers of 64 bits, as its row keys are.
-/

namespace ReporterRegistry

open Session (StoreStep Answer)

/-! ### Calls and answers -/

/-- One thing that happens to a store. -/
inductive StoreEvent where
  | call (step : StoreStep)
  /-- The store is closed and opened again. -/
  | reopen
  deriving DecidableEq, Repr

/-- The answer to a call, and the next store. -/
def respond {σ : Type} [Store σ] (step : StoreStep) (store : σ) : Except StoreError Answer × σ :=
  match step.perform store with
  | .ok answer next => (.ok answer, next)
  | .error error next => (.error error, next)

/-- The answers to all calls. If the store cannot be opened again, that is an answer
too. -/
def answers {σ : Type} [Store σ] (reopen : EStateM StoreError σ Unit) :
    List StoreEvent → σ → List (Except StoreError Answer)
  | [], _ => []
  | .call step :: events, store =>
    (respond step store).1 :: answers reopen events (respond step store).2
  | .reopen :: events, store =>
    match reopen store with
    | .ok () next => answers reopen events next
    | .error error next => .error error :: answers reopen events next

/-- The records that the calls leave in memory. -/
def recorded : List StoreEvent → MemoryStore → MemoryStore
  | [], store => store
  | .call step :: events, store => recorded events (respond step store).2
  | .reopen :: events, store => recorded events store

/-- What is written by the event can be given back: the accounts of reporters are
canonical, and those of configurations sized. -/
def StoreEvent.Admissible : StoreEvent → Prop
  | .call (.insertConfiguration config) => config.Sized
  | .call (.putConfiguration config) => config.Sized
  | .call (.insertReporter reporter) => reporter.Readable
  | .call (.putReporter reporter) => reporter.Readable
  | _ => True

/-! ### Records that a database can give back -/

namespace MemoryStore

/-- A database can give back the records. -/
structure Storable (store : MemoryStore) : Prop where
  sound : store.Sound
  sized : ∀ config, store.config = some config → config.Sized
  readable : ∀ {id : ReporterId} {reporter : Reporter},
    store.reporters.get? id = some reporter → reporter.Readable

variable {store : MemoryStore}

theorem Storable.empty : MemoryStore.empty.Storable where
  sound := Sound.empty
  sized := by simp [MemoryStore.empty]
  readable h := by simp [MemoryStore.empty] at h

theorem Storable.withConfiguration (h : store.Storable) {config : Configuration}
    (hsized : config.Sized) : (store.withConfiguration config).Storable where
  sound := h.sound.withConfiguration config
  sized _ hconfig := Option.some.inj hconfig ▸ hsized
  readable := h.readable

theorem Storable.withReporter (h : store.Storable) {reporter : Reporter}
    (htime : ¬ maxSeconds < reporter.unlockTime) (hreadable : reporter.Readable) :
    (store.withReporter reporter).Storable where
  sound := h.sound.withReporter htime
  sized := h.sized
  readable {id found} hfound := by
    rcases get?_withReporter_cases hfound with ⟨-, rfl⟩ | ⟨-, hfound⟩
    · exact hreadable
    · exact h.readable hfound

theorem Storable.readable_of_mem (h : store.Storable) {reporter : Reporter}
    (hmem : reporter ∈ store.reporters.values) : reporter.Readable := by
  obtain ⟨id, hid⟩ := OrderedMap.mem_values.mp hmem
  exact h.readable hid

/-- What inserting a reporter does. -/
theorem insertReporter_cases (store : MemoryStore) (reporter : Reporter) :
    store.insertReporter reporter
        = .error (.invalidData (.timeOutOfRange reporter.id reporter.unlockTime)) ∨
      store.insertReporter reporter = .ok (false, store) ∨
      (¬ maxSeconds < reporter.unlockTime ∧
        store.insertReporter reporter = .ok (true, store.withReporter reporter)) := by
  by_cases htime : maxSeconds < reporter.unlockTime
  · refine Or.inl ?_
    simp only [insertReporter, Reporter.checkUnlockTime, if_pos htime]
  · cases hget : store.reporters.get? reporter.id with
    | none => exact Or.inr (Or.inr ⟨htime, insertReporter_of_none htime hget⟩)
    | some found => exact Or.inr (Or.inl (insertReporter_of_some htime hget))

/-- What replacing a reporter does. -/
theorem putReporter_cases (store : MemoryStore) (reporter : Reporter) :
    (∃ error text, error.message? = some text ∧ store.putReporter reporter = .error error) ∨
      (¬ maxSeconds < reporter.unlockTime ∧
        store.putReporter reporter = .ok (store.withReporter reporter)) := by
  by_cases htime : maxSeconds < reporter.unlockTime
  · refine Or.inl ⟨.invalidData (.timeOutOfRange reporter.id reporter.unlockTime), _, rfl, ?_⟩
    simp only [putReporter, Reporter.checkUnlockTime, if_pos htime]
  · cases hget : store.reporters.get? reporter.id with
    | none =>
        refine Or.inl ⟨.notFound reporter.id, _, rfl, ?_⟩
        simp only [putReporter, Reporter.checkUnlockTime_of_not_lt htime, hget]
    | some found => exact Or.inr ⟨htime, putReporter_of_some htime hget⟩

end MemoryStore

/-! ### One call -/

namespace MemoryStore

variable {store : MemoryStore}

/-- What a call may do to records: they stay such that a database can give them back,
none is lost, and an error can be put in words. -/
structure Proceeds (store : MemoryStore) (reply : Except StoreError Answer × MemoryStore) :
    Prop where
  storable : reply.2.Storable
  size : store.reporters.size ≤ reply.2.reporters.size
  words : ∀ error, reply.1 = .error error → ∃ text, error.message? = some text

namespace Proceeds

variable {next : MemoryStore}

theorem answered (h : next.Storable) (hsize : store.reporters.size ≤ next.reporters.size)
    (a : Answer) : Proceeds store (.ok a, next) where
  storable := h
  size := hsize
  words _ herror := by cases herror

/-- An answer that leaves the records as they are. -/
theorem same (h : store.Storable) (a : Answer) : Proceeds store (.ok a, store) :=
  answered h (Nat.le_refl _) a

theorem refused (h : store.Storable) {error : StoreError} {text : String}
    (htext : error.message? = some text) : Proceeds store (.error error, store) where
  storable := h
  size := Nat.le_refl _
  words _ herror := by
    cases herror
    exact ⟨text, htext⟩

theorem wrote (h : store.Storable) {reporter : Reporter}
    (htime : ¬ maxSeconds < reporter.unlockTime) (hreadable : reporter.Readable) (a : Answer) :
    Proceeds store (.ok a, store.withReporter reporter) :=
  answered (h.withReporter htime hreadable)
    (OrderedMap.size_le_insert store.reporters reporter.id reporter) a

end Proceeds

theorem proceeds_respond (h : store.Storable) {step : StoreStep}
    (hstep : (StoreEvent.call step).Admissible) : Proceeds store (respond step store) := by
  cases step with
  | configuration => exact Proceeds.same h _
  | insertConfiguration config =>
      simp only [respond, StoreStep.perform, Functor.map, EStateM.map, Store.insertConfiguration]
      cases hconfig : store.config with
      | none =>
          rw [insertConfiguration_of_none hconfig]
          exact Proceeds.answered (h.withConfiguration hstep) (Nat.le_refl store.reporters.size) _
      | some found =>
          rw [insertConfiguration_of_some hconfig]
          exact Proceeds.same h _
  | putConfiguration config =>
      exact Proceeds.answered (h.withConfiguration hstep) (Nat.le_refl store.reporters.size) _
  | reporter id => exact Proceeds.same h _
  | insertReporter reporter =>
      simp only [respond, StoreStep.perform, Functor.map, EStateM.map, Store.insertReporter]
      rcases insertReporter_cases store reporter with hinsert | hinsert | ⟨htime, hinsert⟩
      · rw [hinsert]
        exact Proceeds.refused h rfl
      · rw [hinsert]
        exact Proceeds.same h _
      · rw [hinsert]
        exact Proceeds.wrote h htime hstep _
  | putReporter reporter =>
      simp only [respond, StoreStep.perform, bind, EStateM.bind, Store.putReporter]
      rcases putReporter_cases store reporter with ⟨error, text, htext, hput⟩ | ⟨htime, hput⟩
      · rw [hput]
        exact Proceeds.refused h htext
      · rw [hput]
        exact Proceeds.wrote h htime hstep _
  | count => exact Proceeds.same h _
  | page skip take => exact Proceeds.same h _
  | findByAccount account => exact Proceeds.same h _

end MemoryStore

namespace Database

variable {store : MemoryStore}

/-- Skipping and taking more rows than there are is no different from what the
greatest signed numbers do. -/
theorem take_drop_min {α : Type} {l : List α} {bound : Nat} (h : l.length ≤ bound)
    (skip take : Nat) :
    (l.drop (min skip bound)).take (min take bound) = (l.drop skip).take take := by
  have hdrop : l.drop (min skip bound) = l.drop skip := by
    by_cases hskip : skip ≤ bound
    · rw [Nat.min_eq_left hskip]
    · rw [List.drop_eq_nil_of_le (by omega), List.drop_eq_nil_of_le (by omega)]
  rw [hdrop]
  by_cases htake : take ≤ bound
  · rw [Nat.min_eq_left htake]
  · have hlength : (l.drop skip).length ≤ bound := by
      rw [List.length_drop]
      omega
    rw [List.take_of_length_le (by omega), List.take_of_length_le (by omega)]

theorem page_ofMemory (h : store.Storable) (hfew : store.reporters.size ≤ maxRows)
    (skip take : Nat) : (ofMemory store).page skip take = .ok (store.page skip take) := by
  have hlength : store.reporters.values.length ≤ maxRows := by
    rw [OrderedMap.values, List.length_map]
    exact hfew
  have hread : ∀ r ∈ store.page skip take, r.Readable := by
    intro r hr
    exact h.readable_of_mem (List.mem_of_mem_drop (List.mem_of_mem_take hr))
  show readRows (((store.reporters.values.map Row.ofReporter).drop _).take _) = _
  rw [← List.map_drop, ← List.map_take, take_drop_min hlength]
  exact readRows_of_readable hread

theorem findByAccount_ofMemory (h : store.Storable) (account : Account) :
    (ofMemory store).findByAccount account = .ok (store.findByAccount account) := by
  have hsame : hasAccount account ∘ Row.ofReporter
      = fun reporter => decide (reporter.account = account) :=
    funext (hasAccount_ofReporter account)
  have hread : ∀ r ∈ store.reporters.values.filter (fun r => decide (r.account = account)),
      r.Readable := by
    intro r hr
    exact h.readable_of_mem (List.mem_filter.mp hr).1
  show readFirst ((store.reporters.values.map Row.ofReporter).filter (hasAccount account)) = _
  rw [List.filter_map, hsame, readFirst_of_readable hread, List.head?_filter]
  rfl

theorem reporter_ofMemory_of_storable (h : store.Storable) (id : ReporterId) :
    (ofMemory store).reporter id = .ok (store.reporters.get? id) := by
  have hread : ∀ r ∈ (store.reporters.get? id).toList, r.Readable := by
    intro r hr
    rw [Option.mem_toList] at hr
    exact h.readable hr
  rw [reporter_ofMemory h.sound, readFirst_of_readable hread, Option.head?_toList]

/-- **One call**: the database answers what the records answer, and holds afterwards
what they have become. -/
theorem respond_ofMemory (h : store.Storable) (hfew : store.reporters.size ≤ maxRows)
    (step : StoreStep) :
    respond step (ofMemory store) = ((respond step store).1, ofMemory (respond step store).2) := by
  cases step with
  | configuration =>
      simp only [respond, StoreStep.perform, Functor.map, EStateM.map, Store.configuration, answer,
        configuration_ofMemory h.sized]
  | insertConfiguration config =>
      simp only [respond, StoreStep.perform, Functor.map, EStateM.map, Store.insertConfiguration,
        change, insertConfiguration_ofMemory]
  | putConfiguration config => rfl
  | reporter id =>
      simp only [respond, StoreStep.perform, Functor.map, EStateM.map, Store.reporter, answer,
        reporter_ofMemory_of_storable h]
  | insertReporter reporter =>
      simp only [respond, StoreStep.perform, Functor.map, EStateM.map, Store.insertReporter,
        change, insertReporter_ofMemory h.sound]
      cases store.insertReporter reporter <;> rfl
  | putReporter reporter =>
      simp only [respond, StoreStep.perform, bind, EStateM.bind, Store.putReporter, change,
        putReporter_ofMemory h.sound]
      cases store.putReporter reporter <;> rfl
  | count =>
      have hcount : (ofMemory store).count = .ok store.reporters.size := by
        simp [count, rows, ofMemory, OrderedMap.values, OrderedMap.size, Except.map]
      simp only [respond, StoreStep.perform, Functor.map, EStateM.map, Store.count, answer, hcount]
  | page skip take =>
      simp only [respond, StoreStep.perform, Functor.map, EStateM.map, Store.page, answer,
        page_ofMemory h hfew]
  | findByAccount account =>
      simp only [respond, StoreStep.perform, Functor.map, EStateM.map, Store.findByAccount, answer,
        findByAccount_ofMemory h]

end Database

/-! ### All calls -/

/-- No record is lost by any calls. -/
theorem size_le_recorded {store : MemoryStore} (h : store.Storable) {events : List StoreEvent}
    (hadmissible : ∀ event ∈ events, event.Admissible) :
    store.reporters.size ≤ (recorded events store).reporters.size := by
  induction events generalizing store with
  | nil => exact Nat.le_refl _
  | cons event events ih =>
      obtain ⟨hfirst, hrest⟩ := List.forall_mem_cons.mp hadmissible
      cases event with
      | reopen => exact ih h hrest
      | call step =>
          have hproceeds := MemoryStore.proceeds_respond h hfirst
          exact Nat.le_trans hproceeds.size (ih hproceeds.storable hrest)

/-- From records that a database can give back, everything is answered alike. -/
theorem answers_ofMemory {store : MemoryStore} (h : store.Storable) {events : List StoreEvent}
    (hadmissible : ∀ event ∈ events, event.Admissible)
    (hfew : (recorded events store).reporters.size ≤ Database.maxRows) :
    answers (pure ()) events store = answers Database.migrate events (Database.ofMemory store) ∧
      ∀ error, .error error ∈ answers (pure ()) events store →
        ∃ text, error.message? = some text := by
  induction events generalizing store with
  | nil => exact ⟨rfl, by simp [answers]⟩
  | cons event events ih =>
      obtain ⟨hfirst, hrest⟩ := List.forall_mem_cons.mp hadmissible
      cases event with
      | reopen =>
          have hnext := ih h hrest hfew
          simp only [answers, Database.migrate_ofMemory]
          exact hnext
      | call step =>
          have hproceeds := MemoryStore.proceeds_respond h hfirst
          have hnow := Nat.le_trans (size_le_recorded h hadmissible) hfew
          have hrespond := Database.respond_ofMemory h hnow step
          obtain ⟨hnext, hwords⟩ := ih hproceeds.storable hrest hfew
          simp only [answers, hrespond]
          constructor
          · rw [hnext]
          · intro error herror
            rcases List.mem_cons.mp herror with hhead | htail
            · exact hproceeds.words error hhead.symm
            · exact hwords error htail

/-- **The two stores agree.** An empty store in memory and a new database give the
same answers to every sequence of calls that writes canonical reporters, wherever
the database is closed and opened again. All errors among the answers can be put in
words. The accounts of a configuration are shorter than `2 ^ 64` octets, as all
octets in a program are, and no more reporters come together than a table has row
keys for. -/
theorem stores_agree {events : List StoreEvent} (hadmissible : ∀ event ∈ events, event.Admissible)
    (hfew : (recorded events MemoryStore.empty).reporters.size < 2 ^ 63) :
    answers (pure ()) events MemoryStore.empty = answers Database.migrate events Database.fresh ∧
      ∀ error, .error error ∈ answers (pure ()) events MemoryStore.empty →
        ∃ text, error.message? = some text := by
  rw [Database.fresh_eq]
  exact answers_ofMemory MemoryStore.Storable.empty hadmissible (Nat.le_pred_of_lt hfew)

namespace Sample

/-- A reporter with the greatest stake. -/
def tracer : Reporter :=
  { Reporter.new ⟨7⟩ ⟨.plain, [0x61]⟩ .tracer "name" "url" with stake := BitVec.allOnes 128 }

/-- A double insertion, a change of a reporter that is missing, a time that is out of
range, a page beyond what signed numbers count, and openings in between. -/
def events : List StoreEvent :=
  [.call (.insertReporter tracer), .reopen, .call (.insertReporter tracer),
    .call (.putReporter { tracer with id := ⟨8⟩ }), .reopen,
    .call (.putReporter { tracer with unlockTime := maxSeconds + 1 }),
    .call (.page 0 (2 ^ 64 - 1)), .call (.findByAccount ⟨.plain, [0x61]⟩)]

end Sample

/-- The sample calls meet what the agreement asks for. -/
theorem stores_agree_sample :
    answers (pure ()) Sample.events MemoryStore.empty
      = answers Database.migrate Sample.events Database.fresh := by
  have hreadable : Sample.tracer.Readable := ⟨by decide, by decide⟩
  have hadmissible : ∀ event ∈ Sample.events, event.Admissible := by
    simp only [Sample.events, List.forall_mem_cons, StoreEvent.Admissible]
    exact ⟨hreadable, trivial, hreadable, ⟨hreadable.1, hreadable.2⟩, trivial,
      ⟨hreadable.1, hreadable.2⟩, trivial, trivial, by simp⟩
  exact (stores_agree hadmissible (by decide +kernel)).1

end ReporterRegistry
