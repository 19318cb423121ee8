import Mathlib.Algebra.GroupWithZero.Nat
import ReporterRegistry.OrderedMap

/-!
# Rebinding keys

What an insertion does to the list of values: a new key appends its value, a
bound key changes its value in place, and putting the old value back undoes the
change. A sum over the bindings moves by the difference of the two bindings, which
is what accounting over a map needs (`sum_entries_insert`).
-/

namespace ReporterRegistry

namespace OrderedMap

variable {κ ν : Type} [DecidableEq κ]

/-! ### Bindings -/

theorem mem_of_find? {k : κ} {v : ν} {entries : List (κ × ν)} (h : find? k entries = some v) :
    (k, v) ∈ entries := by
  induction entries with
  | nil => simp [find?] at h
  | cons entry rest ih =>
      obtain ⟨a, b⟩ := entry
      by_cases ha : a = k
      · simp only [find?, if_pos ha, Option.some.injEq] at h
        rw [ha, h]
        exact List.mem_cons_self
      · simp only [find?, if_neg ha] at h
        exact List.mem_cons_of_mem _ (ih h)

/-- Where no key is bound twice, every binding in the list is the one that is
found. -/
theorem find?_of_mem {k : κ} {v : ν} {entries : List (κ × ν)}
    (hnd : (entries.map Prod.fst).Nodup) (h : (k, v) ∈ entries) : find? k entries = some v := by
  induction entries with
  | nil => simp at h
  | cons entry rest ih =>
      rw [List.map_cons, List.nodup_cons] at hnd
      rcases List.mem_cons.mp h with rfl | h
      · simp [find?]
      · have hne : entry.1 ≠ k := by
          intro hk
          exact hnd.1 (hk ▸ List.mem_map.mpr ⟨(k, v), h, rfl⟩)
        simp only [find?, if_neg hne]
        exact ih hnd.2 h

theorem upsert_of_find?_eq_none {k : κ} (v : ν) {entries : List (κ × ν)}
    (h : find? k entries = none) : upsert k v entries = entries ++ [(k, v)] := by
  induction entries with
  | nil => rfl
  | cons entry rest ih =>
      by_cases ha : entry.1 = k
      · simp [find?, ha] at h
      · simp only [find?, if_neg ha] at h
        simp only [upsert, if_neg ha, ih h, List.cons_append]

/-- Changing a bound key changes its entry and leaves all others alone. -/
theorem upsert_eq_map {k : κ} (v : ν) {entries : List (κ × ν)}
    (hnd : (entries.map Prod.fst).Nodup) {old : ν} (h : find? k entries = some old) :
    upsert k v entries = entries.map fun entry => if entry.1 = k then (k, v) else entry := by
  induction entries with
  | nil => simp [find?] at h
  | cons entry rest ih =>
      rw [List.map_cons, List.nodup_cons] at hnd
      by_cases ha : entry.1 = k
      · have hrest : ∀ e ∈ rest, (if e.1 = k then (k, v) else e) = e := by
          intro e he
          have hne : e.1 ≠ k := by
            intro hek
            exact hnd.1 (ha ▸ hek ▸ List.mem_map_of_mem he)
          rw [if_neg hne]
        obtain ⟨a, b⟩ := entry
        subst ha
        simp only [upsert, if_pos, List.map_cons, List.map_congr_left hrest, List.map_id']
      · simp only [find?, if_neg ha] at h
        simp only [upsert, if_neg ha, List.map_cons, ih hnd.2 h]

theorem upsert_upsert (k : κ) (v v' : ν) (entries : List (κ × ν)) :
    upsert k v (upsert k v' entries) = upsert k v entries := by
  induction entries with
  | nil => simp [upsert]
  | cons entry rest ih =>
      by_cases ha : entry.1 = k
      · simp [upsert, ha]
      · simp [upsert, ha, ih]

/-- Changes of two keys may change places if one of the keys is bound already. -/
theorem upsert_comm {k k' : κ} (hne : k ≠ k') (v v' : ν) {entries : List (κ × ν)}
    (h : find? k entries ≠ none) :
    upsert k v (upsert k' v' entries) = upsert k' v' (upsert k v entries) := by
  induction entries with
  | nil => exact absurd rfl h
  | cons entry rest ih =>
      obtain ⟨a, b⟩ := entry
      by_cases ha : a = k
      · subst ha
        simp [upsert, hne]
      · have hrest : find? k rest ≠ none := by
          simpa only [find?, if_neg ha] using h
        by_cases ha' : a = k'
        · subst ha'
          simp [upsert, ha]
        · simp [upsert, ha, ha', ih hrest]

theorem upsert_self {k : κ} {v : ν} {entries : List (κ × ν)} (h : find? k entries = some v) :
    upsert k v entries = entries := by
  induction entries with
  | nil => simp [find?] at h
  | cons entry rest ih =>
      by_cases ha : entry.1 = k
      · obtain ⟨a, b⟩ := entry
        simp only [find?, if_pos ha, Option.some.injEq] at h
        simp only [upsert, if_pos ha, h]
      · simp only [find?, if_neg ha] at h
        simp only [upsert, if_neg ha, ih h]

/-- A sum over the entries moves by the new entry less the one it replaces. -/
theorem sum_upsert (k : κ) (v : ν) (weight : κ × ν → Nat) (entries : List (κ × ν)) :
    ((upsert k v entries).map weight).sum + (find? k entries).elim 0 (fun old => weight (k, old))
      = (entries.map weight).sum + weight (k, v) := by
  induction entries with
  | nil => simp [upsert, find?]
  | cons entry rest ih =>
      obtain ⟨a, b⟩ := entry
      by_cases ha : a = k
      · subst ha
        simp only [upsert, find?, if_true, List.map_cons, List.sum_cons, Option.elim_some]
        omega
      · simp only [upsert, find?, if_neg ha, List.map_cons, List.sum_cons]
        omega

/-! ### Maps -/

omit [DecidableEq κ] in
theorem ext_entries {m m' : OrderedMap κ ν} (h : m.entries = m'.entries) : m = m' := by
  cases m
  cases m'
  cases h
  rfl

/-- The values are what the keys are bound to. -/
theorem mem_values {m : OrderedMap κ ν} {v : ν} : v ∈ m.values ↔ ∃ k, m.get? k = some v := by
  constructor
  · intro h
    obtain ⟨entry, hentry, rfl⟩ := List.mem_map.mp h
    exact ⟨entry.1, find?_of_mem m.nodup hentry⟩
  · rintro ⟨k, h⟩
    exact List.mem_map.mpr ⟨(k, v), mem_of_find? h, rfl⟩

theorem values_insert_of_none {m : OrderedMap κ ν} {k : κ} (v : ν) (h : m.get? k = none) :
    (m.insert k v).values = m.values ++ [v] := by
  simp only [values, insert]
  rw [upsert_of_find?_eq_none v h, List.map_append]
  rfl

/-- A change that is followed by another of the same key might as well not have
happened. -/
theorem insert_insert (m : OrderedMap κ ν) (k : κ) (v v' : ν) :
    (m.insert k v').insert k v = m.insert k v :=
  ext_entries (upsert_upsert k v v' m.entries)

/-- Changes of two keys may change places if one of the keys is bound already. -/
theorem insert_comm {m : OrderedMap κ ν} {k k' : κ} (hne : k ≠ k') (v v' : ν)
    (h : m.get? k ≠ none) : (m.insert k' v').insert k v = (m.insert k v).insert k' v' :=
  ext_entries (upsert_comm hne v v' h)

/-- Binding a key to what it is bound to changes nothing. -/
theorem insert_self {m : OrderedMap κ ν} {k : κ} {v : ν} (h : m.get? k = some v) :
    m.insert k v = m :=
  ext_entries (upsert_self h)

/-- A sum over the bindings moves by the new binding less the one it replaces. -/
theorem sum_entries_insert (m : OrderedMap κ ν) (k : κ) (v : ν) (weight : κ × ν → Nat) :
    ((m.insert k v).entries.map weight).sum + (m.get? k).elim 0 (fun old => weight (k, old))
      = (m.entries.map weight).sum + weight (k, v) :=
  sum_upsert k v weight m.entries

/-- A sum over the values moves by the new value less the one it replaces. -/
theorem sum_values_insert (m : OrderedMap κ ν) (k : κ) (v : ν) (weight : ν → Nat) :
    ((m.insert k v).values.map weight).sum + (m.get? k).elim 0 weight
      = (m.values.map weight).sum + weight v := by
  have h := sum_entries_insert m k v fun entry => weight entry.2
  simpa only [values, List.map_map, Function.comp_def] using h

/-- A change loses no key. -/
theorem size_le_insert (m : OrderedMap κ ν) (k : κ) (v : ν) : m.size ≤ (m.insert k v).size := by
  have hsize : ∀ m' : OrderedMap κ ν, m'.size = m'.keys.length := fun m' => by simp [size, keys]
  rw [hsize, hsize, keys_insert]
  split
  · exact Nat.le_refl _
  · rw [List.length_append]
    exact Nat.le_add_right _ _

theorem get?_insert (m : OrderedMap κ ν) (k k' : κ) (v : ν) :
    (m.insert k v).get? k' = if k' = k then some v else m.get? k' := by
  by_cases h : k' = k
  · subst h
    simp
  · rw [if_neg h, get?_insert_of_ne m v h]

end OrderedMap

end ReporterRegistry
