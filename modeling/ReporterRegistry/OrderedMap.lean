/-!
# Maps that remember insertion order

A finite map as the list of its bindings, in the order in which keys were first
bound. Binding a key again changes its value in place. No key is bound twice,
which is part of the type, so sums over the bindings are sums over the keys.

The view is `OrderedMap.get?`; `get?_insert_self` and `get?_insert_of_ne` say
what an insertion does to it, and `keys_insert` what it does to the order.
-/

namespace ReporterRegistry

/-- A finite map in order of first insertion. -/
structure OrderedMap (κ ν : Type) where
  entries : List (κ × ν)
  nodup : (entries.map Prod.fst).Nodup
  deriving DecidableEq, Repr

namespace OrderedMap

variable {κ ν : Type} [DecidableEq κ]

/-! ### Bindings -/

/-- The value of the first binding of a key. -/
def find? (k : κ) : List (κ × ν) → Option ν
  | [] => none
  | (k', v) :: rest => if k' = k then some v else find? k rest

/-- Change the binding of a key, or append one. -/
def upsert (k : κ) (v : ν) : List (κ × ν) → List (κ × ν)
  | [] => [(k, v)]
  | (k', v') :: rest => if k' = k then (k', v) :: rest else (k', v') :: upsert k v rest

/-- A key is listed where it was, or else at the end. -/
theorem map_fst_upsert (k : κ) (v : ν) (entries : List (κ × ν)) :
    (upsert k v entries).map Prod.fst
      = if k ∈ entries.map Prod.fst then entries.map Prod.fst else entries.map Prod.fst ++ [k] := by
  induction entries with
  | nil => simp [upsert]
  | cons entry rest ih =>
    by_cases h : entry.1 = k
    · simp [upsert, h]
    · have h' : k ≠ entry.1 := fun e => h e.symm
      simp only [upsert, if_neg h, List.map_cons, ih, List.mem_cons, h', false_or]
      split <;> simp

theorem nodup_upsert (k : κ) (v : ν) {entries : List (κ × ν)}
    (h : (entries.map Prod.fst).Nodup) : ((upsert k v entries).map Prod.fst).Nodup := by
  rw [map_fst_upsert]
  split
  · exact h
  · rename_i hk
    rw [List.nodup_append]
    refine ⟨h, by simp, ?_⟩
    intro a ha b hb
    simp only [List.mem_singleton] at hb
    rintro rfl
    exact hk (hb ▸ ha)

/-- The value that was written is found. -/
theorem find?_upsert_self (k : κ) (v : ν) (entries : List (κ × ν)) :
    find? k (upsert k v entries) = some v := by
  induction entries with
  | nil => simp [upsert, find?]
  | cons entry rest ih =>
    by_cases h : entry.1 = k
    · simp [upsert, find?, h]
    · simp [upsert, find?, h, ih]

/-- Every other key is bound as before. -/
theorem find?_upsert_of_ne {k k' : κ} (v : ν) (h : k' ≠ k) (entries : List (κ × ν)) :
    find? k' (upsert k v entries) = find? k' entries := by
  induction entries with
  | nil => simp [upsert, find?, h.symm]
  | cons entry rest ih =>
    obtain ⟨a, b⟩ := entry
    by_cases hk : a = k
    · have hk' : ¬ k = k' := fun e => h e.symm
      simp [upsert, find?, hk, hk']
    · simp only [upsert, if_neg hk, find?, ih]

theorem find?_eq_none_iff {k : κ} {entries : List (κ × ν)} :
    find? k entries = none ↔ k ∉ entries.map Prod.fst := by
  induction entries with
  | nil => simp [find?]
  | cons entry rest ih =>
    by_cases h : entry.1 = k
    · simp [find?, h]
    · have h' : ¬ k = entry.1 := fun e => h e.symm
      simp only [find?, if_neg h, ih, List.map_cons, List.mem_cons, not_or, h', not_false_eq_true,
        true_and]

/-! ### Maps -/

/-- The map without bindings. -/
def empty : OrderedMap κ ν := ⟨[], List.nodup_nil⟩

/-- The value of a key. -/
def get? (m : OrderedMap κ ν) (k : κ) : Option ν := find? k m.entries

/-- The map with a key bound to a value. -/
def insert (m : OrderedMap κ ν) (k : κ) (v : ν) : OrderedMap κ ν :=
  ⟨upsert k v m.entries, nodup_upsert k v m.nodup⟩

/-- The keys in the order of their first insertion. -/
def keys (m : OrderedMap κ ν) : List κ := m.entries.map Prod.fst

/-- The values in the order of their keys. -/
def values (m : OrderedMap κ ν) : List ν := m.entries.map Prod.snd

/-- How many keys are bound. -/
def size (m : OrderedMap κ ν) : Nat := m.entries.length

@[simp] theorem get?_empty (k : κ) : (empty : OrderedMap κ ν).get? k = none := rfl

@[simp] theorem get?_insert_self (m : OrderedMap κ ν) (k : κ) (v : ν) :
    (m.insert k v).get? k = some v := find?_upsert_self k v m.entries

theorem get?_insert_of_ne (m : OrderedMap κ ν) {k k' : κ} (v : ν) (h : k' ≠ k) :
    (m.insert k v).get? k' = m.get? k' := find?_upsert_of_ne v h m.entries

/-- A bound key keeps its place, and a new one comes last. -/
theorem keys_insert (m : OrderedMap κ ν) (k : κ) (v : ν) :
    (m.insert k v).keys = if k ∈ m.keys then m.keys else m.keys ++ [k] :=
  map_fst_upsert k v m.entries

/-- The keys are those that are bound. -/
theorem get?_eq_none_iff {m : OrderedMap κ ν} {k : κ} : m.get? k = none ↔ k ∉ m.keys :=
  find?_eq_none_iff

end OrderedMap

end ReporterRegistry
