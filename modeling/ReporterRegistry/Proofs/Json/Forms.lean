import ReporterRegistry.Json.Forms
import ReporterRegistry.Proofs.Json.Legible

/-!
# Records that were written

The fields of a record are found again under their names (`fields?_ofFields`), and the
JSON forms of the registry's values are legible, since they are made of numbers, texts
and octets.
-/

namespace ReporterRegistry

namespace Json

/-! ### Fields -/

/-- Texts are told apart by how they are written. -/
theorem ofString_injective {name name' : String}
    (h : JsonText.ofString name = JsonText.ofString name') : name = name' := by
  have htext := congrArg JsonText.toString? h
  simpa using htext

theorem keysAreTexts_map_memberOf (fields : List (String × Json)) :
    keysAreTexts (fields.map memberOf) = true := by
  simp [keysAreTexts, memberOf]

/-- A name that no field has is without a value. -/
theorem valuesOf_of_not_mem {name : String} {fields : List (String × Json)}
    (h : name ∉ fields.map Prod.fst) : valuesOf name (fields.map memberOf) = [] := by
  rw [valuesOf, List.map_eq_nil_iff, List.filter_eq_nil_iff]
  intro member hmember
  obtain ⟨field, hfield, rfl⟩ := List.mem_map.mp hmember
  intro hname
  have hsame : field.1 = name := ofString_injective (of_decide_eq_true hname)
  exact h (hsame ▸ List.mem_map_of_mem hfield)

/-- Names without repetition have one value each. -/
theorem valuesOf_memberOf {fields : List (String × Json)} (hnd : (fields.map Prod.fst).Nodup)
    {field : String × Json} (h : field ∈ fields) :
    valuesOf field.1 (fields.map memberOf) = [field.2] := by
  induction fields with
  | nil => cases h
  | cons first fields ih =>
      rw [List.map_cons, List.nodup_cons] at hnd
      rw [List.map_cons]
      rcases List.mem_cons.mp h with rfl | hrest
      · have hnone := valuesOf_of_not_mem hnd.1
        unfold valuesOf at hnone ⊢
        rw [List.filter_cons_of_pos (by simp [memberOf]), List.map_cons, hnone]
        rfl
      · have hne : first.1 ≠ field.1 := by
          intro hname
          exact hnd.1 (hname ▸ List.mem_map_of_mem hrest)
        have hother : JsonText.ofString first.1 ≠ .ofString field.1 := mt ofString_injective hne
        have hvalues := ih hnd.2 hrest
        unfold valuesOf at hvalues ⊢
        rw [List.filter_cons_of_neg (by simp [memberOf, hother]), hvalues]

/-- **The fields of a record are found** in the order in which they are asked for. -/
theorem fields?_ofFields {fields : List (String × Json)} (hnd : (fields.map Prod.fst).Nodup) :
    fields? (fields.map Prod.fst) (.ofFields fields) = some (fields.map Prod.snd) := by
  have hfound : ∀ asked : List (String × Json), (∀ field ∈ asked, field ∈ fields) →
      (asked.map Prod.fst).mapM (only? (fields.map memberOf)) = some (asked.map Prod.snd) := by
    intro asked
    induction asked with
    | nil => exact fun _ => rfl
    | cons field asked ih =>
        intro hasked
        obtain ⟨hfield, hasked⟩ := List.forall_mem_cons.mp hasked
        have honly : only? (fields.map memberOf) field.1 = some field.2 := by
          rw [only?, valuesOf_memberOf hnd hfield]
        rw [List.map_cons, List.mapM_cons, honly, ih hasked]
        rfl
  show (if keysAreTexts (fields.map memberOf) then _ else none) = _
  rw [if_pos (keysAreTexts_map_memberOf fields)]
  exact hfound fields fun _ h => h

/-- Octets are an array of numbers. -/
theorem Legible.ofOctets (bs : Bytes) : Legible (.ofOctets bs) := by
  refine Legible.array ?_
  intro item hitem
  obtain ⟨b, -, rfl⟩ := List.mem_map.mp hitem
  exact Legible.ofNat _

end Json

open Json

/-- An account is the name of its format and its octets. -/
theorem Account.legible (account : Account) : Legible account.toJson := by
  refine Legible.ofFields ?_
  simp only [List.forall_mem_cons]
  exact ⟨Legible.ofString _, Legible.ofOctets _, nofun⟩

theorem StakeTerms.legible_fields (terms : StakeTerms) :
    ∀ field ∈ terms.fields, Legible field.2 := by
  simp only [StakeTerms.fields, List.forall_mem_cons]
  exact ⟨terms.token.legible, Legible.ofNat _, Legible.ofNat _, Legible.ofNat _, Legible.ofNat _,
    Legible.ofNat _, nofun⟩

theorem RewardTerms.legible_fields (terms : RewardTerms) :
    ∀ field ∈ terms.fields, Legible field.2 := by
  simp only [RewardTerms.fields, List.forall_mem_cons]
  exact ⟨terms.token.legible, Legible.ofNat _, Legible.ofNat _, nofun⟩

end ReporterRegistry
