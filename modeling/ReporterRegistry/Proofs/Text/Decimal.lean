import ReporterRegistry.Proofs.Radix
import ReporterRegistry.Text.Decimal

/-!
# Decimal numbers are read back

The digits of a number that was written are the longest run of digits in front of
whatever follows it, provided that no digit does (`Decimal.span_render`). Their
value is the number, and the first of them is zero only if it is the only one.
-/

namespace ReporterRegistry

namespace Decimal

/-- The digits of a number as they are written. -/
def digitsOf (n : Nat) : List Nat := if n = 0 then [0] else (Radix.digits 10 n).reverse

theorem render_eq (n : Nat) : render n = (digitsOf n).map digitChar := by
  unfold render digitsOf
  split <;> rfl

theorem lt_of_mem_digitsOf {n d : Nat} (h : d ∈ digitsOf n) : d < 10 := by
  unfold digitsOf at h
  split at h
  · rw [List.mem_singleton.mp h]
    decide
  · exact Radix.lt_of_mem_digits (by decide) (List.mem_reverse.mp h)

theorem value_digitsOf (n : Nat) : value (digitsOf n) = n := by
  unfold digitsOf
  split
  · rename_i hzero
    rw [hzero]
    rfl
  · rw [value, List.reverse_reverse, Radix.value_digits (by decide)]

/-- There is a first digit, and it is not zero unless it is all there is. -/
theorem digitsOf_eq_cons (n : Nat) : ∃ d ds, digitsOf n = d :: ds ∧ (d = 0 → ds = []) := by
  unfold digitsOf
  split
  · exact ⟨0, [], rfl, fun _ => rfl⟩
  rename_i hn
  have hstrip := Radix.dropWhile_reverse_digits (by decide : 2 ≤ 10) n
  cases hdigits : (Radix.digits 10 n).reverse with
  | nil =>
      have hvalue := Radix.value_digits (by decide : 2 ≤ 10) n
      rw [List.reverse_eq_nil_iff.mp hdigits] at hvalue
      exact absurd hvalue.symm hn
  | cons d ds =>
      refine ⟨d, ds, rfl, ?_⟩
      rintro rfl
      rw [hdigits, List.dropWhile_cons_of_pos (by simp)] at hstrip
      have hlength := congrArg List.length hstrip
      have hle := (List.dropWhile_sublist (· = 0) (l := ds)).length_le
      rw [List.length_cons] at hlength
      omega

/-- Digits are taken as far as they go. -/
theorem span_map_append {ds : List Nat} (h : ∀ d ∈ ds, d < 10) {rest : List Char}
    (hrest : span rest = ([], rest)) : span (ds.map digitChar ++ rest) = (ds, rest) := by
  induction ds with
  | nil => exact hrest
  | cons d ds ih =>
      obtain ⟨hd, hds⟩ := List.forall_mem_cons.mp h
      rw [List.map_cons, List.cons_append, span, digit?_digitChar hd, ih hds]

/-- **The digits of a number are read up to its end.** -/
theorem span_render (n : Nat) {rest : List Char} (hrest : span rest = ([], rest)) :
    span (render n ++ rest) = (digitsOf n, rest) := by
  rw [render_eq]
  exact span_map_append (fun _ hd => lt_of_mem_digitsOf hd) hrest

end Decimal

end ReporterRegistry
