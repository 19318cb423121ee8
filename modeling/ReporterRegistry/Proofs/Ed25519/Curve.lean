import Mathlib.NumberTheory.LegendreSymbol.QuadraticReciprocity
import Mathlib.Tactic.FieldSimp
import Mathlib.Tactic.LinearCombination
import ReporterRegistry.Ed25519.Point
import ReporterRegistry.Proofs.Ed25519.Field

/-!
# Multiples of a point stay on the curve

A `CurvePoint` is a solution of the curve's equation in the field. Two of them have a sum,
since its denominators are never zero: `-1` is a square in the field and the curve's
coefficient is none. The sum solves the equation again.

Points in projective coordinates stand for curve points (`Point.Represents`). The formula
for sums computes the sum of what it is given, the ladder of doublings and sums therefore
stays on the curve, and what compresses a point has its second coordinate, which is one
that the curve test accepts (`hasPoint_iff`).
-/

namespace ReporterRegistry

namespace Ed25519

/-! ### The coefficients -/

theorem not_isSquare_d : ¬ IsSquare (d : Element) := by
  rw [← Field.isSquare_iff]
  decide +kernel

/-- The coefficient times a square is a square for zero only. -/
theorem eq_zero_of_d_mul_sq {u v : Element} (h : d * u ^ 2 = v ^ 2) : u = 0 := by
  by_contra hu
  refine not_isSquare_d ⟨v / u, ?_⟩
  field_simp
  exact h

theorem exists_sq_eq_neg_one : ∃ i : Element, i ^ 2 = -1 := by
  obtain ⟨i, hi⟩ := ZMod.exists_sq_eq_neg_one_iff.mpr (by decide +kernel : prime % 4 ≠ 3)
  exact ⟨i, by rw [hi, pow_two]⟩

theorem two_ne_zero' : (2 : Element) ≠ 0 := by
  have h : ((2 : Nat) : Element) ≠ 0 := by
    rw [Ne, Field.cast_eq_zero_iff]
    decide +kernel
  exact_mod_cast h

/-! ### The curve -/

/-- A point of the curve. -/
structure CurvePoint where
  x : Element
  y : Element
  equation : -x ^ 2 + y ^ 2 = 1 + d * x ^ 2 * y ^ 2

namespace CurvePoint

/-- The product that makes the denominators of a sum. -/
def cross (p q : CurvePoint) : Element := d * p.x * q.x * p.y * q.y

/-- If the product were one or minus one, then the coefficient would be a square. -/
theorem cross_sq_ne_one (p q : CurvePoint) : p.cross q ^ 2 ≠ 1 := by
  intro hone
  obtain ⟨i, hi⟩ := exists_sq_eq_neg_one
  have hp := p.equation
  have hq := q.equation
  unfold cross at hone
  -- Both are the coefficient times a square, and a square.
  have hsum : p.x * p.y * (i * q.x + q.y) = 0 := by
    have hsquare : d * (p.x * p.y * (i * q.x + q.y)) ^ 2
        = (i * p.x + d * p.x * q.x * p.y * q.y * p.y) ^ 2 := by
      linear_combination (d * p.x ^ 2 * p.y ^ 2 * q.x ^ 2 - p.x ^ 2) * hi
        + d * p.x ^ 2 * p.y ^ 2 * hq - hp + (1 - p.y ^ 2) * hone
    exact eq_zero_of_d_mul_sq hsquare
  have hdifference : p.x * p.y * (i * q.x - q.y) = 0 := by
    have hsquare : d * (p.x * p.y * (i * q.x - q.y)) ^ 2
        = (i * p.x - d * p.x * q.x * p.y * q.y * p.y) ^ 2 := by
      linear_combination (d * p.x ^ 2 * p.y ^ 2 * q.x ^ 2 - p.x ^ 2) * hi
        + d * p.x ^ 2 * p.y ^ 2 * hq - hp + (1 - p.y ^ 2) * hone
    exact eq_zero_of_d_mul_sq hsquare
  refine two_ne_zero' ?_
  linear_combination (d * p.x * q.x * p.y * q.y) * (d * q.x) * (hsum - hdifference) - 2 * hone

theorem one_add_cross_ne_zero (p q : CurvePoint) : 1 + p.cross q ≠ 0 := by
  intro h
  refine cross_sq_ne_one p q ?_
  linear_combination (p.cross q - 1) * h

theorem one_sub_cross_ne_zero (p q : CurvePoint) : 1 - p.cross q ≠ 0 := by
  intro h
  refine cross_sq_ne_one p q ?_
  linear_combination -(1 + p.cross q) * h

/-- What the coordinates of a sum have to satisfy, free of denominators. -/
theorem sum_equation (p q : CurvePoint) :
    -(p.x * q.y + q.x * p.y) ^ 2 * (1 - p.cross q) ^ 2
        + (p.y * q.y + p.x * q.x) ^ 2 * (1 + p.cross q) ^ 2
      = (1 + p.cross q) ^ 2 * (1 - p.cross q) ^ 2
        + d * (p.x * q.y + q.x * p.y) ^ 2 * (p.y * q.y + p.x * q.x) ^ 2 := by
  have hp := p.equation
  have hq := q.equation
  -- The difference of the sides depends on the points through the sides of their equations.
  have hfactor : -(p.x * q.y + q.x * p.y) ^ 2 * (1 - p.cross q) ^ 2
        + (p.y * q.y + p.x * q.x) ^ 2 * (1 + p.cross q) ^ 2
        - ((1 + p.cross q) ^ 2 * (1 - p.cross q) ^ 2
          + d * (p.x * q.y + q.x * p.y) ^ 2 * (p.y * q.y + p.x * q.x) ^ 2)
      = ((-p.x ^ 2 + p.y ^ 2) - (-q.x ^ 2 + q.y ^ 2) * (d * p.x ^ 2 * p.y ^ 2))
          * ((-q.x ^ 2 + q.y ^ 2) - (-p.x ^ 2 + p.y ^ 2) * (d * q.x ^ 2 * q.y ^ 2))
        - (1 - d * p.x ^ 2 * p.y ^ 2 * (d * q.x ^ 2 * q.y ^ 2)) ^ 2 := by
    unfold cross
    ring
  rw [hp, hq] at hfactor
  linear_combination hfactor

/-- The sum of two points of the curve. -/
instance : Add CurvePoint where
  add p q :=
    { x := (p.x * q.y + q.x * p.y) / (1 + p.cross q)
      y := (p.y * q.y + p.x * q.x) / (1 - p.cross q)
      equation := by
        have hplus := one_add_cross_ne_zero p q
        have hminus := one_sub_cross_ne_zero p q
        have hsum := sum_equation p q
        field_simp
        linear_combination hsum }

theorem x_add (p q : CurvePoint) : (p + q).x = (p.x * q.y + q.x * p.y) / (1 + p.cross q) := rfl

theorem y_add (p q : CurvePoint) : (p + q).y = (p.y * q.y + p.x * q.x) / (1 - p.cross q) := rfl

end CurvePoint

/-! ### Projective coordinates -/

namespace Point

/-- The quotients of the coordinates are those of a point of the curve. -/
structure Represents (point : Point) (p : CurvePoint) : Prop where
  z : (point.z : Element) ≠ 0
  x : (point.x : Element) = p.x * point.z
  y : (point.y : Element) = p.y * point.z

/-- What the formula for sums computes, in terms of the points it is given. -/
theorem Represents.cast_add {point point' : Point} {p q : CurvePoint} (h : point.Represents p)
    (h' : point'.Represents q) {w : Element} (hw : w = point.z * point'.z) :
    ((point.add point').x : Element) = w ^ 4 * ((1 - p.cross q) * (p.x * q.y + q.x * p.y))
      ∧ ((point.add point').y : Element) = w ^ 4 * ((1 + p.cross q) * (p.y * q.y + p.x * q.x))
      ∧ ((point.add point').z : Element) = w ^ 4 * ((1 - p.cross q) * (1 + p.cross q)) := by
  subst hw
  refine ⟨?_, ?_, ?_⟩ <;>
    simp only [Point.add, Field.cast_mul, Field.cast_add, Field.cast_sub, h.x, h.y, h'.x, h'.y,
      CurvePoint.cross] <;>
    ring

/-- **The formula for sums computes the sum.** -/
theorem Represents.add {point point' : Point} {p q : CurvePoint} (h : point.Represents p)
    (h' : point'.Represents q) : (point.add point').Represents (p + q) := by
  have hplus := CurvePoint.one_add_cross_ne_zero p q
  have hminus := CurvePoint.one_sub_cross_ne_zero p q
  have hscale : (point.z * point'.z : Element) ≠ 0 := mul_ne_zero h.z h'.z
  obtain ⟨hx, hy, hz⟩ := h.cast_add h' rfl
  refine ⟨?_, ?_, ?_⟩
  · rw [hz]
    exact mul_ne_zero (pow_ne_zero 4 hscale) (mul_ne_zero hminus hplus)
  · rw [hx, hz, CurvePoint.x_add]
    field_simp
  · rw [hy, hz, CurvePoint.y_add]
    field_simp

/-- The point that is neutral for sums. -/
theorem exists_represents_neutral : ∃ p, neutral.Represents p :=
  ⟨⟨0, 1, by ring⟩, by simp [neutral], by simp [neutral], by simp [neutral]⟩

theorem exists_represents_generator : ∃ p, generator.Represents p := by
  -- The equation with its one negative term on the other side, in natural numbers.
  have hequation : (generator.y ^ 2) % prime
      = (1 + d * generator.x ^ 2 * generator.y ^ 2 + generator.x ^ 2) % prime := by
    decide +kernel
  have hcast := (ZMod.natCast_eq_natCast_iff' _ _ prime).mpr hequation
  push_cast at hcast
  refine ⟨⟨generator.x, generator.y, by linear_combination hcast⟩, ?_, ?_, ?_⟩ <;>
    simp [generator]

/-- **Every multiple of a point of the curve is one.** -/
theorem Represents.exists_scale {point : Point} {p : CurvePoint} (h : point.Represents p)
    (n : Nat) : ∃ q, (scale n point).Represents q := by
  induction n using Nat.strongRecOn generalizing point p with
  | ind n ih =>
      rw [scale]
      by_cases hzero : n = 0
      · rw [if_pos hzero]
        exact exists_represents_neutral
      obtain ⟨q, hq⟩ := ih (n / 2) (Nat.div_lt_self (by omega) (by omega)) (h.add h)
      simp only [if_neg hzero]
      by_cases hodd : n % 2 = 1
      · rw [if_pos hodd]
        exact ⟨p + q, h.add hq⟩
      · rw [if_neg hodd]
        exact ⟨q, hq⟩

/-! ### Compression -/

theorem compress_lt (point : Point) : point.compress < 256 ^ 32 := by
  have hy : Field.mul point.y (Field.inv point.z) < 1 <<< 255 :=
    (Field.mul_lt _ _).trans_le (Nat.sub_le _ _)
  simp only [compress, Nat.one_shiftLeft] at hy ⊢
  omega

/-- A compressed point writes the second coordinate of what it represents. -/
theorem Represents.cast_compress {point : Point} {p : CurvePoint} (h : point.Represents p) :
    ((point.compress % (1 <<< 255) : Nat) : Element) = p.y := by
  have hy : Field.mul point.y (Field.inv point.z) < 1 <<< 255 :=
    (Field.mul_lt _ _).trans_le (Nat.sub_le _ _)
  rw [compress, Nat.add_mul_mod_self_left, Nat.mod_eq_of_lt hy, Field.cast_mul, Field.cast_inv,
    h.y, mul_inv_cancel_right₀ h.z]

end Point

/-! ### The test for points -/

/-- The denominator of the quotient that has to be a square. -/
theorem d_mul_sq_add_one_ne_zero (y : Element) : d * y ^ 2 + 1 ≠ 0 := by
  intro h
  obtain ⟨i, hi⟩ := exists_sq_eq_neg_one
  have hy : y = 0 := eq_zero_of_d_mul_sq (show d * y ^ 2 = i ^ 2 by linear_combination h - hi)
  rw [hy] at h
  simp at h

/-- **The curve test accepts a number exactly if some point of the curve has it for its
second coordinate.** -/
theorem hasPoint_iff (y : Nat) : hasPoint y = true ↔ ∃ p : CurvePoint, p.y = y := by
  have hdenominator := d_mul_sq_add_one_ne_zero y
  have htest : hasPoint y = true
      ↔ IsSquare (((y : Element) ^ 2 - 1) * (d * (y : Element) ^ 2 + 1)) := by
    simp only [hasPoint, Field.isSquare_iff, Field.cast_mul, Field.cast_sub, Field.cast_add,
      Nat.cast_one, pow_two]
  rw [htest]
  constructor
  · rintro ⟨root, hroot⟩
    refine ⟨⟨root / (d * (y : Element) ^ 2 + 1), y, ?_⟩, rfl⟩
    field_simp
    linear_combination (d * (y : Element) ^ 2 + 1) * hroot
  · rintro ⟨p, hp⟩
    rw [← hp]
    refine ⟨p.x * (d * p.y ^ 2 + 1), ?_⟩
    linear_combination (d * p.y ^ 2 + 1) * p.equation

end Ed25519

end ReporterRegistry
