import Mathlib.NumberTheory.LegendreSymbol.Basic
import Mathlib.NumberTheory.LucasPrimality
import Mathlib.Tactic.NormNum.Prime
import ReporterRegistry.Ed25519.Field

/-!
# The field of the curve is a field

The characteristic is prime (`prime_prime`). This is Lucas's test: some number has all of
`prime - 1` for its order modulo `prime`. The test needs the prime factors of `prime - 1`,
the largest of which is shown to be prime in the same way, and so on down to primes that
are found by trial division.

So arithmetic on natural numbers modulo the characteristic is arithmetic in the field
`Element`, where a number stands for its remainder. The operations of `Ed25519.Field` are
those of the field, powers included, and the test for squares is Euler's criterion
(`isSquare_iff`).
-/

namespace ReporterRegistry

namespace Ed25519

/-- Repeated squaring gives the power. -/
theorem powMod_eq (base exponent modulus : Nat) :
    powMod base exponent modulus = base ^ exponent % modulus := by
  induction exponent using Nat.strongRecOn generalizing base with
  | ind exponent ih =>
      rw [powMod]
      by_cases hzero : exponent = 0
      · rw [if_pos hzero, hzero, pow_zero]
      have hhalf : powMod (base * base % modulus) (exponent / 2) modulus
          = base ^ (2 * (exponent / 2)) % modulus := by
        rw [ih _ (Nat.div_lt_self (by omega) (by omega)), ← Nat.pow_mod, ← pow_two, ← pow_mul]
      simp only [if_neg hzero, hhalf]
      by_cases hodd : exponent % 2 = 1
      · rw [if_pos hodd, Nat.mul_mod_mod, ← pow_succ']
        congr 2
        omega
      · rw [if_neg hodd]
        congr 2
        omega

/-- A power is one if its remainder is. -/
theorem pow_eq_one_iff {n : Nat} (hn : 1 < n) (x k : Nat) :
    (x : ZMod n) ^ k = 1 ↔ powMod x k n = 1 := by
  have hcast : (x : ZMod n) ^ k = 1 ↔ ((x ^ k : Nat) : ZMod n) = (1 : Nat) := by
    rw [Nat.cast_pow, Nat.cast_one]
  rw [powMod_eq, hcast, ZMod.natCast_eq_natCast_iff', Nat.mod_eq_of_lt hn]

/-! ### The characteristic is prime -/

/-- The order of `root` modulo `n` divides `n - 1`, and none of its quotients by the given
factors. -/
def hasOrderPred (n root : Nat) (factors : List Nat) : Bool :=
  1 < n && factors.prod = n - 1 && powMod root (n - 1) n = 1
    && factors.all fun q => powMod root ((n - 1) / q) n ≠ 1

/-- A number is prime if another has an order of one less than it. The order is known by
its prime factors, some of which are small. -/
theorem prime_of_hasOrderPred {n : Nat} (root : Nat) (small large : List Nat)
    (h : hasOrderPred n root (small ++ large) = true) (hsmall : ∀ q ∈ small, q.Prime)
    (hlarge : ∀ q ∈ large, q.Prime) : n.Prime := by
  simp only [hasOrderPred, Bool.and_eq_true, decide_eq_true_eq, List.all_eq_true] at h
  obtain ⟨⟨⟨hn, hprod⟩, hfull⟩, hpart⟩ := h
  have hpow : ∀ k, (root : ZMod n) ^ k = 1 ↔ powMod root k n = 1 := pow_eq_one_iff hn root
  refine lucas_primality n root ((hpow _).mpr hfull) ?_
  intro q hq hdvd hone
  rw [← hprod, hq.prime.dvd_prod_iff] at hdvd
  obtain ⟨factor, hmem, hdvd⟩ := hdvd
  have hfactor : factor.Prime := List.forall_mem_append.mpr ⟨hsmall, hlarge⟩ factor hmem
  obtain rfl := (Nat.prime_dvd_prime_iff_eq hq hfactor).mp hdvd
  exact hpart q hmem ((hpow _).mp hone)

/-- **The characteristic of the field is prime.** -/
theorem prime_prime : prime.Prime := by
  have h₁ : Nat.Prime 2773320623 :=
    prime_of_hasOrderPred 5 [2, 2437, 569003] [] (by decide +kernel) (by norm_num) (by simp)
  have h₂ : Nat.Prime 72106336199 :=
    prime_of_hasOrderPred 7 [2, 13] [2773320623] (by decide +kernel) (by norm_num)
      (List.forall_mem_singleton.mpr h₁)
  have h₃ : Nat.Prime 1919519569386763 :=
    prime_of_hasOrderPred 2 [2, 3, 7, 19, 47, 47, 127, 8574133] [] (by decide +kernel)
      (by norm_num) (by simp)
  have h₄ : Nat.Prime 75445702479781427272750846543864801 :=
    prime_of_hasOrderPred 7 [2, 2, 2, 2, 2, 3, 3, 5, 5, 75707] [72106336199, 1919519569386763]
      (by decide +kernel) (by norm_num)
      (List.forall_mem_cons.mpr ⟨h₂, List.forall_mem_singleton.mpr h₃⟩)
  have h₅ : Nat.Prime 31757755568855353 :=
    prime_of_hasOrderPred 10 [2, 2, 2, 3, 31, 107, 223, 4153, 430751] [] (by decide +kernel)
      (by norm_num) (by simp)
  have h₆ :
      Nat.Prime 74058212732561358302231226437062788676166966415465897661863160754340907 :=
    prime_of_hasOrderPred 2 [2, 3, 353, 57467, 132049, 1923133]
      [31757755568855353, 75445702479781427272750846543864801] (by decide +kernel) (by norm_num)
      (List.forall_mem_cons.mpr ⟨h₅, List.forall_mem_singleton.mpr h₄⟩)
  exact prime_of_hasOrderPred 2 [2, 2, 3, 65147]
    [74058212732561358302231226437062788676166966415465897661863160754340907]
    (by decide +kernel) (by norm_num) (List.forall_mem_singleton.mpr h₆)

instance : Fact prime.Prime := ⟨prime_prime⟩

/-! ### Arithmetic in the field -/

/-- An element of the field. -/
abbrev Element := ZMod prime

namespace Field

@[simp] theorem cast_mod (n : Nat) : ((n % prime : Nat) : Element) = n :=
  ZMod.natCast_mod n prime

@[simp] theorem cast_add (x y : Nat) : (add x y : Element) = x + y := by
  rw [add, cast_mod, Nat.cast_add]

@[simp] theorem cast_sub (x y : Nat) : (sub x y : Element) = x - y := by
  have hle : y % prime ≤ prime := (Nat.mod_lt y prime_prime.pos).le
  rw [sub, cast_mod, Nat.cast_add, Nat.cast_sub hle, cast_mod, ZMod.natCast_self, zero_sub,
    ← sub_eq_add_neg]

@[simp] theorem cast_mul (x y : Nat) : (mul x y : Element) = x * y := by
  rw [mul, cast_mod, Nat.cast_mul]

/-- The power that stands for an inverse is the inverse. -/
@[simp] theorem cast_inv (x : Nat) : (inv x : Element) = (x : Element)⁻¹ := by
  rw [inv, powMod_eq, cast_mod, Nat.cast_pow]
  by_cases hzero : (x : Element) = 0
  · rw [hzero, inv_zero, zero_pow (by decide)]
  · have hfermat : (x : Element) ^ (prime - 2 + 1) = 1 := ZMod.pow_card_sub_one_eq_one hzero
    exact eq_inv_of_mul_eq_one_left (by rw [← pow_succ, hfermat])

theorem mul_lt (x y : Nat) : mul x y < prime := Nat.mod_lt _ prime_prime.pos

theorem cast_eq_zero_iff (x : Nat) : (x : Element) = 0 ↔ x % prime = 0 := by
  rw [ZMod.natCast_eq_zero_iff, Nat.dvd_iff_mod_eq_zero]

/-- The half of the multiplicative group that Euler's criterion asks for. -/
theorem half_prime : (prime - 1) / 2 = prime / 2 := by decide +kernel

/-- **The test for squares finds the squares.** -/
theorem isSquare_iff (x : Nat) : isSquare x = true ↔ IsSquare (x : Element) := by
  rw [isSquare, Bool.or_eq_true, decide_eq_true_eq, decide_eq_true_eq, ← cast_eq_zero_iff]
  by_cases hzero : (x : Element) = 0
  · simp [hzero]
  rw [ZMod.euler_criterion prime hzero, pow_eq_one_iff prime_prime.one_lt, half_prime,
    or_iff_right hzero]

end Field

end Ed25519

end ReporterRegistry
