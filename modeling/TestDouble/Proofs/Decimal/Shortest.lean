import TestDouble.Proofs.Decimal.Positional
import Mathlib.Algebra.Order.Field.Power
import Mathlib.Tactic.Linarith
import Mathlib.Tactic.Positivity

/-!
# The shortest decimal reads back

The decimal that is chosen for a binary number lies among the fractions that round to the number.
-/

namespace TestDouble.Decimal.Dyadic

variable {x : Dyadic} {digits m : Nat} {e q : Int}

/-! ## Exact comparisons -/

/-- A power of either sign, by two powers that are whole. -/
theorem zpow_mul_toNat {b : ℚ} (hb : b ≠ 0) (n : Int) : b ^ n * b ^ (-n).toNat = b ^ n.toNat := by
  rw [← zpow_natCast, ← zpow_natCast, ← zpow_add₀ hb]
  congr 1
  omega

/-- Both sides of a comparison, as whole numbers. -/
theorem compareScaled_sides (digits : Nat) (e : Int) (m : Nat) (q : Int) : ∃ scale : ℚ, 0 < scale ∧
    (((digits * Nat.pow 10 e.toNat) <<< (-q).toNat : ℕ) : ℚ) = digits * 10 ^ e * scale ∧
    ((m <<< q.toNat * Nat.pow 10 (-e).toNat : ℕ) : ℚ) = m * 2 ^ q * scale := by
  refine ⟨2 ^ (-q).toNat * 10 ^ (-e).toNat, by positivity, ?_, ?_⟩
  · rw [Nat.shiftLeft_eq, Nat.pow_eq]
    push_cast
    rw [← zpow_mul_toNat (by norm_num) e]
    ring
  · rw [Nat.shiftLeft_eq, Nat.pow_eq]
    push_cast
    rw [← zpow_mul_toNat (by norm_num) q]
    ring

theorem compareScaled_lt : compareScaled digits e m q = .lt ↔ (digits * 10 ^ e : ℚ) < m * 2 ^ q := by
  obtain ⟨scale, hscale, hleft, hright⟩ := compareScaled_sides digits e m q
  rw [compareScaled, Nat.compare_eq_lt, ← Nat.cast_lt (α := ℚ), hleft, hright, mul_lt_mul_iff_left₀ hscale]

theorem compareScaled_gt : compareScaled digits e m q = .gt ↔ (m * 2 ^ q : ℚ) < digits * 10 ^ e := by
  obtain ⟨scale, hscale, hleft, hright⟩ := compareScaled_sides digits e m q
  rw [compareScaled, Nat.compare_eq_gt, ← Nat.cast_lt (α := ℚ), hleft, hright, mul_lt_mul_iff_left₀ hscale]

/-! ## What rounds to a number -/

/-- Half way to the number below. -/
def low (x : Dyadic) : ℚ := (4 * x.significand - if x.narrowBelow then 1 else 2 : ℕ) * 2 ^ (x.exponent - 2)

/-- Half way to the number above. -/
def high (x : Dyadic) : ℚ := (4 * x.significand + 2 : ℕ) * 2 ^ (x.exponent - 2)

/-- The fraction rounds to `x`; an even significand owns both ends. -/
def Owns (x : Dyadic) (v : ℚ) : Prop :=
  x.low ≤ v ∧ v ≤ x.high ∧ (x.significand % 2 = 1 → x.low < v ∧ v < x.high)

theorem readsBack_owns (h : x.readsBack digits e = true) : x.Owns (digits * 10 ^ e) := by
  simp only [readsBack] at h
  by_cases heven : x.significand % 2 = 0
  · simp only [if_pos heven, Bool.and_eq_true, bne_iff_ne, ne_eq, compareScaled_lt, compareScaled_gt, not_lt] at h
    exact ⟨h.1, h.2, fun hodd => by omega⟩
  · simp only [if_neg heven, Bool.and_eq_true, beq_iff_eq, compareScaled_lt, compareScaled_gt] at h
    exact ⟨h.1.le, h.2.le, fun _ => h⟩

/-- A number rounds to itself. -/
theorem owns_self (hx : x.significand ≠ 0) : x.Owns (x.significand * 2 ^ x.exponent) := by
  have hscale : (0 : ℚ) < 2 ^ (x.exponent - 2) := by positivity
  have hself : (x.significand * 2 ^ x.exponent : ℚ) = (4 * x.significand : ℕ) * 2 ^ (x.exponent - 2) := by
    rw [zpow_sub₀ (by norm_num)]
    push_cast
    ring
  have hlow : x.low < x.significand * 2 ^ x.exponent := by
    rw [hself, low, mul_lt_mul_iff_left₀ hscale, Nat.cast_lt]
    split <;> omega
  have hhigh : (x.significand * 2 ^ x.exponent : ℚ) < x.high := by
    rw [hself, high, mul_lt_mul_iff_left₀ hscale, Nat.cast_lt]
    omega
  exact ⟨hlow.le, hhigh.le, fun _ => ⟨hlow, hhigh⟩⟩

/-! ## The decimal that is chosen -/

theorem atUnit?_owns {y : Scientific} (h : x.atUnit? e = some y) : x.Owns y.value := by
  simp only [atUnit?] at h
  split at h
  · next hbelow _ =>
    cases h
    exact readsBack_owns hbelow
  · next _ habove =>
    cases h
    exact readsBack_owns habove
  · next hbelow habove =>
    split at h
    · cases h
      exact readsBack_owns hbelow
    · cases h
      exact readsBack_owns habove
  · cases h

/-- A fraction by a power of two has as many decimals as the power says. -/
theorem exact_value (n k : Nat) :
    (⟨n * Nat.pow 10 (1 <<< k).log2 / 1 <<< k, -(1 <<< k).log2⟩ : Scientific).value = n / 2 ^ k := by
  have hlog : (1 <<< k).log2 = k := by rw [Nat.one_shiftLeft, Nat.log2_two_pow]
  have hdigits : n * Nat.pow 10 k / 2 ^ k = n * 5 ^ k := by
    rw [Nat.pow_eq, show (10 : ℕ) = 5 * 2 from rfl, Nat.mul_pow, ← Nat.mul_assoc,
      Nat.mul_div_cancel _ (Nat.two_pow_pos k)]
  have hten : (10 : ℚ) ^ k = 5 ^ k * 2 ^ k := by rw [← mul_pow]; norm_num
  rw [Scientific.value, hlog, Nat.one_shiftLeft, hdigits, zpow_neg, zpow_natCast, hten]
  push_cast
  field_simp

theorem shortest_owns (x : Dyadic) : x.Owns x.shortest.value := by
  by_cases hx : x.significand = 0
  · have hlow : x.low = 0 := by
      rw [low, hx, Nat.mul_zero, Nat.zero_sub, Nat.cast_zero, zero_mul]
    have hhigh : 0 ≤ x.high := by
      rw [high]
      positivity
    have hvalue : x.shortest.value = 0 := by
      rw [shortest, if_pos hx, Scientific.value, Nat.cast_zero, zero_mul]
    rw [hvalue]
    exact ⟨hlow.le, hhigh, fun hodd => by omega⟩
  · rw [shortest, if_neg hx]
    cases hfound : (List.range 17).findSome? fun (n : Nat) => x.atUnit? (x.magnitude - (n + 1)) with
    | some y =>
        obtain ⟨n, -, hy⟩ := List.exists_of_findSome?_eq_some hfound
        exact atUnit?_owns hy
    | none =>
        have hexact := exact_value (x.significand <<< x.exponent.toNat) (-x.exponent).toNat
        have hself : ((x.significand <<< x.exponent.toNat : ℕ) : ℚ) / 2 ^ (-x.exponent).toNat =
            x.significand * 2 ^ x.exponent := by
          rw [Nat.shiftLeft_eq, div_eq_iff (by positivity), mul_assoc, zpow_mul_toNat (by norm_num)]
          push_cast
          rfl
        rw [hself] at hexact
        exact hexact ▸ owns_self hx

end TestDouble.Decimal.Dyadic
