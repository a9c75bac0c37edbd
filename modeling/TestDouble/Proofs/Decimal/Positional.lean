import Mathlib.Algebra.Field.Rat
import Mathlib.Data.List.TakeWhile
import Mathlib.Data.Rat.Cast.Lemmas
import Mathlib.Tactic.FieldSimp
import Mathlib.Tactic.Ring
import TestDouble.Decimal.Shortest

/-!
# Reading positional notation

Digits with at most one point among them stand for a fraction. What is written in positional notation stands for the
number that has been written: zeros at the two ends change nothing.
-/

namespace TestDouble.Decimal

/-- The number that decimal digits with at most one point among them stand for. -/
def reading (cs : List Char) : ℚ :=
  let whole := cs.takeWhile (· != '.')
  let rest := cs.drop (whole.length + 1)
  Nat.ofDigitChars 10 whole 0 + Nat.ofDigitChars 10 rest 0 / 10 ^ rest.length

variable {whole rest : List Char}

theorem before_point (h : '.' ∉ whole) : ∀ c ∈ whole, (c != '.') = true :=
  fun _ hc => bne_iff_ne.mpr (ne_of_mem_of_not_mem hc h)

theorem reading_whole (h : '.' ∉ whole) : reading whole = Nat.ofDigitChars 10 whole 0 := by
  have htake : whole.takeWhile (· != '.') = whole := List.takeWhile_eq_self_iff.mpr (before_point h)
  rw [reading, htake, List.drop_eq_nil_of_le (Nat.le_succ _)]
  simp

theorem reading_point (h : '.' ∉ whole) :
    reading (whole ++ '.' :: rest) = Nat.ofDigitChars 10 whole 0 + Nat.ofDigitChars 10 rest 0 / 10 ^ rest.length := by
  have htake : (whole ++ '.' :: rest).takeWhile (· != '.') = whole := by
    rw [List.takeWhile_append_of_pos (before_point h), List.takeWhile_cons_of_neg (by decide), List.append_nil]
  have hdrop : (whole ++ '.' :: rest).drop (whole.length + 1) = rest := by
    rw [List.drop_append, List.drop_eq_nil_of_le (Nat.le_succ _), Nat.add_sub_cancel_left]
    rfl
  rw [reading, htake, hdrop]

/-! ## Zeros at the end -/

/-- Without the zeros at the end. -/
def trimmed (rest : List Char) : List Char := (rest.reverse.dropWhile (· == '0')).reverse

theorem exists_zeros (rest : List Char) : ∃ k, rest = trimmed rest ++ List.replicate k '0' := by
  refine ⟨(rest.reverse.takeWhile (· == '0')).length, ?_⟩
  have hzeros : rest.reverse.takeWhile (· == '0') = List.replicate (rest.reverse.takeWhile (· == '0')).length '0' :=
    List.eq_replicate_iff.mpr ⟨rfl, fun c hc => by simpa using List.mem_takeWhile_imp hc⟩
  have hparts : rest = trimmed rest ++ (rest.reverse.takeWhile (· == '0')).reverse := by
    rw [trimmed, ← List.reverse_append, List.takeWhile_append_dropWhile, List.reverse_reverse]
  calc rest = trimmed rest ++ (rest.reverse.takeWhile (· == '0')).reverse := hparts
    _ = _ := by rw [hzeros, List.reverse_replicate, List.length_replicate]

/-- The fraction that digits after a point stand for. -/
theorem trimmed_fraction (rest : List Char) :
    (Nat.ofDigitChars 10 (trimmed rest) 0 : ℚ) / 10 ^ (trimmed rest).length =
      Nat.ofDigitChars 10 rest 0 / 10 ^ rest.length := by
  obtain ⟨k, hk⟩ := exists_zeros rest
  have hdigits : Nat.ofDigitChars 10 rest 0 = 10 ^ k * Nat.ofDigitChars 10 (trimmed rest) 0 := by
    rw [hk, Nat.ofDigitChars_append, Nat.ofDigitChars_replicate_zero, ← hk]
  have hlength : rest.length = (trimmed rest).length + k := by
    rw [hk, List.length_append, List.length_replicate, ← hk]
  rw [hdigits, hlength]
  push_cast
  field_simp
  ring

/-- Digits before and after a point. Zeros at the end are left out, and so is the point if nothing follows. -/
def fixedPoint (whole rest : List Char) : List Char :=
  if (trimmed rest).isEmpty then whole else whole ++ '.' :: trimmed rest

theorem reading_fixedPoint (h : '.' ∉ whole) : reading (fixedPoint whole rest) =
    Nat.ofDigitChars 10 whole 0 + Nat.ofDigitChars 10 rest 0 / 10 ^ rest.length := by
  rw [← trimmed_fraction, fixedPoint]
  split
  · next hempty =>
    rw [reading_whole h, List.isEmpty_iff.mp hempty]
    simp
  · rw [reading_point h]

theorem mem_fixedPoint {c : Char} (h : c ∈ fixedPoint whole rest) : c = '.' ∨ c ∈ whole ++ rest := by
  have htrimmed : ∀ c ∈ trimmed rest, c ∈ rest := fun c hc =>
    List.mem_reverse.mp (List.dropWhile_subset _ (List.mem_reverse.mp hc))
  rw [fixedPoint] at h
  split at h
  · exact .inr (List.mem_append_left _ h)
  · rcases List.mem_append.mp h with h | h
    · exact .inr (List.mem_append_left _ h)
    · rcases List.mem_cons.mp h with h | h
      · exact .inl h
      · exact .inr (List.mem_append_right _ (htrimmed c h))

theorem fixedPoint_ne_nil (h : whole ≠ []) : fixedPoint whole rest ≠ [] := by
  rw [fixedPoint]
  split
  · exact h
  · exact List.append_ne_nil_of_left_ne_nil h _

/-! ## Scientific notation -/

theorem point_not_digit {n : Nat} : '.' ∉ Nat.toDigits 10 n := by
  intro h
  exact absurd (Nat.isDigit_of_mem_toDigits (by decide) (by decide) h) (by decide)

namespace Scientific

variable (x : Scientific)

def value : ℚ := x.digits * 10 ^ x.exponent

/-- Digits on both sides of the point: zeros in front make up for missing ones. -/
theorem positional_eq_fixedPoint (hx : x.digits ≠ 0) (he : x.exponent < 0) : ∃ whole rest k,
    x.positional = fixedPoint whole rest ∧ rest.length = (-x.exponent).toNat ∧ whole ≠ [] ∧
      whole ++ rest = List.replicate k '0' ++ Nat.toDigits 10 x.digits := by
  let places := (-x.exponent).toNat
  let k := places + 1 - (Nat.toDigits 10 x.digits).length
  let padded := List.replicate k '0' ++ Nat.toDigits 10 x.digits
  have hlength : places + 1 ≤ padded.length := by
    rw [List.length_append, List.length_replicate]
    omega
  refine ⟨padded.take (padded.length - places), padded.drop (padded.length - places), k, ?_, ?_, ?_,
    List.take_append_drop _ _⟩
  · rw [positional, if_neg hx, if_neg (not_le.mpr he), fixedPoint, trimmed, List.isEmpty_reverse]
  · rw [List.length_drop]
    omega
  · rw [← List.length_pos_iff, List.length_take]
    omega

theorem reading_positional : reading x.positional = x.value := by
  by_cases hx : x.digits = 0
  · have hdigits : (x.digits : ℚ) = 0 := Nat.cast_eq_zero.mpr hx
    rw [positional, if_pos hx, value, hdigits, zero_mul, reading_whole (by decide)]
    rfl
  · by_cases he : 0 ≤ x.exponent
    · have hpoint : '.' ∉ Nat.toDigits 10 x.digits ++ List.replicate x.exponent.toNat '0' := by
        rw [List.mem_append, not_or]
        exact ⟨point_not_digit, fun h => absurd (List.eq_of_mem_replicate h) (by decide)⟩
      have hpower : (10 : ℚ) ^ x.exponent = 10 ^ x.exponent.toNat := by
        rw [← zpow_natCast, Int.toNat_of_nonneg he]
      rw [positional, if_neg hx, if_pos he, reading_whole hpoint, Nat.ofDigitChars_append,
        Nat.ofDigitChars_ten_toDigits, Nat.ofDigitChars_replicate_zero, value, hpower]
      push_cast
      ring
    · obtain ⟨whole, rest, k, htext, hlength, -, hdigits⟩ := x.positional_eq_fixedPoint hx (not_le.mp he)
      have hpoint : '.' ∉ whole := by
        intro h
        rcases List.mem_append.mp (hdigits ▸ List.mem_append_left rest h) with h | h
        · exact absurd (List.eq_of_mem_replicate h) (by decide)
        · exact point_not_digit h
      have hpower : (10 : ℚ) ^ x.exponent = (10 ^ rest.length)⁻¹ := by
        rw [← zpow_natCast, ← zpow_neg, hlength, Int.toNat_of_nonneg (by omega), neg_neg]
      have hall : Nat.ofDigitChars 10 (whole ++ rest) 0 = x.digits := by
        rw [hdigits, Nat.ofDigitChars_append, Nat.ofDigitChars_replicate_zero, Nat.mul_zero,
          Nat.ofDigitChars_ten_toDigits]
      rw [Nat.ofDigitChars_append, Nat.ofDigitChars_eq_ofDigitChars_zero] at hall
      rw [htext, reading_fixedPoint hpoint, value, hpower, ← hall]
      push_cast
      field_simp

theorem mem_positional {c : Char} (h : c ∈ x.positional) : c = '.' ∨ c.isDigit = true := by
  have hdigit {n : Nat} (h : c ∈ Nat.toDigits 10 n) : c.isDigit = true :=
    Nat.isDigit_of_mem_toDigits (by decide) (by decide) h
  have hzero {k : Nat} (h : c ∈ List.replicate k '0') : c.isDigit = true := List.eq_of_mem_replicate h ▸ rfl
  by_cases hx : x.digits = 0
  · rw [positional, if_pos hx, List.mem_singleton] at h
    exact .inr (h ▸ rfl)
  · by_cases he : 0 ≤ x.exponent
    · rw [positional, if_neg hx, if_pos he] at h
      exact .inr ((List.mem_append.mp h).elim hdigit hzero)
    · obtain ⟨whole, rest, k, htext, -, -, hdigits⟩ := x.positional_eq_fixedPoint hx (not_le.mp he)
      refine (mem_fixedPoint (htext ▸ h)).imp_right fun h => ?_
      exact (List.mem_append.mp (hdigits ▸ h)).elim hzero hdigit

theorem positional_ne_nil : x.positional ≠ [] := by
  by_cases hx : x.digits = 0
  · rw [positional, if_pos hx]
    exact List.cons_ne_nil _ _
  · by_cases he : 0 ≤ x.exponent
    · rw [positional, if_neg hx, if_pos he]
      exact List.append_ne_nil_of_left_ne_nil Nat.toDigits_ne_nil _
    · obtain ⟨whole, rest, k, htext, -, hwhole, -⟩ := x.positional_eq_fixedPoint hx (not_le.mp he)
      rw [htext]
      exact fixedPoint_ne_nil hwhole

end Scientific

end TestDouble.Decimal
