import TestDouble.Duration
import TestDouble.Proofs.Decimal.Positional
import TestDouble.Proofs.Text.Delimited
import TestDouble.Proofs.Text.Numerals

/-!
# Durations can be read back

A duration is written as an amount and a unit. The amount ends where the unit begins.
-/

namespace TestDouble.Duration

/-! ## Amounts -/

open Decimal

variable {whole fraction places : Nat}

/-- A fraction with all its places. -/
def placed (fraction places : Nat) : List Char :=
  List.replicate (places - (Nat.toDigits 10 fraction).length) '0' ++ Nat.toDigits 10 fraction

theorem toList_decimalText :
    (decimalText whole fraction places).toList = fixedPoint (Nat.toDigits 10 whole) (placed fraction places) := by
  rw [decimalText, fixedPoint, String.toList_append, String.toList_ofList, Text.toList_toString_nat]
  change Nat.toDigits 10 whole ++ (if (trimmed (placed fraction places)).isEmpty then [] else '.' :: _) = _
  by_cases hempty : (trimmed (placed fraction places)).isEmpty = true
  · rw [if_pos hempty, if_pos hempty, List.append_nil]
  · rw [if_neg hempty, if_neg hempty]
    rfl

theorem reading_decimalText (h : fraction < 10 ^ places) (hplaces : 0 < places) :
    reading (decimalText whole fraction places).toList = whole + fraction / 10 ^ places := by
  have hlength : (placed fraction places).length = places := by
    have := (Nat.length_toDigits_le_iff (by decide) hplaces).mpr h
    rw [placed, List.length_append, List.length_replicate]
    omega
  have hdigits : Nat.ofDigitChars 10 (placed fraction places) 0 = fraction := by
    rw [placed, Nat.ofDigitChars_append, Nat.ofDigitChars_replicate_zero, Nat.mul_zero, Nat.ofDigitChars_ten_toDigits]
  rw [toList_decimalText, reading_fixedPoint point_not_digit, Nat.ofDigitChars_ten_toDigits, hlength, hdigits]

/-- Whole units and what remains. -/
theorem reading_split (n : Nat) (hplaces : 0 < places) :
    reading (decimalText (n / 10 ^ places) (n % 10 ^ places) places).toList * 10 ^ places = n := by
  have hparts := congrArg (Nat.cast (R := ℚ)) (Nat.div_add_mod n (10 ^ places))
  push_cast at hparts
  rw [reading_decimalText (Nat.mod_lt n (Nat.pow_pos (by decide))) hplaces, ← hparts]
  field_simp

/-- A digit or a point. -/
def isAmount (c : Char) : Bool := c == '.' || c.isDigit

theorem isAmount_toDigits {n : Nat} : ∀ c ∈ Nat.toDigits 10 n, isAmount c = true := fun c hc => by
  rw [isAmount, Nat.isDigit_of_mem_toDigits (by decide) (by decide) hc, Bool.or_true]

theorem isAmount_decimalText : ∀ c ∈ (decimalText whole fraction places).toList, isAmount c = true := by
  intro c hc
  rw [toList_decimalText] at hc
  rcases mem_fixedPoint hc with rfl | hc
  · rfl
  · rcases List.mem_append.mp hc with hc | hc
    · exact isAmount_toDigits c hc
    · rcases List.mem_append.mp hc with hc | hc
      · rw [List.eq_of_mem_replicate hc]
        rfl
      · exact isAmount_toDigits c hc

/-! ## Units -/

/-- The unit of a duration, in nanoseconds. -/
def scale (d : Duration) : Nat :=
  if 0 < d.seconds then 1000000000 else if 1000000 ≤ d.nanos then 1000000 else if 1000 ≤ d.nanos then 1000 else 1

def unit (d : Duration) : List Char :=
  if 0 < d.seconds then ['s']
  else if 1000000 ≤ d.nanos then ['m', 's']
  else if 1000 ≤ d.nanos then ['µ', 's']
  else ['n', 's']

theorem scale_of_unit {d d' : Duration} (h : d.unit = d'.unit) : d.scale = d'.scale := by
  simp only [unit] at h
  simp only [scale]
  split_ifs at h ⊢ <;> first | rfl | exact absurd h (by decide)

/-- A duration is so many of its units. -/
theorem text_parts (d : Duration) : ∃ amount, d.text.toList = amount ++ d.unit ∧
    (∀ c ∈ amount, isAmount c = true) ∧ reading amount * d.scale = d.toNanos := by
  have hlt := d.nanos_lt
  by_cases hs : 0 < d.seconds
  · refine ⟨(decimalText d.seconds d.nanos 9).toList, ?_, isAmount_decimalText, ?_⟩
    · rw [text, if_pos hs, unit, if_pos hs, String.toList_append]
      rfl
    · rw [reading_decimalText (by omega) (by decide), scale, if_pos hs, toNanos]
      push_cast
      ring
  · have hnanos : d.toNanos = d.nanos := by
      rw [toNanos]
      omega
    rw [hnanos]
    by_cases hms : 1000000 ≤ d.nanos
    · refine ⟨(decimalText (d.nanos / 1000000) (d.nanos % 1000000) 6).toList, ?_, isAmount_decimalText, ?_⟩
      · rw [text, if_neg hs, if_pos hms, unit, if_neg hs, if_pos hms, String.toList_append]
        rfl
      · rw [scale, if_neg hs, if_pos hms, ← reading_split d.nanos (by decide : 0 < 6)]
        norm_num
    · by_cases hus : 1000 ≤ d.nanos
      · refine ⟨(decimalText (d.nanos / 1000) (d.nanos % 1000) 3).toList, ?_, isAmount_decimalText, ?_⟩
        · rw [text, if_neg hs, if_neg hms, if_pos hus, unit, if_neg hs, if_neg hms, if_pos hus, String.toList_append]
          rfl
        · rw [scale, if_neg hs, if_neg hms, if_pos hus, ← reading_split d.nanos (by decide : 0 < 3)]
          norm_num
      · refine ⟨Nat.toDigits 10 d.nanos, ?_, isAmount_toDigits, ?_⟩
        · rw [text, if_neg hs, if_neg hms, if_neg hus, unit, if_neg hs, if_neg hms, if_neg hus, String.toList_append,
            Text.toList_toString_nat]
          rfl
        · rw [scale, if_neg hs, if_neg hms, if_neg hus, reading_whole point_not_digit, Nat.ofDigitChars_ten_toDigits,
            Nat.cast_one, mul_one]

/-- Different durations are written differently. -/
theorem text_inj {d d' : Duration} (h : d.text.toList = d'.text.toList) : d = d' := by
  obtain ⟨amount, htext, hamount, hreading⟩ := d.text_parts
  obtain ⟨amount', htext', hamount', hreading'⟩ := d'.text_parts
  have hunit (d : Duration) : ∀ c ∈ d.unit.head?, isAmount c = false := by
    intro c hc
    rw [unit] at hc
    split_ifs at hc <;> cases hc <;> rfl
  rw [htext, htext'] at h
  obtain ⟨rfl, hunits⟩ := Text.append_inj_of_forall hamount hamount' (hunit d) (hunit d') h
  rw [scale_of_unit hunits, hreading'] at hreading
  have hnanos : d'.toNanos = d.toNanos := Nat.cast_injective hreading
  have hlt := d.nanos_lt
  have hlt' := d'.nanos_lt
  obtain ⟨seconds, nanos, _⟩ := d
  obtain ⟨seconds', nanos', _⟩ := d'
  simp only [toNanos] at hnanos hlt hlt'
  rw [Duration.mk.injEq]
  omega

end TestDouble.Duration
