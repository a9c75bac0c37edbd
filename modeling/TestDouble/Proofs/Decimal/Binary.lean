import TestDouble.Decimal.Binary
import TestDouble.Proofs.Decimal.Shortest

/-!
# Different numbers are written differently

The fractions that round to a number lie between those that round to its neighbours. As the decimal that is written
rounds to the number, it belongs to no other. What is not a number is always written in the same way.
-/

namespace TestDouble.Decimal

namespace Dyadic

theorem low_lt_high (x : Dyadic) : x.low < x.high := by
  have hscale : (0 : ℚ) < 2 ^ (x.exponent - 2) := zpow_pos (by norm_num) _
  rw [low, high, mul_lt_mul_iff_left₀ hscale, Nat.cast_lt]
  omega

end Dyadic

namespace BinaryFormat

variable {f : BinaryFormat} {a b m n exponent fraction : Nat} {v : ℚ}

/-! ## Neighbours -/

theorem magnitudeBits_eq_self (h : m < 2 ^ (f.fractionBits + f.exponentBits)) : f.magnitudeBits m = m := by
  rw [magnitudeBits, Nat.one_shiftLeft, Nat.mod_eq_of_lt h]

/-- The sign does not matter. -/
theorem dyadic_magnitudeBits (bits : Nat) : f.dyadic (f.magnitudeBits bits) = f.dyadic bits := by
  have hmagnitude : f.magnitudeBits (f.magnitudeBits bits) = f.magnitudeBits bits := Nat.mod_mod _ _
  have hfraction : f.magnitudeBits bits % 1 <<< f.fractionBits = bits % 1 <<< f.fractionBits := by
    rw [magnitudeBits, Nat.one_shiftLeft, Nat.one_shiftLeft]
    exact Nat.mod_mod_of_dvd _ (Nat.pow_dvd_pow 2 (Nat.le_add_right _ _))
  simp only [dyadic, hmagnitude, hfraction]

/-- The least exponent. -/
def least (f : BinaryFormat) : Int := 2 - (1 <<< (f.exponentBits - 1) : Nat) - f.fractionBits

/-- A number by its two fields. -/
theorem dyadic_fields (hfraction : fraction < 2 ^ f.fractionBits)
    (h : 2 ^ f.fractionBits * exponent + fraction < 2 ^ (f.fractionBits + f.exponentBits)) :
    f.dyadic (2 ^ f.fractionBits * exponent + fraction) =
      if exponent = 0 then ⟨fraction, f.least, false⟩
      else ⟨2 ^ f.fractionBits + fraction, f.least + exponent - 1, fraction == 0 && 1 < exponent⟩ := by
  have hdiv : (2 ^ f.fractionBits * exponent + fraction) / 2 ^ f.fractionBits = exponent := by
    rw [Nat.mul_add_div (Nat.two_pow_pos _), Nat.div_eq_of_lt hfraction, Nat.add_zero]
  have hmod : (2 ^ f.fractionBits * exponent + fraction) % 2 ^ f.fractionBits = fraction := by
    rw [Nat.mul_add_mod, Nat.mod_eq_of_lt hfraction]
  simp only [dyadic, magnitudeBits_eq_self h, Nat.one_shiftLeft, Nat.shiftRight_eq_div_pow, hdiv, hmod, least]

theorem exists_fields (f : BinaryFormat) (m : Nat) :
    ∃ exponent fraction, fraction < 2 ^ f.fractionBits ∧ m = 2 ^ f.fractionBits * exponent + fraction :=
  ⟨_, _, Nat.mod_lt m (Nat.two_pow_pos _), (Nat.div_add_mod m _).symm⟩

/-- The gaps above and below a number are the same within a binade. -/
theorem high_eq_low_within (hnext : fraction + 1 < 2 ^ f.fractionBits)
    (h : 2 ^ f.fractionBits * exponent + (fraction + 1) < 2 ^ (f.fractionBits + f.exponentBits)) :
    (f.dyadic (2 ^ f.fractionBits * exponent + fraction)).high =
      (f.dyadic (2 ^ f.fractionBits * exponent + (fraction + 1))).low := by
  rw [dyadic_fields (Nat.lt_of_succ_lt hnext) (Nat.lt_of_succ_lt h), dyadic_fields hnext h]
  by_cases hzero : exponent = 0
  · rw [if_pos hzero, if_pos hzero, Dyadic.high, Dyadic.low]
    have hsteps : 4 * (fraction + 1) - 2 = 4 * fraction + 2 := by omega
    simp only [Bool.false_eq_true, if_false, hsteps]
  · rw [if_neg hzero, if_neg hzero, Dyadic.high, Dyadic.low]
    have hsteps : 4 * (2 ^ f.fractionBits + (fraction + 1)) - 2 = 4 * (2 ^ f.fractionBits + fraction) + 2 := by omega
    have hwide : (fraction + 1 == 0) = false := rfl
    simp only [hwide, Bool.false_and, Bool.false_eq_true, if_false, hsteps]

/-- The gap below the first number of a binade is that of the binade before. -/
theorem high_eq_low_between (hlast : fraction + 1 = 2 ^ f.fractionBits)
    (h : 2 ^ f.fractionBits * (exponent + 1) + 0 < 2 ^ (f.fractionBits + f.exponentBits)) :
    (f.dyadic (2 ^ f.fractionBits * exponent + fraction)).high =
      (f.dyadic (2 ^ f.fractionBits * (exponent + 1) + 0)).low := by
  have hbefore : 2 ^ f.fractionBits * exponent + fraction < 2 ^ (f.fractionBits + f.exponentBits) := by
    rw [Nat.mul_add] at h
    omega
  rw [dyadic_fields (by omega) hbefore, dyadic_fields (Nat.two_pow_pos _) h, ← hlast, if_neg (Nat.succ_ne_zero _)]
  by_cases hzero : exponent = 0
  · subst hzero
    rw [if_pos rfl, Dyadic.high, Dyadic.low]
    have hexponent : f.least + (0 + 1 : ℕ) - 1 = f.least := by omega
    have hsteps : 4 * (fraction + 1 + 0) - 2 = 4 * fraction + 2 := by omega
    simp only [hexponent, Nat.zero_add, lt_irrefl, decide_false, Bool.and_false, Bool.false_eq_true, if_false, hsteps]
  · rw [if_neg hzero, Dyadic.high, Dyadic.low]
    have hexponent : f.least + (exponent + 1 : ℕ) - 1 - 2 = f.least + exponent - 1 - 2 + 1 := by omega
    have hnarrow : ((0 : ℕ) == 0 && decide (1 < exponent + 1)) = true := by
      rw [decide_eq_true (by omega)]
      rfl
    have hsteps : 4 * (fraction + 1 + fraction) + 2 = (4 * (fraction + 1 + 0) - 1) * 2 := by omega
    simp only [hexponent, hnarrow, if_true, hsteps]
    rw [zpow_add_one₀ (by norm_num)]
    push_cast
    ring

/-- Half way to the number above is half way from there. -/
theorem high_eq_low_succ (h : m + 1 < 2 ^ (f.fractionBits + f.exponentBits)) :
    (f.dyadic m).high = (f.dyadic (m + 1)).low := by
  obtain ⟨exponent, fraction, hfraction, rfl⟩ := f.exists_fields m
  by_cases hlast : fraction + 1 = 2 ^ f.fractionBits
  · have hnext : 2 ^ f.fractionBits * exponent + fraction + 1 = 2 ^ f.fractionBits * (exponent + 1) + 0 := by
      rw [Nat.mul_add, Nat.mul_one, Nat.add_assoc, hlast, Nat.add_zero]
    rw [hnext] at h ⊢
    exact high_eq_low_between hlast h
  · have hnext : fraction + 1 < 2 ^ f.fractionBits := by omega
    rw [Nat.add_assoc] at h ⊢
    exact high_eq_low_within hnext h

/-- Different numbers have nothing between their halves. -/
theorem high_le_low (h : m < n) (hn : n < 2 ^ (f.fractionBits + f.exponentBits)) :
    (f.dyadic m).high ≤ (f.dyadic n).low := by
  induction n, Nat.succ_le_of_lt h using Nat.le_induction with
  | base => exact (high_eq_low_succ hn).le
  | succ n hmn ih =>
      calc (f.dyadic m).high ≤ (f.dyadic n).low := ih hmn (Nat.lt_of_succ_lt hn)
        _ ≤ (f.dyadic n).high := (Dyadic.low_lt_high _).le
        _ = (f.dyadic (n + 1)).low := high_eq_low_succ hn

/-- Of two neighbours one is even. -/
theorem significand_mod_two (hf : 0 < f.fractionBits) (h : m < 2 ^ (f.fractionBits + f.exponentBits)) :
    (f.dyadic m).significand % 2 = m % 2 := by
  obtain ⟨exponent, fraction, hfraction, rfl⟩ := f.exists_fields m
  obtain ⟨k, hk⟩ := Nat.exists_eq_succ_of_ne_zero hf.ne'
  have heven (n : Nat) : 2 ^ f.fractionBits * n % 2 = 0 := by
    rw [hk, Nat.pow_succ', Nat.mul_assoc, Nat.mul_mod_right]
  have hpower := heven 1
  rw [Nat.mul_one] at hpower
  rw [dyadic_fields hfraction h, Nat.add_mod, heven, Nat.zero_add, Nat.mod_mod]
  split
  · rfl
  · rw [Nat.add_mod, hpower, Nat.zero_add, Nat.mod_mod]

/-- A fraction rounds to one number only. -/
theorem eq_of_owns (hf : 0 < f.fractionBits) (hm : m < 2 ^ (f.fractionBits + f.exponentBits))
    (hn : n < 2 ^ (f.fractionBits + f.exponentBits)) (hv : (f.dyadic m).Owns v) (hv' : (f.dyadic n).Owns v) :
    m = n := by
  wlog hlt : m < n generalizing m n
  · rcases Nat.lt_or_eq_of_le (Nat.le_of_not_lt hlt) with h | h
    · exact (this hn hm hv' hv h).symm
    · exact h.symm
  obtain ⟨-, hhigh, hstrict⟩ := hv
  obtain ⟨hlow, -, hstrict'⟩ := hv'
  have hmeet : (f.dyadic m).high = (f.dyadic n).low :=
    le_antisymm (high_le_low hlt hn) (hlow.trans hhigh)
  rw [significand_mod_two hf hm] at hstrict
  rw [significand_mod_two hf hn] at hstrict'
  -- the fraction is half way between the two, which both own only if both are even
  have heven : m % 2 ≠ 1 := fun hodd => absurd (hmeet.trans_le hlow) (not_le.mpr (hstrict hodd).2)
  have heven' : n % 2 ≠ 1 := fun hodd => absurd (hhigh.trans_eq hmeet) (not_le.mpr (hstrict' hodd).1)
  have hbetween : m + 1 < n := by omega
  have hsucc := hbetween.trans hn
  have hgap : (f.dyadic m).high < (f.dyadic n).low :=
    calc (f.dyadic m).high = (f.dyadic (m + 1)).low := high_eq_low_succ hsucc
      _ < (f.dyadic (m + 1)).high := Dyadic.low_lt_high _
      _ ≤ (f.dyadic n).low := high_le_low hbetween hn
  exact absurd hmeet hgap.ne

/-! ## Text -/

/-- The magnitude as it is written. -/
def magnitudeText (f : BinaryFormat) (bits : Nat) : List Char :=
  if f.magnitudeBits bits = f.infinityBits then ['i', 'n', 'f'] else (f.dyadic bits).shortest.positional

theorem text_of_isNaN (h : f.isNaN a = true) : (f.text a).toList = ['N', 'a', 'N'] := by
  rw [text, if_pos h]
  rfl

theorem text_of_number (h : f.isNaN a = false) :
    (f.text a).toList = if f.isNegative a then '-' :: f.magnitudeText a else f.magnitudeText a := by
  rw [text, if_neg (by rw [h]; exact Bool.false_ne_true), String.toList_ofList, magnitudeText]
  rfl

theorem magnitudeText_cases (bits : Nat) : f.magnitudeText bits = ['i', 'n', 'f'] ∨
    f.magnitudeText bits = (f.dyadic bits).shortest.positional := by
  rw [magnitudeText]
  split
  · exact .inl rfl
  · exact .inr rfl

/-- What is infinite is not written with digits. -/
theorem positional_ne_inf {x : Scientific} : x.positional ≠ ['i', 'n', 'f'] := by
  intro h
  have hi : 'i' ∈ x.positional := by rw [h]; exact List.mem_cons_self
  rcases x.mem_positional hi with hdot | hdigit
  · exact absurd hdot (by decide)
  · exact absurd hdigit (by decide)

theorem mem_magnitudeText {c : Char} (h : c ∈ f.magnitudeText a) :
    c ∈ ['i', 'n', 'f'] ∨ c = '.' ∨ c.isDigit = true := by
  rcases magnitudeText_cases (f := f) a with hinf | hpositional
  · exact .inl (hinf ▸ h)
  · exact .inr (Scientific.mem_positional _ (hpositional ▸ h))

/-- No sign, and no letter of what is not a number. -/
theorem notMem_magnitudeText {c : Char} (h : c ∉ ['i', 'n', 'f', '.']) (hdigit : c.isDigit = false) :
    c ∉ f.magnitudeText a := by
  intro hmem
  rcases mem_magnitudeText hmem with hinf | hdot | hdigit'
  · exact h (List.mem_append_left ['.'] hinf)
  · exact h (List.mem_append_right ['i', 'n', 'f'] (List.mem_singleton.mpr hdot))
  · rw [hdigit] at hdigit'
    cases hdigit'

theorem magnitudeBits_lt (bits : Nat) : f.magnitudeBits bits < 2 ^ (f.fractionBits + f.exponentBits) := by
  rw [magnitudeBits, Nat.one_shiftLeft]
  exact Nat.mod_lt _ (Nat.two_pow_pos _)

theorem magnitudeText_inj (hf : 0 < f.fractionBits) (h : f.magnitudeText a = f.magnitudeText b) :
    f.magnitudeBits a = f.magnitudeBits b := by
  simp only [magnitudeText] at h
  split at h
  · next ha =>
    split at h
    · next hb => exact ha.trans hb.symm
    · exact absurd h.symm positional_ne_inf
  · split at h
    · exact absurd h positional_ne_inf
    · have hvalue := congrArg reading h
      rw [Scientific.reading_positional, Scientific.reading_positional] at hvalue
      have ha := (f.dyadic a).shortest_owns
      have hb := (f.dyadic b).shortest_owns
      rw [← dyadic_magnitudeBits a] at ha hvalue
      rw [← dyadic_magnitudeBits b] at hb hvalue
      rw [hvalue] at ha
      exact eq_of_owns hf (magnitudeBits_lt a) (magnitudeBits_lt b) ha hb

/-- Numbers written alike are the same, with the same sign. -/
theorem text_inj (hf : 0 < f.fractionBits) (h : (f.text a).toList = (f.text b).toList) :
    f.isNaN a = f.isNaN b ∧ (f.isNaN a = false → f.orderKey a = f.orderKey b) := by
  have hsign {bits : Nat} : '-' ∉ f.magnitudeText bits := notMem_magnitudeText (by decide) rfl
  have hletter {bits : Nat} (hnumber : f.isNaN bits = false) : 'N' ∉ (f.text bits).toList := by
    have hmagnitude : 'N' ∉ f.magnitudeText bits := notMem_magnitudeText (by decide) rfl
    rw [text_of_number hnumber]
    split
    · exact List.not_mem_cons_of_ne_of_not_mem (by decide) hmagnitude
    · exact hmagnitude
  cases ha : f.isNaN a <;> cases hb : f.isNaN b
  · refine ⟨rfl, fun _ => ?_⟩
    rw [text_of_number ha, text_of_number hb] at h
    cases hna : f.isNegative a <;> cases hnb : f.isNegative b <;>
      simp only [hna, hnb, if_true, Bool.false_eq_true, if_false] at h
    · simp only [orderKey, hna, hnb, magnitudeText_inj hf h]
    · exact absurd (h ▸ List.mem_cons_self) hsign
    · exact absurd (h.symm ▸ List.mem_cons_self) hsign
    · simp only [orderKey, hna, hnb, magnitudeText_inj hf (List.cons_injective h)]
  · rw [text_of_isNaN hb] at h
    exact absurd (h ▸ List.mem_cons_self) (hletter ha)
  · rw [text_of_isNaN ha] at h
    exact absurd (h.symm ▸ List.mem_cons_self) (hletter hb)
  · exact ⟨rfl, nofun⟩

/-- An infinite number, as it is written. -/
def infinityTexts : List (List Char) := [['i', 'n', 'f'], ['-', 'i', 'n', 'f']]

/-- No number, an infinite one, or digits with at most a sign in front. -/
theorem text_cases (f : BinaryFormat) (bits : Nat) : (f.text bits).toList = ['N', 'a', 'N'] ∨
    (f.text bits).toList ∈ infinityTexts ∨
    ∃ x : Scientific, (f.text bits).toList = x.positional ∨ (f.text bits).toList = '-' :: x.positional := by
  cases hnan : f.isNaN bits with
  | true => exact .inl (text_of_isNaN hnan)
  | false =>
      rw [text_of_number hnan]
      rcases magnitudeText_cases (f := f) bits with hinf | hpositional
      · rw [hinf]
        exact .inr (.inl (by split <;> decide))
      · rw [hpositional]
        refine .inr (.inr ⟨(f.dyadic bits).shortest, ?_⟩)
        split
        · exact .inr rfl
        · exact .inl rfl

end BinaryFormat

end TestDouble.Decimal
