import Mathlib.Data.List.Basic

/-!
# Numerals

A number can be read back from its digits.
-/

namespace TestDouble.Text

theorem digitChar_injective : ∀ m < 16, ∀ n < 16, Nat.digitChar m = Nat.digitChar n → m = n := by decide

/-- Different numbers have different digits. -/
theorem toDigits_injective {b : Nat} (hb : 1 < b) (hb' : b ≤ 16) {m n : Nat} (h : Nat.toDigits b m = Nat.toDigits b n) :
    m = n := by
  induction m using Nat.strongRecOn generalizing n with
  | ind m ih =>
    have hlength := congrArg List.length h
    rcases Nat.lt_or_ge m b with hm | hm <;> rcases Nat.lt_or_ge n b with hn | hn
    · rw [Nat.toDigits_of_lt_base hm, Nat.toDigits_of_lt_base hn] at h
      exact digitChar_injective m (by omega) n (by omega) (List.singleton_inj.mp h)
    · rw [Nat.toDigits_of_lt_base hm, Nat.toDigits_of_base_le hb hn, List.length_append] at hlength
      have := Nat.length_toDigits_pos (b := b) (n := n / b)
      simp only [List.length_singleton] at hlength
      omega
    · rw [Nat.toDigits_of_base_le hb hm, Nat.toDigits_of_lt_base hn, List.length_append] at hlength
      have := Nat.length_toDigits_pos (b := b) (n := m / b)
      simp only [List.length_singleton] at hlength
      omega
    · rw [Nat.toDigits_of_base_le hb hm, Nat.toDigits_of_base_le hb hn] at h
      obtain ⟨hquotient, hlast⟩ := List.append_inj' h rfl
      have hq := ih (m / b) (Nat.div_lt_self (by omega) hb) hquotient
      have hlt (k : Nat) : k % b < 16 := Nat.lt_of_lt_of_le (Nat.mod_lt k (by omega)) hb'
      have hr := digitChar_injective (m % b) (hlt m) (n % b) (hlt n) (List.singleton_inj.mp hlast)
      rw [← Nat.div_add_mod m b, ← Nat.div_add_mod n b, hq, hr]

theorem mem_toDigits {b : Nat} (hb : 1 < b) {n : Nat} {c : Char} (h : c ∈ Nat.toDigits b n) :
    ∃ d < b, c = Nat.digitChar d := by
  induction n using Nat.strongRecOn with
  | ind n ih =>
    rcases Nat.lt_or_ge n b with hn | hn
    · rw [Nat.toDigits_of_lt_base hn, List.mem_singleton] at h
      exact ⟨n, hn, h⟩
    · rw [Nat.toDigits_of_base_le hb hn, List.mem_append, List.mem_singleton] at h
      rcases h with h | h
      · exact ih (n / b) (Nat.div_lt_self (by omega) hb) h
      · exact ⟨n % b, Nat.mod_lt n (by omega), h⟩

/-- The hexadecimal digits, as characters. -/
theorem isHexDigit_iff {c : Char} : (c.isDigit || ('a' ≤ c && c ≤ 'f')) = true ↔ ∃ d < 16, c = Nat.digitChar d := by
  constructor
  · intro h
    have hlt : c.toNat < 103 := by
      simp only [Char.isDigit, Bool.or_eq_true, Bool.and_eq_true, decide_eq_true_eq, Char.le_def,
        UInt32.le_iff_toNat_le] at h
      have hn : c.toNat = c.val.toNat := rfl
      have hf : 'f'.val.toNat = 102 := rfl
      have h9 : '9'.val.toNat = 57 := rfl
      omega
    have hall : ∀ n < 103, ((Char.ofNat n).isDigit || ('a' ≤ Char.ofNat n && Char.ofNat n ≤ 'f')) = true →
        ∃ d < 16, Char.ofNat n = Nat.digitChar d := by decide
    have hc := hall c.toNat hlt
    rw [Char.ofNat_toNat] at hc
    exact hc h
  · rintro ⟨d, hd, rfl⟩
    revert d
    decide

/-- The sign of a whole number, and its digits. -/
theorem toList_toString_int (n : Int) :
    (toString n).toList = if n < 0 then '-' :: Nat.toDigits 10 n.natAbs else Nat.toDigits 10 n.natAbs := by
  rw [Int.toString_eq_repr, Int.repr_eq_if]
  by_cases hn : n < 0
  · rw [if_pos hn, if_neg (by omega), show (-n).toNat = n.natAbs by omega]
    simp [Nat.repr_eq_ofList_toDigits]
  · rw [if_neg hn, if_pos (by omega), Nat.repr_eq_ofList_toDigits, String.toList_ofList,
      show n.toNat = n.natAbs by omega]

/-- Different whole numbers are written differently. -/
theorem toString_int_inj {m n : Int} (h : (toString m).toList = (toString n).toList) : m = n := by
  have hsign {k : Nat} {ds : List Char} : Nat.toDigits 10 k ≠ '-' :: ds := by
    intro h
    have hdigit : '-'.isDigit = true :=
      Nat.isDigit_of_mem_toDigits (by decide) (by decide) (h ▸ List.mem_cons_self : '-' ∈ Nat.toDigits 10 k)
    cases hdigit
  have hdigits {j k : Nat} (h : Nat.toDigits 10 j = Nat.toDigits 10 k) : j = k :=
    toDigits_injective (by decide) (by decide) h
  rw [toList_toString_int, toList_toString_int] at h
  split at h <;> split at h
  · have := hdigits (List.cons_injective h)
    omega
  · exact absurd h.symm hsign
  · exact absurd h hsign
  · have := hdigits h
    omega

theorem toList_toString_nat (n : Nat) : (toString n).toList = Nat.toDigits 10 n := by
  rw [Nat.toString_eq_ofList_toDigits, String.toList_ofList]

end TestDouble.Text
