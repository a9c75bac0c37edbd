import Mathlib.Tactic.SplitIfs
import TestDouble.Proofs.Text.Delimited
import TestDouble.Proofs.Text.Numerals
import TestDouble.Text.Quoted

/-!
# Quoted text can be read back

Inside quotes every character has its own spelling, and no spelling begins with the quote. So the closing quote can be
found, and what stands before it determines the text.
-/

namespace TestDouble.Text

variable {quote c d : Char} {r r' : List Char}

/-! ## One character -/

/-- A code point in braces. -/
theorem codePointEscape_inj (h : codePointEscape c ++ r = codePointEscape d ++ r') : c = d ∧ r = r' := by
  have hbrace (n : Nat) : '\x7d' ∉ Nat.toDigits 16 n := by
    intro hmem
    obtain ⟨k, hk, hdigit⟩ := mem_toDigits (by decide) hmem
    revert k
    decide
  simp only [codePointEscape, List.append_assoc, List.cons_append, List.nil_append, List.cons.injEq, true_and] at h
  obtain ⟨hdigits, hr⟩ := append_cons_inj (hbrace _) (hbrace _) h
  exact ⟨Char.toNat_inj.mp (toDigits_injective (by decide) (by decide) hdigits), hr⟩

/-- The character that a letter stands for after a backslash. -/
def unescaped (letter : Char) : Char :=
  if letter = '0' then '\x00'
  else if letter = 't' then '\t'
  else if letter = 'r' then '\r'
  else if letter = 'n' then '\n'
  else letter

/-- A character stands for itself, or there is a letter for it, or its code point is given. -/
theorem escaped_cases (hquote : quote = '"' ∨ quote = '\'') (c : Char) :
    (c ≠ '\\' ∧ c ≠ quote ∧ escaped quote c = [c]) ∨
      (∃ letter, letter ≠ 'u' ∧ unescaped letter = c ∧ escaped quote c = ['\\', letter]) ∨
      escaped quote c = codePointEscape c := by
  unfold escaped
  split_ifs with h0 ht hr hn hself hplain
  · exact .inr (.inl ⟨'0', by decide, h0.symm, rfl⟩)
  · exact .inr (.inl ⟨'t', by decide, ht.symm, rfl⟩)
  · exact .inr (.inl ⟨'r', by decide, hr.symm, rfl⟩)
  · exact .inr (.inl ⟨'n', by decide, hn.symm, rfl⟩)
  · have hletter : c = '\\' ∨ c = '"' ∨ c = '\'' := by
      simp only [Bool.or_eq_true, decide_eq_true_eq] at hself
      rcases hself with rfl | rfl
      · exact .inl rfl
      · exact .inr hquote
    refine .inr (.inl ⟨c, ?_, ?_, rfl⟩) <;> rcases hletter with rfl | rfl | rfl <;> decide
  · simp only [Bool.or_eq_true, decide_eq_true_eq, not_or] at hself
    exact .inl ⟨hself.1, hself.2, rfl⟩
  · exact .inr (.inr rfl)

/-- A character is known by its spelling. -/
theorem escaped_inj (hquote : quote = '"' ∨ quote = '\'') (h : escaped quote c ++ r = escaped quote d ++ r') :
    c = d ∧ r = r' := by
  have hcode (c : Char) (r : List Char) : ∃ t, codePointEscape c ++ r = '\\' :: 'u' :: t := ⟨_, rfl⟩
  rcases escaped_cases hquote c with ⟨hc, -, hspelled⟩ | ⟨l, hl, rfl, hspelled⟩ | hspelled <;>
    rcases escaped_cases hquote d with ⟨hd, -, hspelled'⟩ | ⟨l', hl', rfl, hspelled'⟩ | hspelled' <;>
    rw [hspelled, hspelled'] at h
  · exact List.cons.inj h
  · exact absurd (List.cons.inj h).1 hc
  · obtain ⟨t, ht⟩ := hcode d r'
    rw [ht] at h
    exact absurd (List.cons.inj h).1 hc
  · exact absurd (List.cons.inj h).1.symm hd
  · cases h
    exact ⟨rfl, rfl⟩
  · obtain ⟨t, ht⟩ := hcode d r'
    rw [ht] at h
    exact absurd (List.cons.inj (List.cons.inj h).2).1 hl
  · obtain ⟨t, ht⟩ := hcode c r
    rw [ht] at h
    exact absurd (List.cons.inj h).1.symm hd
  · obtain ⟨t, ht⟩ := hcode c r
    rw [ht] at h
    exact absurd (List.cons.inj (List.cons.inj h).2).1.symm hl'
  · exact codePointEscape_inj h

/-- No spelling begins with the quote. -/
theorem escaped_ne_quote (hquote : quote = '"' ∨ quote = '\'') (c : Char) : escaped quote c ++ r ≠ quote :: r' := by
  have hslash : '\\' ≠ quote := by rcases hquote with rfl | rfl <;> decide
  intro h
  rcases escaped_cases hquote c with ⟨-, hc, hspelled⟩ | ⟨l, -, -, hspelled⟩ | hspelled <;> rw [hspelled] at h
  · exact hc (List.cons.inj h).1
  · exact hslash (List.cons.inj h).1
  · exact hslash (List.cons.inj h).1

/-! ## Between quotes -/

theorem flatMap_escaped_inj (hquote : quote = '"' ∨ quote = '\'') : ∀ {cs ds r r' : List Char},
    cs.flatMap (escaped quote) ++ quote :: r = ds.flatMap (escaped quote) ++ quote :: r' → cs = ds ∧ r = r'
  | [], [], _, _, h => ⟨rfl, List.cons_injective h⟩
  | [], d :: ds, _, _, h => by
      rw [List.flatMap_cons, List.append_assoc] at h
      exact absurd h.symm (escaped_ne_quote hquote d)
  | c :: cs, [], _, _, h => by
      rw [List.flatMap_cons, List.append_assoc] at h
      exact absurd h (escaped_ne_quote hquote c)
  | c :: cs, d :: ds, _, _, h => by
      rw [List.flatMap_cons, List.flatMap_cons, List.append_assoc, List.append_assoc] at h
      obtain ⟨rfl, hrest⟩ := escaped_inj hquote h
      obtain ⟨rfl, hr⟩ := flatMap_escaped_inj hquote hrest
      exact ⟨rfl, hr⟩

theorem quotedString_inj {s t : String} (h : (quotedString s).toList ++ r = (quotedString t).toList ++ r') :
    s = t ∧ r = r' := by
  simp only [quotedString, String.toList_ofList, List.append_assoc, List.cons_append, List.nil_append, List.cons.injEq,
    true_and] at h
  obtain ⟨hchars, hr⟩ := flatMap_escaped_inj (.inl rfl) h
  exact ⟨String.toList_inj.mp hchars, hr⟩

theorem quotedChar_inj (h : (quotedChar c).toList ++ r = (quotedChar d).toList ++ r') : c = d ∧ r = r' := by
  simp only [quotedChar, String.toList_ofList, List.append_assoc, List.cons_append, List.nil_append, List.cons.injEq,
    true_and] at h
  obtain ⟨rfl, hr⟩ := escaped_inj (.inr rfl) h
  exact ⟨rfl, List.cons_injective hr⟩

end TestDouble.Text
