import TestDouble.Proofs.Text.Delimited
import TestDouble.Shape

/-!
# Shapes can be read back

A shape is known by its text, unless a class is called like another shape.
-/

namespace TestDouble.Shape

open Text

/-- The shapes that are written by a name of their own. -/
def builtIns : List Shape :=
  [.unit, .bool, .byte, .short, .int, .long, .float, .double, .char, .str, .duration, .generic]

/-- No class in it is called like a shape that is no class. -/
def isLegible : Shape → Bool
  | .list element => element.isLegible
  | .object className => isLegibleName className && (builtIns.all fun s => s.text != className) &&
      !"List<".toList.isPrefixOf className.toList
  | _ => true

theorem builtIn_inj : ∀ s ∈ builtIns, ∀ s' ∈ builtIns, s.text = s'.text → s = s' := by decide

variable {s s' : Shape} {r r' : List Char}

/-! ## Names -/

/-- Written by a name alone. -/
def IsName (s : Shape) : Prop := ∀ element, s ≠ .list element

theorem name_cases (hs : s.IsName) : s ∈ builtIns ∨ ∃ className, s = .object className := by
  cases s with
  | list element => exact absurd rfl (hs element)
  | object className => exact .inr ⟨className, rfl⟩
  | _ => exact .inl (by decide)

theorem isLegible_object {className : String} : isLegible (.object className) = true ↔
    isLegibleName className = true ∧ (∀ s ∈ builtIns, s.text ≠ className) ∧ ¬ "List<".toList <+: className.toList := by
  simp only [isLegible, Bool.and_eq_true, and_assoc, List.all_eq_true, bne_iff_ne, Bool.not_eq_true',
    ← Bool.not_eq_true, List.isPrefixOf_iff_prefix]

theorem builtIn_legible : ∀ s ∈ builtIns, s ≠ .unit → isLegibleName s.text = true := by decide

/-- All names but the one of the unit are words. -/
theorem name_word (hs : s.IsName) (hlegible : s.isLegible = true) (hunit : s ≠ .unit) :
    IsWord s.text.toList ∧ ∀ c ∈ s.text.toList.head?, isOpening c = false := by
  have hname : isLegibleName s.text = true := by
    rcases name_cases hs with hbuiltIn | ⟨className, rfl⟩
    · exact builtIn_legible s hbuiltIn hunit
    · exact (isLegible_object.mp hlegible).1
  exact (isLegibleName_iff.mp hname).2

theorem name_inj (hs : s.IsName) (hs' : s'.IsName) (hl : s.isLegible = true) (hl' : s'.isLegible = true)
    (h : s.text = s'.text) : s = s' := by
  rcases name_cases hs with hbuiltIn | ⟨className, rfl⟩ <;> rcases name_cases hs' with hbuiltIn' | ⟨className', rfl⟩
  · exact builtIn_inj s hbuiltIn s' hbuiltIn' h
  · exact absurd h ((isLegible_object.mp hl').2.1 s hbuiltIn)
  · exact absurd h.symm ((isLegible_object.mp hl).2.1 s' hbuiltIn')
  · exact congrArg Shape.object h

/-! ## Inside lists -/

/-- What follows a shape that is the element of lists. -/
def closing (depth : Nat) (r : List Char) : List Char := List.replicate depth '>' ++ ')' :: r

variable {depth : Nat}

theorem head_closing {c : Char} (hc : c ∈ (closing depth r).head?) : c = '>' ∨ c = ')' := by
  cases depth with
  | zero => exact .inr (Option.some.inj hc).symm
  | succ depth => exact .inl (Option.some.inj hc).symm

theorem toList_text_list (s : Shape) (depth : Nat) (r : List Char) :
    (text (.list s)).toList ++ closing depth r = "List<".toList ++ (s.text.toList ++ closing (depth + 1) r) := by
  rw [text, String.toList_append, String.toList_append, List.append_assoc, List.append_assoc, closing, closing,
    List.replicate_succ]
  rfl

theorem builtIn_not_list : ∀ s ∈ builtIns, ¬ "List<".toList <+: s.text.toList := by decide

/-- A name is no list. -/
theorem name_not_list (hs : s.IsName) (hl : s.isLegible = true) :
    ¬ "List<".toList <+: s.text.toList ++ closing depth r := by
  rintro ⟨u, hu⟩
  have hnot : ¬ "List<".toList <+: s.text.toList := by
    rcases name_cases hs with hbuiltIn | ⟨className, rfl⟩
    · exact builtIn_not_list s hbuiltIn
    · exact (isLegible_object.mp hl).2.2
  rcases List.prefix_or_prefix_of_prefix ⟨u, hu⟩ (List.prefix_append _ _) with h | ⟨t, ht⟩
  · exact hnot h
  · -- the name would be a beginning of the word, and a closing sign would go on with it
    rw [← ht, List.append_assoc, List.append_cancel_left_eq] at hu
    cases t with
    | nil =>
        rw [List.append_nil] at ht
        exact hnot (ht ▸ List.prefix_rfl)
    | cons c t =>
        have hc : c ∈ "List<".toList := ht ▸ List.mem_append_right _ List.mem_cons_self
        rcases head_closing (hu ▸ rfl : c ∈ (closing depth r).head?) with rfl | rfl <;> exact absurd hc (by decide)

theorem head_not_opening (hs : s.IsName) (hl : s.isLegible = true) (hunit : s ≠ .unit) :
    ∀ c ∈ (s.text.toList ++ closing depth r).head?, isOpening c = false := by
  intro c hc
  obtain ⟨-, hopening⟩ := name_word hs hl hunit
  cases htext : s.text.toList with
  | nil =>
      rw [htext] at hc
      rcases head_closing hc with rfl | rfl <;> rfl
  | cons d ds =>
      rw [htext] at hc hopening
      exact hopening c hc

theorem name_closing_inj (hs : s.IsName) (hs' : s'.IsName) (hl : s.isLegible = true) (hl' : s'.isLegible = true)
    (h : s.text.toList ++ closing depth r = s'.text.toList ++ closing depth r') : s = s' ∧ r = r' := by
  have hunit {r : List Char} : '(' ∈ ((text .unit).toList ++ closing depth r).head? := rfl
  have hopening : isOpening '(' ≠ false := by decide
  by_cases hsu : s = .unit <;> by_cases hsu' : s' = .unit
  · subst hsu hsu'
    exact ⟨rfl, List.cons_injective (List.append_cancel_left (List.append_cancel_left h))⟩
  · subst hsu
    exact absurd (head_not_opening hs' hl' hsu' _ (h ▸ hunit)) hopening
  · subst hsu'
    exact absurd (head_not_opening hs hl hsu _ (h.symm ▸ hunit)) hopening
  · have hclose {s : Shape} (hs : s.IsName) (hl : s.isLegible = true) (hunit : s ≠ .unit) :
        ')' ∉ s.text.toList ++ List.replicate depth '>' := by
      intro hmem
      rcases List.mem_append.mp hmem with hmem | hmem
      · exact absurd ((name_word hs hl hunit).1 _ hmem) (by decide)
      · exact absurd (List.eq_of_mem_replicate hmem) (by decide)
    rw [closing, closing, ← List.append_assoc, ← List.append_assoc] at h
    obtain ⟨hwords, hr⟩ := append_cons_inj (hclose hs hl hsu) (hclose hs' hl' hsu') h
    exact ⟨name_inj hs hs' hl hl' (String.toList_inj.mp (List.append_cancel_right hwords)), hr⟩

/-- A shape between parentheses can be read back. -/
theorem text_inj (hl : s.isLegible = true) (hl' : s'.isLegible = true)
    (h : s.text.toList ++ closing depth r = s'.text.toList ++ closing depth r') : s = s' ∧ r = r' := by
  induction s generalizing s' depth with
  | list element ih =>
      cases s' with
      | list element' =>
          rw [toList_text_list, toList_text_list] at h
          have hl' : element'.isLegible = true := hl'
          obtain ⟨rfl, hr⟩ := ih hl hl' (List.append_cancel_left h)
          exact ⟨rfl, hr⟩
      | _ =>
          rw [toList_text_list] at h
          exact absurd ⟨_, h⟩ (name_not_list nofun hl')
  | _ =>
      cases s' with
      | list element' =>
          rw [toList_text_list] at h
          exact absurd ⟨_, h.symm⟩ (name_not_list nofun hl)
      | _ => exact name_closing_inj nofun nofun hl hl' h

end TestDouble.Shape
