import Mathlib.Data.List.Basic

/-!
# Words and lists in a text

A word ends where a delimiter follows. A text in which words or lists are followed by delimiters can be taken apart
again in one way only.
-/

namespace TestDouble.Text

/-! ## Words -/

variable {p : Char → Bool} {w w' r r' : List Char}

theorem takeWhile_append (hw : ∀ c ∈ w, p c = true) (hr : ∀ c ∈ r.head?, p c = false) :
    (w ++ r).takeWhile p = w := by
  rw [List.takeWhile_append_of_pos hw]
  cases r with
  | nil => rw [List.takeWhile_nil, List.append_nil]
  | cons c r => rw [List.takeWhile_cons_of_neg (by rw [hr c rfl]; decide), List.append_nil]

/-- The first characters that all satisfy `p`, as far as they go, are known from the text. -/
theorem append_inj_of_forall (hw : ∀ c ∈ w, p c = true) (hw' : ∀ c ∈ w', p c = true) (hr : ∀ c ∈ r.head?, p c = false)
    (hr' : ∀ c ∈ r'.head?, p c = false) (h : w ++ r = w' ++ r') : w = w' ∧ r = r' := by
  have hword : w = w' := by rw [← takeWhile_append hw hr, h, takeWhile_append hw' hr']
  subst hword
  exact ⟨rfl, List.append_cancel_left h⟩

/-- What stands before the first `c`. -/
theorem append_cons_inj {c : Char} (hw : c ∉ w) (hw' : c ∉ w')
    (h : w ++ c :: r = w' ++ c :: r') : w = w' ∧ r = r' := by
  have hword {w : List Char} (hw : c ∉ w) : ∀ d ∈ w, (d != c) = true :=
    fun d hd => bne_iff_ne.mpr fun hdc => hw (hdc ▸ hd)
  have hhead (r : List Char) : ∀ d ∈ (c :: r).head?, (d != c) = false := by
    intro d hd
    cases hd
    exact bne_self_eq_false c
  obtain ⟨hwords, hrest⟩ := append_inj_of_forall (hword hw) (hword hw') (hhead r) (hhead r') h
  exact ⟨hwords, (List.cons_injective hrest)⟩

/-- Ends a word. -/
def isDelimiter (c : Char) : Bool := c == ',' || c == ')' || c == ']'

/-- A word ends here. -/
def Ends (r : List Char) : Prop := ∀ c ∈ r.head?, isDelimiter c = true

theorem Ends.cons {c : Char} (h : isDelimiter c = true) (r : List Char) : Ends (c :: r) := by
  rintro d ⟨⟩
  exact h

/-- No delimiter in it. -/
def IsWord (w : List Char) : Prop := ∀ c ∈ w, isDelimiter c = false

instance (w : List Char) : Decidable (IsWord w) := List.decidableBAll _ w

theorem IsWord.append (h : IsWord w) (h' : IsWord w') : IsWord (w ++ w') :=
  fun c hc => (List.mem_append.mp hc).elim (h c) (h' c)

theorem IsWord.takeWhile (hw : IsWord w) (hr : Ends r) : (w ++ r).takeWhile (fun c => !isDelimiter c) = w :=
  takeWhile_append (fun c hc => by rw [hw c hc]; rfl) (fun c hc => by rw [hr c hc]; rfl)

theorem word_inj (hw : IsWord w) (hw' : IsWord w') (hr : Ends r) (hr' : Ends r') (h : w ++ r = w' ++ r') :
    w = w' ∧ r = r' :=
  append_inj_of_forall (p := fun c => !isDelimiter c) (fun c hc => by rw [hw c hc]; rfl)
    (fun c hc => by rw [hw' c hc]; rfl) (fun c hc => by rw [hr c hc]; rfl) (fun c hc => by rw [hr' c hc]; rfl) h

/-- Opens a list, a quotation or a pair of parentheses. -/
def isOpening (c : Char) : Bool := c == '(' || c == '[' || c == '"' || c == '\''

/-- Occurs in numbers, durations and the names of constants. -/
def isPlainLetter (c : Char) : Bool := c.isAlphanum || c == '-' || c == '.' || c == 'µ'

/-- Letters and digits only. -/
def IsPlain (w : List Char) : Prop := ∀ c ∈ w, isPlainLetter c = true

instance (w : List Char) : Decidable (IsPlain w) := List.decidableBAll _ w

theorem IsPlain.append (h : IsPlain w) (h' : IsPlain w') : IsPlain (w ++ w') :=
  fun c hc => (List.mem_append.mp hc).elim (h c) (h' c)

theorem IsPlain.isWord (h : IsPlain w) : IsWord w := by
  intro c hc
  have hplain := h c hc
  refine Bool.eq_false_iff.mpr fun hdelimiter => ?_
  simp only [isDelimiter, Bool.or_eq_true, beq_iff_eq] at hdelimiter
  rcases hdelimiter with (rfl | rfl) | rfl <;> cases hplain

theorem IsPlain.not_opening (h : IsPlain w) : ∀ c ∈ w.head?, isOpening c = false := by
  intro c hc
  have hplain := h c (List.mem_of_mem_head? hc)
  refine Bool.eq_false_iff.mpr fun hopening => ?_
  simp only [isOpening, Bool.or_eq_true, beq_iff_eq] at hopening
  rcases hopening with ((rfl | rfl) | rfl) | rfl <;> cases hplain

/-- A name that ends where it is written to end, and begins like a word. -/
def isLegibleName (name : String) : Bool :=
  name.toList.all (fun c => c != '#' && !isDelimiter c) && name.toList.head?.all fun c => !isOpening c

theorem isLegibleName_iff {name : String} : isLegibleName name = true ↔
    '#' ∉ name.toList ∧ IsWord name.toList ∧ ∀ c ∈ name.toList.head?, isOpening c = false := by
  have hmark : '#' ∉ name.toList ↔ ∀ c ∈ name.toList, c ≠ '#' :=
    ⟨fun h c hc => ne_of_mem_of_not_mem hc h, fun h hmem => h _ hmem rfl⟩
  simp only [isLegibleName, Bool.and_eq_true, List.all_eq_true, bne_iff_ne, Bool.not_eq_true', Option.all_eq_true,
    IsWord, hmark, forall_and, and_assoc, Option.mem_def]

/-! ## Lists -/

/-- Elements, a comma and a space between each two of them. -/
def joined (ls : List (List Char)) : List Char := [',', ' '].intercalate ls

@[simp]
theorem joined_nil : joined [] = [] := List.intercalate_nil

/-- What follows the first element. -/
def remaining (close : Char) (r : List Char) : List (List Char) → List Char
  | [] => close :: r
  | l :: ls => ',' :: ' ' :: (joined (l :: ls) ++ close :: r)

theorem joined_cons (close : Char) (r l : List Char) (ls : List (List Char)) :
    joined (l :: ls) ++ close :: r = l ++ remaining close r ls := by
  cases ls with
  | nil => rw [joined, List.intercalate_singleton, remaining]
  | cons l' ls =>
      rw [joined, List.intercalate_cons_cons, remaining, joined, List.append_assoc, List.append_assoc]
      rfl

variable {α : Type} {text : α → List Char} {Alike : α → α → Prop} {close : Char}

/-- If elements can be read back before delimiters, and do not begin with one, a list can be. -/
theorem joined_inj (hclose : isDelimiter close = true) (hcomma : close ≠ ',') :
    ∀ {as bs : List α} {r r' : List Char},
      (∀ a ∈ as, ∀ b ∈ bs, ∀ r r', Ends r → Ends r' → text a ++ r = text b ++ r' → Alike a b ∧ r = r') →
      (∀ a ∈ as, ∀ r, ¬ Ends (text a ++ r)) → (∀ b ∈ bs, ∀ r, ¬ Ends (text b ++ r)) →
      joined (as.map text) ++ close :: r = joined (bs.map text) ++ close :: r' → List.Forall₂ Alike as bs ∧ r = r'
  | [], [], _, _, _, _, _, h => ⟨.nil, List.cons_injective h⟩
  | [], b :: bs, r, r', _, _, hb, h => by
      rw [List.map_nil, joined_nil, List.nil_append, List.map_cons, joined_cons] at h
      exact absurd (h ▸ Ends.cons hclose r) (hb b List.mem_cons_self _)
  | a :: as, [], r, r', _, ha, _, h => by
      rw [List.map_nil, joined_nil, List.nil_append, List.map_cons, joined_cons] at h
      exact absurd (h.symm ▸ Ends.cons hclose r') (ha a List.mem_cons_self _)
  | a :: as, b :: bs, r, r', hread, ha, hb, h => by
      have hends (r : List Char) (ls : List (List Char)) : Ends (remaining close r ls) := by
        cases ls with
        | nil => exact .cons hclose r
        | cons l ls => exact .cons (by decide) _
      rw [List.map_cons, List.map_cons, joined_cons, joined_cons] at h
      obtain ⟨halike, hrest⟩ := hread a List.mem_cons_self b List.mem_cons_self _ _ (hends _ _) (hends _ _) h
      cases as with
      | nil =>
          cases bs with
          | nil => exact ⟨.cons halike .nil, List.cons_injective hrest⟩
          | cons b' bs => exact absurd (List.cons.inj hrest).1 hcomma
      | cons a' as =>
          cases bs with
          | nil => exact absurd (List.cons.inj hrest).1.symm hcomma
          | cons b' bs =>
              have hrest' : joined ((a' :: as).map text) ++ close :: r = joined ((b' :: bs).map text) ++ close :: r' :=
                List.cons_injective (List.cons_injective hrest)
              obtain ⟨hall, hr⟩ := joined_inj hclose hcomma
                (fun a ha b hb => hread a (List.mem_cons_of_mem _ ha) b (List.mem_cons_of_mem _ hb))
                (fun x hx => ha x (List.mem_cons_of_mem _ hx)) (fun x hx => hb x (List.mem_cons_of_mem _ hx)) hrest'
              exact ⟨.cons halike hall, hr⟩

end TestDouble.Text
