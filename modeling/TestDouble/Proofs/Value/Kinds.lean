import TestDouble.Proofs.Decimal.Binary
import TestDouble.Proofs.Duration
import TestDouble.Shape

/-!
# The kind of a value can be read off its text

Text, characters, lists and the unit begin with a sign of their own. Everything else is a word, and the end of the word
tells what it is: only numbers that carry no letter look the same whatever their width.
-/

namespace TestDouble

open Text Decimal

/-- What the text of a value tells about it. -/
inductive Kind where
  | unit
  | null
  | bool
  /-- A number that carries no letter. -/
  | number
  | long
  | float
  | char
  | str
  | duration
  | list
  | object
  deriving DecidableEq

def Value.kind : Value → Kind
  | .unit => .unit
  | .null => .null
  | .bool _ => .bool
  | .byte _ | .short _ | .int _ | .double _ => .number
  | .long _ => .long
  | .float _ => .float
  | .char _ => .char
  | .str _ => .str
  | .duration _ => .duration
  | .list _ => .list
  | .object _ => .object

namespace Kind

/-- Begins with no sign of its own. -/
def isWord : Kind → Bool
  | .unit | .char | .str | .list => false
  | _ => true

/-- The kind that the last letter of a word stands for. -/
def ofLast : Option Char → Kind
  | some 'l' => .null
  | some 'e' => .bool
  | some 'L' => .long
  | some 's' => .duration
  | some 'f' => .float
  | _ => .number

def ofWord (w : List Char) : Kind :=
  if '#' ∈ w then .object else if w ∈ BinaryFormat.infinityTexts then .number else ofLast w.getLast?

/-- The kind of a value that stands at the beginning of a text. -/
def ofText (cs : List Char) : Kind :=
  if cs.head? = some '(' then .unit
  else if cs.head? = some '[' then .list
  else if cs.head? = some '"' then .str
  else if cs.head? = some '\'' then .char
  else ofWord (cs.takeWhile fun c => !isDelimiter c)

/-! ## Words -/

/-- A word of this kind. -/
structure Spells (w : List Char) (k : Kind) : Prop where
  plain : IsPlain w
  ne_nil : w ≠ []
  kind : ofWord w = k

variable {w r : List Char} {c : Char} {k : Kind}

theorem ofWord_of_isPlain (h : IsPlain w) :
    ofWord w = if w ∈ BinaryFormat.infinityTexts then .number else ofLast w.getLast? :=
  if_neg fun hmem => absurd (h _ hmem) (by decide)

/-- A number without a letter at its end. -/
theorem spells_number (hplain : IsPlain w) (hne : w ≠ []) (h : ∀ c ∈ w, ofLast (some c) = .number) :
    Spells w .number where
  plain := hplain
  ne_nil := hne
  kind := by
    rw [ofWord_of_isPlain hplain, List.getLast?_eq_some_getLast hne, h _ (List.getLast_mem hne), ite_self]

/-- A letter at the end of a word. -/
theorem spells_marked (h : IsPlain w) (hc : isPlainLetter c = true)
    (hinfinity : w ++ [c] ∉ BinaryFormat.infinityTexts) : Spells (w ++ [c]) (ofLast (some c)) where
  plain := h.append fun _ hd => List.mem_singleton.mp hd ▸ hc
  ne_nil := List.append_ne_nil_of_right_ne_nil _ (List.cons_ne_nil _ _)
  kind := by
    have hplain : IsPlain (w ++ [c]) := h.append fun _ hd => List.mem_singleton.mp hd ▸ hc
    rw [ofWord_of_isPlain hplain, if_neg hinfinity, List.getLast?_concat]

theorem concat_notMem_infinityTexts (hc : c ≠ 'f') : w ++ [c] ∉ BinaryFormat.infinityTexts := by
  intro h
  rcases List.mem_pair.mp h with h | h <;>
  · have hlast := congrArg List.getLast? h
    rw [List.getLast?_concat] at hlast
    exact hc (Option.some.inj hlast)

theorem isPlainLetter_of_isDigit (h : c.isDigit = true) : isPlainLetter c = true := by
  rw [isPlainLetter, Char.isAlphanum, h, Bool.or_true, Bool.true_or, Bool.true_or, Bool.true_or]

theorem isPlain_toDigits (n : Nat) : IsPlain (Nat.toDigits 10 n) := fun _ hc =>
  isPlainLetter_of_isDigit (Nat.isDigit_of_mem_toDigits (by decide) (by decide) hc)

theorem ofLast_of_isDigit (h : c.isDigit = true) : ofLast (some c) = .number := by
  unfold ofLast
  split
  all_goals first | rfl | next heq => cases heq; cases h

theorem spells_digits {ds : List Char} (hne : ds ≠ []) (h : ∀ c ∈ ds, c = '.' ∨ c.isDigit = true) :
    Spells ds .number ∧ Spells ('-' :: ds) .number := by
  have hplain : IsPlain ds := fun c hc => (h c hc).elim (fun hdot => hdot ▸ rfl) isPlainLetter_of_isDigit
  have hletter : ∀ c ∈ ds, ofLast (some c) = .number := fun c hc =>
    (h c hc).elim (fun hdot => hdot ▸ rfl) ofLast_of_isDigit
  have hsigned : IsPlain ('-' :: ds) := IsPlain.append (w := ['-']) (by decide) hplain
  refine ⟨spells_number hplain hne hletter, spells_number hsigned (List.cons_ne_nil _ _) ?_⟩
  intro c hc
  rcases List.mem_cons.mp hc with rfl | hc
  · decide
  · exact hletter c hc

theorem spells_int (n : Int) : Spells (toString n).toList .number := by
  have hdigits : ∀ c ∈ Nat.toDigits 10 n.natAbs, c = '.' ∨ c.isDigit = true :=
    fun c hc => .inr (Nat.isDigit_of_mem_toDigits (by decide) (by decide) hc)
  obtain ⟨hplain, hsigned⟩ := spells_digits Nat.toDigits_ne_nil hdigits
  rw [toList_toString_int]
  split
  · exact hsigned
  · exact hplain

theorem spells_fraction (f : BinaryFormat) (bits : Nat) : Spells (f.text bits).toList .number := by
  rcases f.text_cases bits with hnan | hinf | ⟨x, hx | hx⟩
  · rw [hnan]
    exact ⟨by decide, by decide, by decide⟩
  · rcases List.mem_pair.mp hinf with h | h <;> rw [h] <;> exact ⟨by decide, by decide, by decide⟩
  · rw [hx]
    exact (spells_digits x.positional_ne_nil fun c hc => x.mem_positional hc).1
  · rw [hx]
    exact (spells_digits x.positional_ne_nil fun c hc => x.mem_positional hc).2

theorem spells_null : Spells Value.null.text.toList .null := ⟨by decide, by decide, by decide⟩

theorem spells_bool (b : Bool) : Spells (Value.bool b).text.toList .bool := by
  cases b <;> exact ⟨by decide, by decide, by decide⟩

theorem spells_long (n : Int) : Spells ((toString n).toList ++ ['L']) .long :=
  spells_marked (spells_int n).plain rfl (concat_notMem_infinityTexts (by decide))

/-- The letter of a 32-bit fraction completes no name of an infinite one. -/
theorem spells_float (f : BinaryFormat) (bits : Nat) : Spells ((f.text bits).toList ++ ['f']) .float := by
  have hpositional (x : Scientific) : 'i' ∉ x.positional := fun hi => by
    rcases x.mem_positional hi with h | h <;> cases h
  refine spells_marked (spells_fraction f bits).plain rfl fun hinfinity => ?_
  have hprefix : (f.text bits).toList ∈ [['i', 'n'], ['-', 'i', 'n']] := by
    rcases List.mem_pair.mp hinfinity with h | h <;>
    · have hinit := congrArg List.dropLast h
      rw [List.dropLast_concat] at hinit
      rw [hinit]
      decide
  rcases f.text_cases bits with hnan | hinf | ⟨x, hx⟩
  · rw [hnan] at hprefix
    exact absurd hprefix (by decide)
  · rcases List.mem_pair.mp hinf with h | h <;> rw [h] at hprefix <;> exact absurd hprefix (by decide)
  · have hi : 'i' ∈ (f.text bits).toList := by rcases List.mem_pair.mp hprefix with h | h <;> rw [h] <;> decide
    rcases hx with hx | hx <;> rw [hx] at hi
    · exact absurd hi (hpositional x)
    · exact absurd ((List.mem_cons.mp hi).resolve_left (by decide)) (hpositional x)

theorem spells_duration (d : Duration) : Spells d.text.toList .duration := by
  obtain ⟨amount, htext, hamount, -⟩ := d.text_parts
  have hplain : IsPlain amount := fun c hc => by
    rcases Bool.or_eq_true_iff.mp (hamount c hc) with hdot | hdigit
    · rw [beq_iff_eq.mp hdot]
      rfl
    · exact isPlainLetter_of_isDigit hdigit
  obtain ⟨w, hw, hunit⟩ : ∃ w, IsPlain w ∧ d.unit = w ++ ['s'] := by
    rw [Duration.unit]
    split_ifs
    · exact ⟨[], by decide, rfl⟩
    · exact ⟨['m'], by decide, rfl⟩
    · exact ⟨['µ'], by decide, rfl⟩
    · exact ⟨['n'], by decide, rfl⟩
  rw [htext, hunit, ← List.append_assoc]
  exact spells_marked (hplain.append hw) rfl (concat_notMem_infinityTexts (by decide))

/-- The class of an object stands before the first mark, and its identity behind. -/
theorem toList_text_object (o : ObjectRef) : o.text.toList = o.className.toList ++ '#' :: Nat.toDigits 10 o.id := by
  rw [ObjectRef.text, identityText, String.toList_append, String.toList_append, toList_toString_nat]
  rfl

theorem object_word {o : ObjectRef} (h : isLegibleName o.className = true) :
    IsWord o.text.toList ∧ ∀ c ∈ o.text.toList.head?, isOpening c = false := by
  obtain ⟨-, hword, hopening⟩ := isLegibleName_iff.mp h
  have hidentity : IsWord ('#' :: Nat.toDigits 10 o.id) := by
    intro c hc
    rcases List.mem_cons.mp hc with rfl | hc
    · rfl
    · exact (isPlain_toDigits _).isWord c hc
  rw [toList_text_object]
  refine ⟨IsWord.append hword hidentity, ?_⟩
  cases hname : o.className.toList with
  | nil =>
      rintro c ⟨⟩
      rfl
  | cons c cs =>
      rw [hname] at hopening
      exact hopening

/-! ## At the beginning of a text -/

/-- The word ends where a delimiter follows. -/
theorem ofText_word (hw : IsWord w) (hne : w ≠ []) (hopening : ∀ c ∈ w.head?, isOpening c = false) (hr : Ends r) :
    ofText (w ++ r) = ofWord w := by
  have hhead : ∀ c, isOpening c = true → (w ++ r).head? ≠ some c := by
    intro c hc hsome
    rw [List.head?_append_of_ne_nil _ hne] at hsome
    exact absurd hc (by rw [hopening c hsome]; decide)
  rw [ofText, if_neg (hhead _ rfl), if_neg (hhead _ rfl), if_neg (hhead _ rfl), if_neg (hhead _ rfl), hw.takeWhile hr]

theorem Spells.ofText (h : Spells w k) (hr : Ends r) : ofText (w ++ r) = k :=
  (ofText_word h.plain.isWord h.ne_nil h.plain.not_opening hr).trans h.kind

end Kind

namespace Value

mutual
/-- The classes of all objects have legible names. -/
def isLegible : Value → Bool
  | .list items => allLegible items
  | .object o => isLegibleName o.className
  | _ => true

def allLegible : List Value → Bool
  | [] => true
  | v :: vs => isLegible v && allLegible vs
end

/-- Words other than objects are plain. -/
theorem spells_text {v : Value} (hkind : v.kind.isWord = true) (hobject : v.kind ≠ .object) :
    Kind.Spells v.text.toList v.kind := by
  cases v with
  | null => exact Kind.spells_null
  | bool b => exact Kind.spells_bool b
  | byte n => exact Kind.spells_int _
  | short n => exact Kind.spells_int _
  | int n => exact Kind.spells_int _
  | long n =>
      rw [text, String.toList_append]
      exact Kind.spells_long _
  | float bits =>
      rw [text, String.toList_append]
      exact Kind.spells_float _ _
  | double bits => exact Kind.spells_fraction _ _
  | duration d => exact Kind.spells_duration d
  | object o => exact absurd rfl hobject
  | _ => cases hkind

/-- What has no sign of its own to begin with is a word. -/
theorem isWord_text {v : Value} (hv : v.isLegible = true) (hkind : v.kind.isWord = true) :
    IsWord v.text.toList ∧ v.text.toList ≠ [] := by
  by_cases hobject : v.kind = .object
  · cases v with
    | object o =>
        refine ⟨(Kind.object_word hv).1, ?_⟩
        rw [text, Kind.toList_text_object]
        exact List.append_ne_nil_of_right_ne_nil _ (List.cons_ne_nil _ _)
    | _ => cases hobject
  · have hspells := spells_text hkind hobject
    exact ⟨hspells.plain.isWord, hspells.ne_nil⟩

/-- No value begins with a delimiter. -/
theorem not_ends {v : Value} (hv : v.isLegible = true) {r : List Char} : ¬ Ends (v.text.toList ++ r) := by
  intro hends
  cases hkind : v.kind.isWord with
  | true =>
      obtain ⟨hword, hne⟩ := isWord_text hv hkind
      obtain ⟨c, cs, htext⟩ := List.exists_cons_of_ne_nil hne
      rw [htext] at hword hends
      exact absurd (hends c rfl) (by rw [hword c List.mem_cons_self]; decide)
  | false =>
      cases v with
      | unit => exact absurd (hends '(' rfl) (by decide)
      | char c =>
          rw [text, quotedChar, String.toList_ofList] at hends
          exact absurd (hends '\'' rfl) (by decide)
      | str s =>
          rw [text, quotedString, String.toList_ofList] at hends
          exact absurd (hends '"' rfl) (by decide)
      | list items =>
          rw [text, String.toList_append, String.toList_append] at hends
          exact absurd (hends '[' rfl) (by decide)
      | _ => cases hkind

/-- The text of a value tells its kind. -/
theorem ofText_text {v : Value} (hv : v.isLegible = true) {r : List Char} (hr : Ends r) :
    Kind.ofText (v.text.toList ++ r) = v.kind := by
  cases v with
  | unit => rfl
  | char c =>
      rw [text, quotedChar, String.toList_ofList]
      rfl
  | str s =>
      rw [text, quotedString, String.toList_ofList]
      rfl
  | list items =>
      rw [text, String.toList_append, String.toList_append]
      rfl
  | object o =>
      obtain ⟨hword, hopening⟩ := Kind.object_word hv
      have hmark : '#' ∈ o.text.toList := by
        rw [Kind.toList_text_object]
        exact List.mem_append_right _ List.mem_cons_self
      exact (Kind.ofText_word hword (List.ne_nil_of_mem hmark) hopening hr).trans (if_pos hmark)
  | null | bool _ | byte _ | short _ | int _ | long _ | float _ | double _ | duration _ =>
      exact (spells_text rfl fun hobject => by cases hobject).ofText hr

end Value

end TestDouble
