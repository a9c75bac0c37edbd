import TestDouble.Proofs.Text.Quoted
import TestDouble.Proofs.Value.Equality
import TestDouble.Proofs.Value.Kinds

/-!
# Values can be read back

A value stands at the beginning of a text. If the names of classes are legible, it is known where it ends, and what it
is, except for the width of a number that carries no letter.
-/

namespace TestDouble

open Text Decimal

namespace Value

variable {v w : Value} {r r' : List Char}

/-! ## Values that cannot be told apart -/

/-- Equal to the same values, and in the same order to them. What is not a number is equal to none. -/
structure Alike (v w : Value) : Prop where
  beq : ∀ x, (v == x) = (w == x)
  compare : ∀ x : Value, x.compare? v = x.compare? w

theorem Alike.refl (v : Value) : Alike v v := ⟨fun _ => rfl, fun _ => rfl⟩

theorem alike_of_eq (h : v = w) : Alike v w := h ▸ .refl v

theorem fraction_alike {f : BinaryFormat} {a b : Nat} (hf : 0 < f.fractionBits)
    (h : (f.text a).toList = (f.text b).toList) :
    (∀ c, f.equal a c = f.equal b c) ∧ ∀ c, f.compare? c a = f.compare? c b := by
  obtain ⟨hnan, hkey⟩ := BinaryFormat.text_inj hf h
  cases ha : f.isNaN a with
  | true =>
      rw [ha] at hnan
      constructor <;> intro c
      · rw [BinaryFormat.equal, BinaryFormat.equal, ha, ← hnan]
        rfl
      · rw [BinaryFormat.compare?, BinaryFormat.compare?, ha, ← hnan, Bool.or_true]
        rfl
  | false =>
      constructor <;> intro c
      · rw [BinaryFormat.equal, BinaryFormat.equal, hnan, hkey ha]
      · rw [BinaryFormat.compare?, BinaryFormat.compare?, hnan, hkey ha]

theorem object_alike {o o' : ObjectRef} (h : o.id = o'.id) : Alike (.object o) (.object o') where
  beq x := by
    cases x with
    | object p => exact congrArg (· == p.id) h
    | _ => rfl
  compare x := by cases x <;> rfl

theorem beqList_of_alike {vs ws : List Value} (h : List.Forall₂ Alike vs ws) (xs : List Value) :
    beqList vs xs = beqList ws xs := by
  induction h generalizing xs with
  | nil => rfl
  | cons hv _ ih =>
      cases xs with
      | nil => rfl
      | cons x xs =>
          rw [beqList, beqList, ih xs]
          exact congrArg (· && _) (hv.beq x)

theorem list_alike {vs ws : List Value} (h : List.Forall₂ Alike vs ws) : Alike (.list vs) (.list ws) where
  beq x := by
    cases x with
    | list xs => exact beqList_of_alike h xs
    | _ => rfl
  compare x := by cases x <;> rfl

/-! ## Numbers -/

mutual
/-- The numbers that carry no letter. -/
def numbers : Value → List Value
  | .list items => numbersEach items
  | v => if v.kind = .number then [v] else []

def numbersEach : List Value → List Value
  | [] => []
  | v :: vs => numbers v ++ numbersEach vs
end

/-- Numbers that are written alike have the same width. -/
def SameWidths (xs ys : List Value) : Prop := ∀ x ∈ xs, ∀ y ∈ ys, x.text = y.text → x.shape = y.shape

instance (xs ys : List Value) : Decidable (SameWidths xs ys) :=
  inferInstanceAs (Decidable (∀ x ∈ xs, ∀ y ∈ ys, x.text = y.text → x.shape = y.shape))

theorem SameWidths.mono {xs ys xs' ys' : List Value} (h : SameWidths xs ys) (hx : ∀ x ∈ xs', x ∈ xs)
    (hy : ∀ y ∈ ys', y ∈ ys) : SameWidths xs' ys' := fun x hx' y hy' => h x (hx x hx') y (hy y hy')

theorem mem_numbers_self (h : v.kind = .number) : v ∈ v.numbers := by
  cases v <;> first | cases h; done | simp only [numbers, kind, if_true, List.mem_singleton]

theorem mem_numbersEach {vs : List Value} {x : Value} (h : v ∈ vs) (hx : x ∈ v.numbers) : x ∈ numbersEach vs := by
  induction vs with
  | nil => cases h
  | cons w ws ih =>
      rw [numbersEach, List.mem_append]
      rcases List.mem_cons.mp h with rfl | h
      · exact .inl hx
      · exact .inr (ih h)

/-! ## Scalars and objects -/

/-- A number without a letter is known by its text and its width. -/
theorem number_alike : ∀ {v w : Value}, v.kind = .number → w.kind = .number → v.shape = w.shape →
    v.text.toList = w.text.toList → Alike v w
  | .byte _, .byte _, _, _, _, h => alike_of_eq (congrArg Value.byte (Int8.toInt_inj.mp (toString_int_inj h)))
  | .short _, .short _, _, _, _, h => alike_of_eq (congrArg Value.short (Int16.toInt_inj.mp (toString_int_inj h)))
  | .int _, .int _, _, _, _, h => alike_of_eq (congrArg Value.int (Int32.toInt_inj.mp (toString_int_inj h)))
  | .double _, .double _, _, _, _, h => by
      obtain ⟨hequal, hcompare⟩ := fraction_alike (f := binary64) (by decide) h
      constructor <;> intro x <;> cases x <;> first | rfl | exact hequal _ | exact hcompare _

theorem bool_alike {a b : Bool} (h : (text (.bool a)).toList = (text (.bool b)).toList) :
    Alike (.bool a) (.bool b) := by
  cases a <;> cases b <;> first | exact .refl _ | exact absurd h (by decide)

theorem long_alike {m n : Int64} (h : (text (.long m)).toList = (text (.long n)).toList) :
    Alike (.long m) (.long n) := by
  rw [text, text, String.toList_append, String.toList_append] at h
  exact alike_of_eq (congrArg Value.long (Int64.toInt_inj.mp (toString_int_inj (List.append_cancel_right h))))

theorem float_alike {a b : UInt32} (h : (text (.float a)).toList = (text (.float b)).toList) :
    Alike (.float a) (.float b) := by
  rw [text, text, String.toList_append, String.toList_append] at h
  obtain ⟨hequal, hcompare⟩ := fraction_alike (f := binary32) (by decide) (List.append_cancel_right h)
  constructor <;> intro x <;> cases x <;> first | rfl | exact hequal _ | exact hcompare _

theorem char_alike {c d : Char} (h : (text (.char c)).toList = (text (.char d)).toList) :
    Alike (.char c) (.char d) := by
  rw [text, text] at h
  obtain ⟨rfl, -⟩ := quotedChar_inj (congrArg (· ++ []) h)
  exact .refl _

theorem str_alike {s t : String} (h : (text (.str s)).toList = (text (.str t)).toList) :
    Alike (.str s) (.str t) := by
  rw [text, text] at h
  obtain ⟨rfl, -⟩ := quotedString_inj (congrArg (· ++ []) h)
  exact .refl _

/-- An object is known by its identity. -/
theorem object_text_alike {o o' : ObjectRef} (ho : isLegibleName o.className = true)
    (ho' : isLegibleName o'.className = true) (h : (text (.object o)).toList = (text (.object o')).toList) :
    Alike (.object o) (.object o') := by
  obtain ⟨hmark, -, -⟩ := isLegibleName_iff.mp ho
  obtain ⟨hmark', -, -⟩ := isLegibleName_iff.mp ho'
  rw [text, text, Kind.toList_text_object, Kind.toList_text_object] at h
  obtain ⟨-, hdigits⟩ := append_cons_inj hmark hmark' h
  exact object_alike (toDigits_injective (by decide) (by decide) hdigits)

/-- Whatever is no list, and no number without a letter, is known by its text. -/
theorem scalar_alike (hkind : v.kind = w.kind) (hnumber : v.kind ≠ .number) (hlist : v.kind ≠ .list)
    (hv : v.isLegible = true) (hw : w.isLegible = true) (h : v.text.toList = w.text.toList) : Alike v w := by
  cases v with
  | unit => cases w with
    | unit => exact .refl _
    | _ => cases hkind
  | null => cases w with
    | null => exact .refl _
    | _ => cases hkind
  | bool a => cases w with
    | bool b => exact bool_alike h
    | _ => cases hkind
  | long m => cases w with
    | long n => exact long_alike h
    | _ => cases hkind
  | float a => cases w with
    | float b => exact float_alike h
    | _ => cases hkind
  | char c => cases w with
    | char d => exact char_alike h
    | _ => cases hkind
  | str s => cases w with
    | str t => exact str_alike h
    | _ => cases hkind
  | duration d => cases w with
    | duration d' => exact alike_of_eq (congrArg Value.duration (Duration.text_inj h))
    | _ => cases hkind
  | object o => cases w with
    | object o' => exact object_text_alike hv hw h
    | _ => cases hkind
  | byte _ | short _ | int _ | double _ => exact absurd rfl hnumber
  | list _ => exact absurd rfl hlist

/-! ## At the beginning of a text -/

/-- It is known where a scalar or an object ends. -/
theorem scalar_inj (hv : v.isLegible = true) (hw : w.isLegible = true) (hkind : v.kind = w.kind)
    (hlist : v.kind ≠ .list) (hr : Ends r) (hr' : Ends r') (h : v.text.toList ++ r = w.text.toList ++ r') :
    v.text.toList = w.text.toList ∧ r = r' := by
  cases hword : v.kind.isWord with
  | true => exact word_inj (isWord_text hv hword).1 (isWord_text hw (hkind ▸ hword)).1 hr hr' h
  | false =>
      cases v with
      | unit =>
          cases w with
          | unit => exact ⟨rfl, List.append_cancel_left h⟩
          | _ => cases hkind
      | char c =>
          cases w with
          | char d =>
              rw [text, text] at h
              obtain ⟨rfl, hr⟩ := quotedChar_inj h
              exact ⟨rfl, hr⟩
          | _ => cases hkind
      | str s =>
          cases w with
          | str t =>
              rw [text, text] at h
              obtain ⟨rfl, hr⟩ := quotedString_inj h
              exact ⟨rfl, hr⟩
          | _ => cases hkind
      | list _ => exact absurd rfl hlist
      | _ => cases hword

/-- Read back from a text that begins with it. -/
def Readable (v : Value) : Prop :=
  ∀ {w r r'}, v.isLegible = true → w.isLegible = true → SameWidths v.numbers w.numbers → Ends r → Ends r' →
    v.text.toList ++ r = w.text.toList ++ r' → Alike v w ∧ r = r'

theorem scalar_readable (hlist : v.kind ≠ .list) : v.Readable := by
  intro w r r' hv hw hwidths hr hr' h
  have hkind : v.kind = w.kind := by rw [← ofText_text hv hr, h, ofText_text hw hr']
  obtain ⟨htext, hrest⟩ := scalar_inj hv hw hkind hlist hr hr' h
  refine ⟨?_, hrest⟩
  by_cases hnumber : v.kind = .number
  · have hnumber' : w.kind = .number := hkind ▸ hnumber
    have hshape : v.shape = w.shape :=
      hwidths v (mem_numbers_self hnumber) w (mem_numbers_self hnumber') (String.toList_inj.mp htext)
    exact number_alike hnumber hnumber' hshape htext
  · exact scalar_alike hkind hnumber hlist hv hw htext

theorem allLegible_iff {vs : List Value} : allLegible vs = true ↔ ∀ v ∈ vs, v.isLegible = true := by
  induction vs with
  | nil => exact ⟨fun _ => nofun, fun _ => rfl⟩
  | cons v vs ih => rw [allLegible, Bool.and_eq_true, ih, List.forall_mem_cons]

theorem toList_text_list (items : List Value) :
    (text (.list items)).toList = '[' :: (joined (items.map fun v => v.text.toList) ++ [']']) := by
  have htexts : textList items = items.map text := by
    induction items with
    | nil => rfl
    | cons v vs ih => rw [textList, ih, List.map_cons]
  rw [text, htexts, String.toList_append, String.toList_append, String.toList_intercalate, List.map_map]
  rfl

theorem list_readable {items : List Value} (hitems : ∀ v ∈ items, v.Readable) : (Value.list items).Readable := by
  intro w r r' hv hw hwidths hr hr' h
  have hkind : Kind.list = w.kind := by rw [← ofText_text hw hr', ← h, ofText_text hv hr, kind]
  cases w with
  | list items' =>
      rw [isLegible, allLegible_iff] at hv hw
      rw [toList_text_list, toList_text_list] at h
      simp only [List.cons_append, List.append_assoc, List.cons.injEq, true_and, List.nil_append] at h
      have hread : ∀ x ∈ items, ∀ y ∈ items', ∀ r r', Ends r → Ends r' →
          x.text.toList ++ r = y.text.toList ++ r' → Alike x y ∧ r = r' := fun x hx y hy _ _ =>
        hitems x hx (hv x hx) (hw y hy)
          (SameWidths.mono hwidths (fun _ => mem_numbersEach hx) fun _ => mem_numbersEach hy)
      obtain ⟨halike, hrest⟩ := joined_inj (by decide) (by decide) hread (fun x hx _ => not_ends (hv x hx))
        (fun y hy _ => not_ends (hw y hy)) h
      exact ⟨list_alike halike, hrest⟩
  | _ => cases hkind

mutual
/-- Every value can be read back: what follows it is known, and what it is up to what no call tells apart. -/
theorem readable : (v : Value) → v.Readable
  | .list items => list_readable (all_readable items)
  | .unit | .null | .bool _ | .byte _ | .short _ | .int _ | .long _ | .float _ | .double _ | .char _ | .str _
  | .duration _ | .object _ => scalar_readable fun h => by cases h

theorem all_readable : (vs : List Value) → ∀ v ∈ vs, v.Readable
  | v :: _, _, .head _ => readable v
  | _ :: vs, _, .tail _ h => all_readable vs _ h
end

end Value

end TestDouble
