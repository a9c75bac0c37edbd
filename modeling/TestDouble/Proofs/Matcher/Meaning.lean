import TestDouble.Proofs.Matcher.Reading
import TestDouble.Proofs.Matcher.SameShape

/-!
# Matchers of the same shape accept the same calls

If the names of classes are legible, and numbers are told apart by what is written, a difference between two matchers
that some call could show is written in their texts.
-/

namespace TestDouble.CallMatcher

open Text

/-- Nothing in it is left open by its text. -/
def isLegible (m : CallMatcher) : Bool := isLegibleName m.target.className && Matcher.allLegible m.args

/-- The numbers in its arguments that carry no letter. -/
def numbers (m : CallMatcher) : List Value := Matcher.numbersEach m.args

variable {a b : CallMatcher}

theorem toList_text (h : a.isNotCalled = false) :
    a.text.toList = a.target.className.toList ++ '#' :: (Nat.toDigits 10 a.target.id ++
      ('.' :: (a.method.name.toList ++ '(' :: ((", ".intercalate (Matcher.textEach a.args)).toList ++ [')'])))) := by
  rw [text, if_neg (Bool.eq_false_iff.mp h)]
  simp only [String.toList_append, Kind.toList_text_object, List.append_assoc, List.cons_append]
  rfl

/-- The arguments are known from the text. -/
theorem args_alike (ha : a.isLegible = true) (hb : b.isLegible = true) (hwidths : Value.SameWidths a.numbers b.numbers)
    (hcalled : a.isNotCalled = false) (h : a.sameShape b = true) : List.Forall₂ Matcher.Alike a.args b.args := by
  obtain ⟨htarget, hmethod, htext⟩ := sameShape_iff.mp h
  obtain ⟨hname, hargs⟩ := Bool.and_eq_true_iff.mp ha
  obtain ⟨hname', hargs'⟩ := Bool.and_eq_true_iff.mp hb
  have hcalled' : b.isNotCalled = false := isNotCalled_of_sameShape h ▸ hcalled
  have hlist := String.toList_inj.mpr htext
  rw [toList_text hcalled, toList_text hcalled', htarget, hmethod] at hlist
  obtain ⟨-, hrest⟩ := append_cons_inj (isLegibleName_iff.mp hname).1 (isLegibleName_iff.mp hname').1 hlist
  have hinside := List.cons_injective (List.append_cancel_left (List.cons_injective (List.append_cancel_left hrest)))
  exact (Matcher.texts_inj (fun m _ => m.readable) hargs hargs' hwidths hinside).1

/-- Matchers of the same shape accept the same calls, provided that the names of classes are legible, and that numbers
are not written alike that differ in width. -/
theorem test_eq_of_sameShape (ha : a.isLegible = true) (hb : b.isLegible = true)
    (hwidths : Value.SameWidths a.numbers b.numbers) (h : a.sameShape b = true) (c : Call) : a.test c = b.test c := by
  obtain ⟨htarget, hmethod, -⟩ := sameShape_iff.mp h
  have hid : (a.target != c.target) = (b.target != c.target) := congrArg (fun id => !(id == c.target.id)) htarget
  rw [test, test, hid, isNotCalled_of_sameShape h, hmethod]
  cases hcalled : b.isNotCalled with
  | true => rfl
  | false =>
      have halike := args_alike ha hb hwidths ((isNotCalled_of_sameShape h).trans hcalled) h
      rw [halike.length_eq, Matcher.testEach_of_alike halike]

/-- A call that passes one argument to a method which takes anything. -/
def passing (v : Value) : Call :=
  ⟨⟨1, "Service"⟩, { name := "put", params := [.generic], returns := .unit }, [v], 1, none⟩

/-- Puts what `m` accepts. -/
def putting (m : Matcher) : CallMatcher := { exact (passing .null) with args := [m] }

/-- Puts the number seven or a service, and keeps it in a slot. -/
def keeping (slot : Nat) : CallMatcher :=
  putting (.capture slot (.or (.eq (.int 7)) (.ofShape (.object "Service"))))

theorem test_eq_of_sameShape_keeping :
    (keeping 1).sameShape (keeping 2) = true ∧ ∀ c, (keeping 1).test c = (keeping 2).test c := by
  have hshape : (keeping 1).sameShape (keeping 2) = true := by decide +kernel
  exact ⟨hshape, test_eq_of_sameShape (by decide +kernel) (by decide +kernel) (by decide +kernel) hshape⟩

/-- A number of another width is not written otherwise, but is another argument. A verification that both were passed
counts one of them. -/
theorem sameShape_other_width :
    (putting (.eq (.byte 7))).sameShape (putting (.eq (.int 7))) = true ∧
    (putting (.eq (.byte 7))).test (passing (.byte 7)) = .done true ∧
    (putting (.eq (.int 7))).test (passing (.byte 7)) = .done false ∧
    Verification.unordered {} [putting (.eq (.byte 7)), putting (.eq (.int 7))] [passing (.byte 7)] =
      .done (.passed [1]) := ⟨by decide +kernel, rfl, rfl, rfl⟩

/-- A class that is called like another shape. -/
example : (putting (.ofShape .str)).sameShape (putting (.ofShape (.object "String"))) = true ∧
    (putting (.ofShape .str)).test (passing (.str "")) = .done true ∧
    (putting (.ofShape (.object "String"))).test (passing (.str "")) = .done false := ⟨by decide +kernel, rfl, rfl⟩

/-- A class with punctuation in its name. -/
example : (putting (.eq (.list [.object ⟨1, "Tree"⟩, .object ⟨2, "Tree"⟩]))).sameShape
      (putting (.eq (.list [.object ⟨2, "Tree#1, Tree"⟩]))) = true ∧
    (putting (.eq (.list [.object ⟨1, "Tree"⟩, .object ⟨2, "Tree"⟩]))).test
      (passing (.list [.object ⟨2, "Tree"⟩])) = .done false ∧
    (putting (.eq (.list [.object ⟨2, "Tree#1, Tree"⟩]))).test (passing (.list [.object ⟨2, "Tree"⟩])) = .done true :=
  ⟨by decide +kernel, rfl, rfl⟩

end TestDouble.CallMatcher
