import TestDouble.Value.Basic

/-!
# Equality of values

Equality is symmetric and transitive. It is not reflexive: what is not a number differs from itself.
-/

namespace TestDouble

theorem Decimal.BinaryFormat.equal_symm {f : BinaryFormat} {a b : Nat} (h : f.equal a b = true) :
    f.equal b a = true := by
  simp only [equal, Bool.and_eq_true, Bool.not_eq_true', beq_iff_eq] at h ⊢
  exact ⟨⟨h.1.2, h.1.1⟩, h.2.symm⟩

theorem Decimal.BinaryFormat.equal_trans {f : BinaryFormat} {a b c : Nat} (h : f.equal a b = true)
    (h' : f.equal b c = true) : f.equal a c = true := by
  simp only [equal, Bool.and_eq_true, Bool.not_eq_true', beq_iff_eq] at h h' ⊢
  exact ⟨⟨h.1.1, h'.1.2⟩, h.2.trans h'.2⟩

theorem ObjectRef.beq_iff {a b : ObjectRef} : (a == b) = true ↔ a.id = b.id := by
  rw [show (a == b) = (a.id == b.id) from rfl, beq_iff_eq]

namespace Value

mutual
theorem beq_symm : (a b : Value) → beq a b = true → beq b a = true
  | .list as, b, h => by
      cases b <;> simp only [beq, Bool.false_eq_true] at h ⊢
      exact beqList_symm as _ h
  | .float a, b, h => by
      cases b <;> simp only [beq, Bool.false_eq_true] at h ⊢
      exact Decimal.BinaryFormat.equal_symm h
  | .double a, b, h => by
      cases b <;> simp only [beq, Bool.false_eq_true] at h ⊢
      exact Decimal.BinaryFormat.equal_symm h
  | .object a, b, h => by
      cases b <;> simp only [beq, Bool.false_eq_true] at h ⊢
      exact ObjectRef.beq_iff.mpr (ObjectRef.beq_iff.mp h).symm
  | .unit, b, h => by cases b <;> simp_all [beq]
  | .null, b, h => by cases b <;> simp_all [beq]
  | .bool _, b, h => by cases b <;> simp_all [beq]
  | .byte _, b, h => by cases b <;> simp_all [beq]
  | .short _, b, h => by cases b <;> simp_all [beq]
  | .int _, b, h => by cases b <;> simp_all [beq]
  | .long _, b, h => by cases b <;> simp_all [beq]
  | .char _, b, h => by cases b <;> simp_all [beq]
  | .str _, b, h => by cases b <;> simp_all [beq]
  | .duration _, b, h => by cases b <;> simp_all [beq]

theorem beqList_symm : (as bs : List Value) → beqList as bs = true → beqList bs as = true
  | [], bs, h => by cases bs <;> simp_all [beqList]
  | a :: as, [], h => by simp [beqList] at h
  | a :: as, b :: bs, h => by
      simp only [beqList, Bool.and_eq_true] at h ⊢
      exact ⟨beq_symm a b h.1, beqList_symm as bs h.2⟩
end

mutual
theorem beq_trans : (a b c : Value) → beq a b = true → beq b c = true → beq a c = true
  | .list as, b, c, h, h' => by
      cases b <;> simp only [beq, Bool.false_eq_true] at h
      cases c <;> simp only [beq, Bool.false_eq_true] at h' ⊢
      exact beqList_trans as _ _ h h'
  | .float a, b, c, h, h' => by
      cases b <;> simp only [beq, Bool.false_eq_true] at h
      cases c <;> simp only [beq, Bool.false_eq_true] at h' ⊢
      exact Decimal.BinaryFormat.equal_trans h h'
  | .double a, b, c, h, h' => by
      cases b <;> simp only [beq, Bool.false_eq_true] at h
      cases c <;> simp only [beq, Bool.false_eq_true] at h' ⊢
      exact Decimal.BinaryFormat.equal_trans h h'
  | .object a, b, c, h, h' => by
      cases b <;> simp only [beq, Bool.false_eq_true] at h
      cases c <;> simp only [beq, Bool.false_eq_true] at h' ⊢
      exact ObjectRef.beq_iff.mpr ((ObjectRef.beq_iff.mp h).trans (ObjectRef.beq_iff.mp h'))
  | .unit, b, c, h, h' => by cases b <;> simp only [beq, Bool.false_eq_true] at h; cases c <;> simp_all [beq]
  | .null, b, c, h, h' => by cases b <;> simp only [beq, Bool.false_eq_true] at h; cases c <;> simp_all [beq]
  | .bool _, b, c, h, h' => by cases b <;> simp only [beq, Bool.false_eq_true] at h; cases c <;> simp_all [beq]
  | .byte _, b, c, h, h' => by cases b <;> simp only [beq, Bool.false_eq_true] at h; cases c <;> simp_all [beq]
  | .short _, b, c, h, h' => by cases b <;> simp only [beq, Bool.false_eq_true] at h; cases c <;> simp_all [beq]
  | .int _, b, c, h, h' => by cases b <;> simp only [beq, Bool.false_eq_true] at h; cases c <;> simp_all [beq]
  | .long _, b, c, h, h' => by cases b <;> simp only [beq, Bool.false_eq_true] at h; cases c <;> simp_all [beq]
  | .char _, b, c, h, h' => by cases b <;> simp only [beq, Bool.false_eq_true] at h; cases c <;> simp_all [beq]
  | .str _, b, c, h, h' => by cases b <;> simp only [beq, Bool.false_eq_true] at h; cases c <;> simp_all [beq]
  | .duration _, b, c, h, h' => by cases b <;> simp only [beq, Bool.false_eq_true] at h; cases c <;> simp_all [beq]

theorem beqList_trans : (as bs cs : List Value) → beqList as bs = true → beqList bs cs = true →
    beqList as cs = true
  | [], bs, cs, h, h' => by cases bs <;> cases cs <;> simp_all [beqList]
  | a :: as, [], _, h, _ => by simp [beqList] at h
  | a :: as, b :: bs, [], _, h' => by simp [beqList] at h'
  | a :: as, b :: bs, c :: cs, h, h' => by
      simp only [beqList, Bool.and_eq_true] at h h' ⊢
      exact ⟨beq_trans a b c h.1 h'.1, beqList_trans as bs cs h.2 h'.2⟩
end

theorem eq_bool_of_beq {v : Value} {b : Bool} (h : (v == .bool b) = true) : v = .bool b := by
  cases v <;> simp only [BEq.beq, beq, Bool.false_eq_true] at h
  case bool c => rw [of_decide_eq_true h]

instance : PartialEquivBEq Value where
  symm := beq_symm _ _
  trans := beq_trans _ _ _

/-! ## Elements -/

def elements : Value → List Value
  | .list vs => vs
  | _ => []

/-- Every element of a list has an equal one in an equal list. -/
theorem exists_of_beqList {v : Value} : {vs ws : List Value} → beqList vs ws = true → v ∈ vs →
    ∃ w ∈ ws, (v == w) = true
  | a :: vs, b :: ws, h, hv => by
      rw [beqList, Bool.and_eq_true] at h
      rcases List.mem_cons.mp hv with rfl | hv
      · exact ⟨b, List.mem_cons_self, h.1⟩
      · obtain ⟨w, hw, hsame⟩ := exists_of_beqList h.2 hv
        exact ⟨w, List.mem_cons_of_mem b hw, hsame⟩

theorem exists_element_of_beq {v w : Value} {vs : List Value} (h : (Value.list vs == w) = true) (hv : v ∈ vs) :
    ∃ x ∈ w.elements, (v == x) = true := by
  cases w with
  | list ws => exact exists_of_beqList h hv
  | _ => cases h

end Value

end TestDouble
