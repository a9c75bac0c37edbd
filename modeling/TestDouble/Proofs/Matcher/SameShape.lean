import TestDouble.Proofs.Value.Equality
import TestDouble.Verification.Strategy

/-!
# Matchers of the same shape

Matchers of the same shape cannot be told apart by what is written about them. An unordered verification keeps the first
of every shape.
-/

namespace TestDouble

namespace CallMatcher

variable {a b c : CallMatcher}

theorem sameShape_iff :
    a.sameShape b = true ↔ a.target.id = b.target.id ∧ a.method = b.method ∧ a.text = b.text := by
  simp only [sameShape, Bool.and_eq_true, ObjectRef.beq_iff, beq_iff_eq, and_assoc]

theorem sameShape_refl (m : CallMatcher) : m.sameShape m = true := sameShape_iff.mpr ⟨rfl, rfl, rfl⟩

theorem sameShape_trans (h : a.sameShape b = true) (h' : b.sameShape c = true) : a.sameShape c = true := by
  obtain ⟨htarget, hmethod, htext⟩ := sameShape_iff.mp h
  obtain ⟨htarget', hmethod', htext'⟩ := sameShape_iff.mp h'
  exact sameShape_iff.mpr ⟨htarget.trans htarget', hmethod.trans hmethod', htext.trans htext'⟩

theorem getLast?_text (m : CallMatcher) : m.text.toList.getLast? = some (if m.isNotCalled then 'd' else ')') := by
  unfold text
  split
  · rw [String.toList_append, List.getLast?_append]
    rfl
  · rw [String.toList_append, List.getLast?_append]
    rfl

/-- A mock without calls is not the shape of any call. -/
theorem isNotCalled_of_sameShape (h : a.sameShape b = true) : a.isNotCalled = b.isNotCalled := by
  have hlast := congrArg (fun t => t.toList.getLast?) (sameShape_iff.mp h).2.2
  simp only [getLast?_text, Option.some.injEq] at hlast
  cases ha : a.isNotCalled <;> cases hb : b.isNotCalled <;> simp_all

end CallMatcher

namespace Verification

variable {m : CallMatcher}

theorem mem_distinct : {ms : List CallMatcher} → m ∈ distinct ms → m ∈ ms
  | [], h => h
  | _ :: _, h => by
      rcases List.mem_cons.mp h with rfl | h
      · exact List.mem_cons_self
      · exact List.mem_cons_of_mem _ (mem_distinct (List.mem_filter.mp h).1)

/-- Every shape is kept. -/
theorem exists_distinct : {ms : List CallMatcher} → m ∈ ms → ∃ n ∈ distinct ms, n.sameShape m = true
  | m' :: ms, h => by
      rw [distinct]
      rcases List.mem_cons.mp h with rfl | h
      · exact ⟨m, List.mem_cons_self, m.sameShape_refl⟩
      · obtain ⟨n, hn, hsame⟩ := exists_distinct h
        cases hshape : m'.sameShape n with
        | true => exact ⟨m', List.mem_cons_self, CallMatcher.sameShape_trans hshape hsame⟩
        | false => exact ⟨n, List.mem_cons_of_mem _ (List.mem_filter.mpr ⟨hn, by rw [hshape]; rfl⟩), hsame⟩

end Verification

end TestDouble
