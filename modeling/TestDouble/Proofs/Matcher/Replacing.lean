import TestDouble.Proofs.Matcher.Pure
import TestDouble.Session.Chain

/-!
# Replacing objects

An object that has been replaced is mentioned no more, unless it takes the place of another. Inside list literals and
in comparisons nothing is replaced, so nothing counts as mentioned there.
-/

namespace TestDouble

namespace Matcher

mutual
/-- An object is mentioned where replacing it makes a difference. -/
def Mentions (id : Nat) : Matcher → Prop
  | eq (.object o) => o.id = id
  | same o => o.id = id
  | not m => Mentions id m
  | and l r => Mentions id l ∨ Mentions id r
  | or l r => Mentions id l ∨ Mentions id r
  | capture _ m => Mentions id m
  | varargAll m => Mentions id m
  | varargs ms => MentionsEach id ms
  | _ => False

def MentionsEach (id : Nat) : List Matcher → Prop
  | [] => False
  | m :: ms => Mentions id m ∨ MentionsEach id ms
end

/-- Where an identity leads. -/
def renamed (old : Nat) (new : ObjectRef) (id : Nat) : Nat := if id = old then new.id else id

theorem id_replaced (old : Nat) (new o : ObjectRef) : (if o.id == old then new else o).id = renamed old new o.id := by
  simp only [renamed, beq_iff_eq]
  split <;> rfl

variable {old id : Nat} {new : ObjectRef}

mutual
theorem mentions_replaceObject : (m : Matcher) →
    ((m.replaceObject old new).Mentions id ↔ ∃ x, m.Mentions x ∧ renamed old new x = id)
  | eq v => by
      cases v with
      | object o => simp only [replaceObject, Mentions, id_replaced, exists_eq_left']
      | _ => simp only [replaceObject, Mentions, false_and, exists_false]
  | same o => by simp only [replaceObject, Mentions, id_replaced, exists_eq_left']
  | not m => by simp only [replaceObject, Mentions]; exact mentions_replaceObject m
  | and l r => by
      simp only [replaceObject, Mentions, mentions_replaceObject l, mentions_replaceObject r, or_and_right, exists_or]
  | or l r => by
      simp only [replaceObject, Mentions, mentions_replaceObject l, mentions_replaceObject r, or_and_right, exists_or]
  | capture _ m => by simp only [replaceObject, Mentions]; exact mentions_replaceObject m
  | varargAll m => by simp only [replaceObject, Mentions]; exact mentions_replaceObject m
  | varargs ms => by simp only [replaceObject, Mentions]; exact mentionsEach_replaceObjectEach ms
  | any => by simp [replaceObject, Mentions]
  | compare _ _ => by simp [replaceObject, Mentions]
  | predicate _ _ => by simp [replaceObject, Mentions]
  | ofShape _ => by simp [replaceObject, Mentions]
  | null => by simp [replaceObject, Mentions]
  | notNull => by simp [replaceObject, Mentions]
  | varargAny => by simp [replaceObject, Mentions]
  | notCalled => by simp [replaceObject, Mentions]

theorem mentionsEach_replaceObjectEach : (ms : List Matcher) →
    (MentionsEach id (replaceObjectEach old new ms) ↔ ∃ x, MentionsEach x ms ∧ renamed old new x = id)
  | [] => by simp [replaceObjectEach, MentionsEach]
  | m :: ms => by
      simp only [replaceObjectEach, MentionsEach, mentions_replaceObject m, mentionsEach_replaceObjectEach ms,
        or_and_right, exists_or]
end

mutual
/-- Other predicates are not added. -/
theorem Pure.replaceObject : (m : Matcher) → m.Pure → (m.replaceObject old new).Pure
  | eq v, _ => by cases v <;> simp only [Matcher.replaceObject, Matcher.Pure]
  | same _, _ => by simp only [Matcher.replaceObject, Matcher.Pure]
  | not m, h => by simp only [Matcher.replaceObject, Matcher.Pure] at h ⊢; exact Pure.replaceObject m h
  | and l r, h => by
      simp only [Matcher.replaceObject, Matcher.Pure] at h ⊢
      exact ⟨Pure.replaceObject l h.1, Pure.replaceObject r h.2⟩
  | or l r, h => by
      simp only [Matcher.replaceObject, Matcher.Pure] at h ⊢
      exact ⟨Pure.replaceObject l h.1, Pure.replaceObject r h.2⟩
  | capture _ m, h => by simp only [Matcher.replaceObject, Matcher.Pure] at h ⊢; exact Pure.replaceObject m h
  | varargAll m, h => by simp only [Matcher.replaceObject, Matcher.Pure] at h ⊢; exact Pure.replaceObject m h
  | varargs ms, h => by simp only [Matcher.replaceObject, Matcher.Pure] at h ⊢; exact PureEach.replaceObjectEach ms h
  | any, _ => by simp only [Matcher.replaceObject, Matcher.Pure]
  | compare _ _, _ => by simp only [Matcher.replaceObject, Matcher.Pure]
  | predicate _ _, h => by simp only [Matcher.replaceObject]; exact h
  | ofShape _, _ => by simp only [Matcher.replaceObject, Matcher.Pure]
  | null, _ => by simp only [Matcher.replaceObject, Matcher.Pure]
  | notNull, _ => by simp only [Matcher.replaceObject, Matcher.Pure]
  | varargAny, _ => by simp only [Matcher.replaceObject, Matcher.Pure]
  | notCalled, _ => by simp only [Matcher.replaceObject, Matcher.Pure]

theorem PureEach.replaceObjectEach : (ms : List Matcher) → PureEach ms → PureEach (replaceObjectEach old new ms)
  | [], h => h
  | m :: ms, h => by
      simp only [Matcher.replaceObjectEach, PureEach] at h ⊢
      exact ⟨Pure.replaceObject m h.1, PureEach.replaceObjectEach ms h.2⟩
end

end Matcher

/-- The target is such an object, or an argument matcher mentions it. -/
def CallMatcher.Mentions (m : CallMatcher) (id : Nat) : Prop := m.target.id = id ∨ Matcher.MentionsEach id m.args

theorem CallMatcher.mentions_replaceObject {m : CallMatcher} {old id : Nat} {new : ObjectRef} :
    (m.replaceObject old new).Mentions id ↔ ∃ x, m.Mentions x ∧ Matcher.renamed old new x = id := by
  simp only [Mentions, replaceObject, Matcher.id_replaced, Matcher.mentionsEach_replaceObjectEach, or_and_right,
    exists_or, exists_eq_left']

namespace Links

/-- Where an identity leads when the links are replaced, one after another. -/
def follow (links : Links) (id : Nat) : Nat := links.foldl (fun x l => Matcher.renamed l.1 l.2 x) id

end Links

end TestDouble
