import Mathlib.Data.List.Forall2
import TestDouble.Proofs.Matcher.Literal
import TestDouble.Recording.Hinting

/-!
# Placing hints

A pass whose last call returned the stand-in that was refused is blamed on that call. It is run again with one more
hint, until it has been run more often than it made different calls.
-/

namespace TestDouble

/-! ## Hints -/

namespace Hints

theorem lookup_cons (h : Nat × Shape) (hints : Hints) (j : Nat) :
    List.lookup j (h :: hints) = if j = h.1 then some h.2 else hints.lookup j := by
  rw [List.lookup_cons]
  by_cases hj : j = h.1
  · rw [if_pos hj, beq_iff_eq.mpr hj]
  · rw [if_neg hj, beq_eq_false_iff_ne.mpr hj]

theorem lookup_insert (hints : Hints) (index j : Nat) (s : Shape) :
    (hints.insert index s).lookup j = if j = index then some s else hints.lookup j := by
  induction hints with
  | nil => rw [insert, lookup_cons]
  | cons h hints ih =>
      rw [insert]
      split
      · rw [lookup_cons]
      · split
        case isTrue heq => rw [lookup_cons, lookup_cons, ← heq]; grind
        case isFalse hne => rw [lookup_cons, lookup_cons, ih]; grind

end Hints

/-! ## Different calls -/

theorem Call.sameAs_repeats {c c' d d' : Call} (h : c.Repeats d) (h' : c'.Repeats d') : c.sameAs c' = d.sameAs d' := by
  rw [sameAs, sameAs, h.target, h.method, h.args, h'.target, h'.method, h'.args]

/-- No call is the same as an earlier one. -/
def Call.Apart (cs : List Call) : Prop := cs.Pairwise fun c d => c.sameAs d = false

namespace Round

/-- Calls that differ from all earlier ones are counted one by one. -/
theorem countNew_append (seen : List Call) {cs : List Call} (h : Call.Apart (seen ++ cs)) (ds : List Call) :
    countNew seen (cs ++ ds) = countNew (seen ++ cs) ds := by
  induction cs generalizing seen with
  | nil => rw [List.nil_append, List.append_nil]
  | cons c cs ih =>
      have hnew : seen.any (·.sameAs c) = false := by
        rw [List.any_eq_false]
        intro d hd
        rw [(List.pairwise_append.mp h).2.2 d hd c List.mem_cons_self]
        exact Bool.false_ne_true
      rw [List.append_cons] at h ⊢
      rw [List.cons_append, countNew, hnew, ← ih (seen ++ [c]) h]
      rfl

theorem countNew_repeats {cs ds : List Call} (h : List.Forall₂ Call.Repeats cs ds) {seen seen' : List Call}
    (hseen : List.Forall₂ Call.Repeats seen seen') : countNew seen cs = countNew seen' ds := by
  induction h generalizing seen seen' with
  | nil => exact hseen.length_eq
  | @cons c d cs ds hc h ih =>
      have hany : seen.any (·.sameAs c) = seen'.any (·.sameAs d) := by
        clear ih
        induction hseen with
        | nil => rfl
        | cons hs _ ihs => rw [List.any_cons, List.any_cons, Call.sameAs_repeats hs hc, ihs]
      rw [countNew, countNew, hany, ih hseen, ih (List.rel_append hseen (.cons hc .nil))]

/-- Lists that correspond have classes that correspond. -/
theorem distinctBy_forall₂ {α β : Type} {R : α → β → Prop} {same : α → α → Bool} {same' : β → β → Bool}
    (hsame : ∀ {a a' b b'}, R a b → R a' b' → same a a' = same' b b') {as : List α} {bs : List β}
    (h : List.Forall₂ R as bs) : List.Forall₂ R (distinctBy same as) (distinctBy same' bs) := by
  induction h with
  | nil => exact .nil
  | cons hab _ ih =>
      exact .cons hab (List.rel_filter (fun a b h => by simp only [hsame hab h]) ih)

/-- The last call returned the object, and none before it returned one. -/
theorem callReturning?_last {r : Round} {cs : List CapturedCall} {c : CapturedCall} (hcalls : r.calls = cs ++ [c])
    (hcs : ∀ d ∈ cs, d.returned.object? = none) {x : ObjectRef} (hx : c.returned = .object x) :
    r.callReturning? x.id = some cs.length := by
  have hnone : cs.findIdx? (fun d => d.returned.object?.any (·.id == x.id)) = none := by
    rw [List.findIdx?_eq_none_iff]
    intro d hd
    rw [hcs d hd]
    rfl
  rw [callReturning?, hcalls, List.findIdx?_append, hnone]
  simp [hx, Value.object?, List.findIdx?_cons]

end Round

/-! ## Reviewing -/

namespace Hinting

variable {h : Hinting} {r : Round} {shape : Shape} {x : ObjectRef} {k : Nat}

theorem review_rejected (h : Hinting) (shape : Shape) (hx : x.isPlaceholder = true)
    (hk : r.callReturning? x.id = some k) : h.review (.error (.mock (.rejected shape (.object x)))) r =
      if r.distinctInvocationCount ≤ h.passes then
        (.error (.hintsExhausted k shape (h.passes + 1)), { h with passes := h.passes + 1 })
      else (.ok .retry, { hints := h.hints.insert k shape, passes := h.passes + 1 }) := by
  have hblamed : Hinting.blamed? { h with passes := h.passes + 1 } r (some x.id) = some k := by
    rw [blamed?, Option.bind_some, hk]
    rfl
  have hplaceholder : (MockError.rejected shape (.object x)) = .shapeMismatch shape x.className (some x.id) := by
    simp [MockError.rejected, Value.object?, Value.typeName, Option.filter, hx]
  rw [review, hplaceholder]
  simp only [Failure.ofBlock, Failure.mockError?, Option.getD_some, hblamed, Nat.add_le_add_iff_right]

end Hinting

end TestDouble
