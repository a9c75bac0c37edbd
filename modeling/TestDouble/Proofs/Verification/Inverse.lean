import TestDouble.Proofs.Store
import TestDouble.Proofs.Verification.Matched

/-!
# Inverted verifications

Ordered verifications, sequences and complete ones are inverted as a whole, and are then not asked about mocks
without calls. An unordered one is inverted matcher by matcher, so that of several matchers all have to fail.
-/

namespace TestDouble.Verification

/-- Whether the verification passes. -/
def passes (s : Store) (r : Request) (inverse : Bool) (ms : List CallMatcher) (mocks : List ObjectRef)
    (calls : List Call) : Bool :=
  (s.probe (verifyWith { r with inverse } ms (mocks.map CallMatcher.notCalled) calls)).1.isPassed

/-- Whether the matchers alone agree with the calls. -/
def agrees (s : Store) (r : Request) (ms : List CallMatcher) (calls : List Call) : Bool :=
  (s.probe (verify { r with inverse := false } ms calls)).1.isPassed

/-- Some of the mocks received a call. -/
def called (mocks : List ObjectRef) (calls : List Call) : Bool := mocks.any fun o => calls.any (o == ·.target)

/-- For each distinct matcher, whether the number of calls that it accepts suits it. -/
def suits (s : Store) (r : Request) (ms : List CallMatcher) (calls : List Call) : List Bool :=
  (s.probe (hits calls (distinct ms))).1.map fun h => countSuits r h.1 h.2.length

variable {s : Store} {r : Request} {ms : List CallMatcher} {mocks : List ObjectRef} {calls : List Call}

/-! ## Inverted as a whole -/

theorem invert_false (ms : List CallMatcher) (o : Outcome) : invert false ms o = o := by cases o <;> rfl

theorem isPassed_invert_true (ms : List CallMatcher) (o : Outcome) : (invert true ms o).isPassed = !o.isPassed := by
  cases o <;> rfl

theorem probe_verify_inverse (h : r.order ≠ .unordered) (s : Store) :
    (s.probe (verify { r with inverse := true } ms calls)).1 =
      invert true ms (s.probe (verify { r with inverse := false } ms calls)).1 := by
  unfold verify
  cases ho : r.order with
  | unordered => exact absurd ho h
  | ordered => simp only [ordered, Store.probe_bind, Store.probe, invert_false]
  | all => simp only [all, Store.probe_bind, Store.probe, invert_false]
  | sequence =>
      simp only [sequence, Store.probe_bind, invert_false]
      cases (s.probe (alignedRun? ms calls)).1 with
      | some run => simp only [Store.probe]
      | none => simp only [Store.probe_bind, Store.probe]

theorem passes_inverse (h : r.order ≠ .unordered) : passes s r true ms mocks calls = !agrees s r ms calls := by
  simp only [passes, verifyWith, if_neg h, Bool.or_true, ↓reduceIte, Store.probe_bind, Store.probe]
  rw [probe_verify_inverse h, isPassed_invert_true, agrees]

/-! ## Mocks without calls -/

theorem filter_notCalled (o : ObjectRef) (calls : List Call) :
    Probe.filter (CallMatcher.notCalled o).test calls = .done (calls.filter (o == ·.target)) := by
  rw [CallMatcher.filter_test (by simp [CallMatcher.notCalled, Matcher.PureEach, Matcher.Pure])]
  refine congrArg Probe.done (List.filter_congr fun c _ => ?_)
  exact Bool.and_true _

/-- A statement is refuted exactly if a mock was called. -/
theorem refuted?_notCalled (calls : List Call) : (mocks : List ObjectRef) →
    ∃ refuted, refuted? calls (mocks.map CallMatcher.notCalled) = .done refuted ∧ refuted.isSome = called mocks calls
  | [] => ⟨none, rfl, rfl⟩
  | o :: mocks => by
      rw [List.map_cons, refuted?, filter_notCalled, Probe.bind, called, List.any_cons, ← called]
      cases hc : calls.any (o == ·.target) with
      | true =>
          have hne : (calls.filter (o == ·.target)).isEmpty = false := by
            obtain ⟨c, hc, hoc⟩ := List.any_eq_true.mp hc
            exact List.isEmpty_eq_false_iff_exists_mem.mpr ⟨c, List.mem_filter.mpr ⟨hc, hoc⟩⟩
          exact ⟨_, by rw [hne]; rfl, rfl⟩
      | false =>
          have hnil : calls.filter (o == ·.target) = [] := List.filter_eq_nil_iff.mpr (List.any_eq_false.mp hc)
          rw [hnil]
          exact refuted?_notCalled calls mocks

theorem passes_plain (h : r.order ≠ .unordered) :
    passes s r false ms mocks calls = (agrees s r ms calls && !called mocks calls) := by
  obtain ⟨refuted, hrefuted, hcalled⟩ := refuted?_notCalled calls mocks
  simp only [passes, verifyWith, if_neg h, Bool.or_false, Store.probe_bind, hrefuted, Probe.bind, agrees]
  cases ho : (s.probe (verify { r with inverse := false } ms calls)).1.isPassed with
  | false => simp [Store.probe, ho]
  | true =>
      rw [← hcalled]
      cases refuted
      · simp [Store.probe, ho]
      · simp [Store.probe, Outcome.isPassed]

/-! ## Inverted matcher by matcher -/

theorem passes_unordered (h : r.order = .unordered) (inverse : Bool) :
    passes s r inverse ms mocks calls =
      (suits s r (ms ++ mocks.map CallMatcher.notCalled) calls).all (· != inverse) := by
  simp only [passes, verifyWith, verify, h, ↓reduceIte, unordered, Store.probe_bind, Store.probe,
    isPassed_unorderedOutcome, suits, List.all_map]
  rfl

/-! ## What inverting does -/

/-- There are some, and they are the same. -/
def unanimous : List Bool → Bool
  | [] => false
  | b :: bs => bs.all (· == b)

theorem flips_iff_unanimous (bs : List Bool) : (bs.all (· != true) = !bs.all (· != false)) ↔ unanimous bs = true := by
  cases bs with
  | nil => decide
  | cons b bs => cases b <;> simp [unanimous]

/-- A verification that is inverted as a whole flips, unless the matchers agree with the calls and a mock that should
have no calls has some: then it fails either way. An unordered one flips if all matchers suit or none does; if only
some do, it fails either way, and without matchers it passes either way. -/
theorem inverse_flips (s : Store) (r : Request) (ms : List CallMatcher) (mocks : List ObjectRef) (calls : List Call) :
    (r.order ≠ .unordered →
      passes s r true ms mocks calls = !agrees s r ms calls ∧
      passes s r false ms mocks calls = (agrees s r ms calls && !called mocks calls) ∧
      (passes s r true ms mocks calls = !passes s r false ms mocks calls ↔
        ¬(agrees s r ms calls = true ∧ called mocks calls = true))) ∧
    (r.order = .unordered →
      passes s r true ms mocks calls = (suits s r (ms ++ mocks.map CallMatcher.notCalled) calls).all (!·) ∧
      passes s r false ms mocks calls = (suits s r (ms ++ mocks.map CallMatcher.notCalled) calls).all id ∧
      (passes s r true ms mocks calls = !passes s r false ms mocks calls ↔
        unanimous (suits s r (ms ++ mocks.map CallMatcher.notCalled) calls) = true)) := by
  refine ⟨fun h => ?_, fun h => ?_⟩
  · rw [passes_inverse h, passes_plain h]
    refine ⟨rfl, rfl, ?_⟩
    cases agrees s r ms calls <;> cases called mocks calls <;> decide
  · refine ⟨?_, ?_, ?_⟩
    · rw [passes_unordered h]
      exact congrArg (List.all _) (funext Bool.bne_true)
    · rw [passes_unordered h]
      exact congrArg (List.all _) (funext Bool.bne_false)
    · rw [passes_unordered h, passes_unordered h]
      exact flips_iff_unanimous _

/-- A call on a mock of the class `Service`. -/
def serviceCall (argument : Bool) (sequence : Nat) : Call :=
  ⟨⟨1, "Service"⟩, { name := "f", params := [.bool], returns := .int }, [.bool argument], sequence, none⟩

theorem inverse_flips_service :
    passes {} .ordered true [.exact (serviceCall false 0)] [⟨2, "Service"⟩] [serviceCall true 1] =
      !passes {} .ordered false [.exact (serviceCall false 0)] [⟨2, "Service"⟩] [serviceCall true 1] ∧
    passes {} .unordered true [.exact (serviceCall false 0)] [] [serviceCall true 1] =
      !passes {} .unordered false [.exact (serviceCall false 0)] [] [serviceCall true 1] :=
  ⟨((inverse_flips _ _ _ _ _).1 (by decide)).2.2.mpr (by decide), ((inverse_flips _ _ _ _ _).2 rfl).2.2.mpr (by decide)⟩

/-- After `f(true)`: that `f(true)` and `f(false)` were called, and that `f(true)` was called on a mock without calls,
both fail, and so do their inverses. -/
theorem inverse_fails_too :
    (∀ inverse, passes {} .unordered inverse [.exact (serviceCall true 0), .exact (serviceCall false 0)] []
      [serviceCall true 1] = false) ∧
    (∀ inverse, passes {} .ordered inverse [.exact (serviceCall true 0)] [⟨1, "Service"⟩]
      [serviceCall true 1] = false) := by
  decide

end TestDouble.Verification
