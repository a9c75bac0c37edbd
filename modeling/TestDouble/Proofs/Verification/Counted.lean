import TestDouble.Proofs.Verification.Hierarchy

/-!
# Counting every matcher

An unordered verification keeps one matcher of every shape. Where matchers of the same shape accept the same calls, its
verdict is nevertheless about every recorded matcher, each on its own: all of them have to have a suitable number of
calls, or, if it is inverted, none of them.
-/

namespace TestDouble

namespace Verification

variable {r : Request} {log : List Call} {m n : CallMatcher} {ms : List CallMatcher}

/-! ## A matcher on its own -/

/-- A mock that should have no calls has none. Any other matcher accepts as many calls as it has to: the exact number if
there is one, or else a number within the bounds. -/
def Suited (r : Request) (log : List Call) (m : CallMatcher) : Prop :=
  if m.isNotCalled then ∀ c ∈ log, c.target.id ≠ m.target.id
  else match r.exact with
    | some exact => log.countP m.admits = exact
    | none => r.least ≤ log.countP m.admits ∧ ∀ most, r.most = some most → log.countP m.admits ≤ most

theorem countP_admits_eq_zero (h : m.isNotCalled = true) :
    log.countP m.admits = 0 ↔ ∀ c ∈ log, c.target.id ≠ m.target.id := by
  rw [List.countP_eq_zero]
  refine forall₂_congr fun c _ => ?_
  rw [CallMatcher.admits, h, Bool.true_or, Bool.and_true, ObjectRef.beq_iff]
  exact not_congr eq_comm

theorem countOk_iff (r : Request) (n : Nat) : r.countOk n = true ↔
    match r.exact with
    | some exact => n = exact
    | none => r.least ≤ n ∧ ∀ most, r.most = some most → n ≤ most := by
  unfold Request.countOk
  cases r.exact with
  | some exact => exact beq_iff_eq
  | none => cases r.most <;> simp

theorem suited_iff : Suited r log m ↔ countSuits r m (log.countP m.admits) = true := by
  unfold Suited countSuits
  cases hn : m.isNotCalled with
  | true =>
      rw [if_pos rfl, if_pos rfl, beq_iff_eq]
      exact (countP_admits_eq_zero hn).symm
  | false =>
      rw [if_neg Bool.false_ne_true, if_neg Bool.false_ne_true]
      exact (countOk_iff r _).symm

instance : Decidable (Suited r log m) := decidable_of_iff _ suited_iff.symm

/-! ## The kept matchers stand for all -/

/-- Matchers of the same shape accept the same calls of the log. -/
def ShapesAgree (ms : List CallMatcher) (log : List Call) : Prop :=
  ∀ m ∈ ms, ∀ n ∈ ms, m.sameShape n = true → ∀ c ∈ log, m.test c = n.test c

theorem ShapesAgree.admits (h : ShapesAgree ms log) (hp : ∀ m ∈ ms, Matcher.PureEach m.args) (hm : m ∈ ms) (hn : n ∈ ms)
    (hshape : m.sameShape n = true) {c : Call} (hc : c ∈ log) : m.admits c = n.admits c := by
  have htest := h m hm n hn hshape c hc
  rw [CallMatcher.test_eq_admits (hp m hm), CallMatcher.test_eq_admits (hp n hn)] at htest
  exact Probe.done.inj htest

theorem ShapesAgree.suited (h : ShapesAgree ms log) (hp : ∀ m ∈ ms, Matcher.PureEach m.args) (hm : m ∈ ms) (hn : n ∈ ms)
    (hshape : m.sameShape n = true) : Suited r log m ↔ Suited r log n := by
  have hcount : log.countP m.admits = log.countP n.admits :=
    List.countP_congr fun c hc => by rw [h.admits hp hm hn hshape hc]
  rw [suited_iff, suited_iff, hcount, countSuits, countSuits, CallMatcher.isNotCalled_of_sameShape hshape]

/-- What holds of the kept matchers holds of all, if it does not tell matchers of the same shape apart. -/
theorem forall_distinct {p : CallMatcher → Prop}
    (h : ∀ m ∈ ms, ∀ n ∈ ms, m.sameShape n = true → (p m ↔ p n)) : (∀ m ∈ distinct ms, p m) ↔ ∀ m ∈ ms, p m := by
  refine ⟨fun hall m hm => ?_, fun hall m hm => hall m (mem_distinct hm)⟩
  obtain ⟨kept, hkept, hshape⟩ := exists_distinct hm
  exact (h kept (mem_distinct hkept) m hm hshape).mp (hall kept hkept)

/-! ## The verdict -/

/-- The verdict on the kept matchers. -/
theorem isPassed_unordered (r : Request) (log : List Call) (ms : List CallMatcher) :
    (unorderedOutcome r (ms.map fun m => (m, log.filter m.admits))).isPassed = true ↔
      ∀ m ∈ ms, (Suited r log m ↔ r.inverse = false) := by
  rw [isPassed_unorderedOutcome, List.all_map, List.all_eq_true]
  refine forall₂_congr fun m _ => ?_
  rw [suited_iff, List.countP_eq_length_filter, Function.comp_apply, bne_iff_ne]
  cases r.inverse <;> simp

theorem matched_unordered (hr : r.inverse = false)
    (hpassed : (unorderedOutcome r (ms.map fun m => (m, log.filter m.admits))).isPassed = true) (n : Nat) :
    n ∈ (unorderedOutcome r (ms.map fun m => (m, log.filter m.admits))).matched ↔
      ∃ m ∈ ms, ∃ c ∈ log, m.admits c = true ∧ c.sequence = n := by
  unfold unorderedOutcome at hpassed ⊢
  dsimp only at hpassed ⊢
  split at hpassed
  · rw [if_pos ‹_›, hr, if_neg Bool.false_ne_true, Outcome.matched, List.flatMap_map]
    simp only [List.mem_flatMap, List.mem_map, List.mem_filter, and_assoc]
  · cases hpassed

theorem matched_unordered_inverse (hr : r.inverse = true) (hs : List (CallMatcher × List Call)) :
    (unorderedOutcome r hs).matched = [] := by
  unfold unorderedOutcome
  rw [hr, if_pos rfl]
  dsimp only
  split <;> rfl

/-- An unordered verification passes if every recorded matcher, however often it was recorded, has a suitable number of
calls; it then reports the calls that some matcher accepts. If it is inverted, it passes if no recorded matcher has a
suitable number of calls, and reports nothing. -/
theorem unordered_counts_every_matcher (r : Request) (hp : ∀ m ∈ ms, Matcher.PureEach m.args)
    (hsame : ShapesAgree ms log) :
    ∃ o, unordered r ms log = .done o ∧
      (r.inverse = false →
        (o.isPassed = true ↔ ∀ m ∈ ms, Suited r log m) ∧
        (o.isPassed = true → ∀ n, n ∈ o.matched ↔ ∃ m ∈ ms, ∃ c ∈ log, m.test c = .done true ∧ c.sequence = n)) ∧
      (r.inverse = true → (o.isPassed = true ↔ ∀ m ∈ ms, ¬Suited r log m) ∧ o.matched = []) := by
  have hverdict := isPassed_unordered r log (distinct ms)
  refine ⟨_, unordered_eq r hp log, fun hr => ⟨?_, fun hpassed n => ?_⟩, fun hr => ⟨?_, ?_⟩⟩
  · simp only [hr, iff_true] at hverdict
    exact hverdict.trans (forall_distinct fun m hm n hn hshape => hsame.suited hp hm hn hshape)
  · rw [matched_unordered hr hpassed]
    constructor
    · rintro ⟨m, hm, c, hc, hadmits, rfl⟩
      have hm := mem_distinct hm
      exact ⟨m, hm, c, hc, (CallMatcher.test_eq_true (hp m hm) c).mpr hadmits, rfl⟩
    · rintro ⟨m, hm, c, hc, htest, rfl⟩
      obtain ⟨kept, hkept, hshape⟩ := exists_distinct hm
      refine ⟨kept, hkept, c, hc, ?_, rfl⟩
      rw [hsame.admits hp (mem_distinct hkept) hm hshape hc]
      exact (CallMatcher.test_eq_true (hp m hm) c).mp htest
  · simp only [hr, Bool.true_eq_false, iff_false] at hverdict
    exact hverdict.trans (forall_distinct fun m hm n hn hshape => not_congr (hsame.suited hp hm hn hshape))
  · exact matched_unordered_inverse hr _

/-- That `f(true)` was called once, said twice, and that another mock was not called; and none of this. -/
theorem unordered_counts_twice :
    (∃ o, unordered (Request.unordered.times 1)
        [.exact (serviceCall true 0), .exact (serviceCall true 0), .notCalled ⟨2, "Service"⟩]
        [serviceCall true 1, serviceCall false 2] = .done o ∧
      o.isPassed = true ∧ 1 ∈ o.matched ∧ 2 ∉ o.matched) ∧
    (∃ o, unordered Request.unordered.inverted
        [.exact (serviceCall true 0), .exact (serviceCall true 0), .notCalled ⟨2, "Service"⟩]
        [serviceCall true 1, serviceCall false 2] = .done o ∧
      o.isPassed = false ∧ o.matched = []) := by
  have hp : ∀ m ∈ [CallMatcher.exact (serviceCall true 0), .exact (serviceCall true 0), .notCalled ⟨2, "Service"⟩],
      Matcher.PureEach m.args := by
    simp [CallMatcher.exact, CallMatcher.notCalled, serviceCall, Matcher.PureEach, Matcher.Pure]
  have hsame : ShapesAgree [.exact (serviceCall true 0), .exact (serviceCall true 0), .notCalled ⟨2, "Service"⟩]
      [serviceCall true 1, serviceCall false 2] := by
    intro m hm n hn hshape c _
    have htarget := (CallMatcher.sameShape_iff.mp hshape).1
    simp only [List.mem_cons, List.not_mem_nil, or_false] at hm hn
    rcases hm with rfl | rfl | rfl <;> rcases hn with rfl | rfl | rfl <;> first | rfl | cases htarget
  obtain ⟨o, ho, hplain, -⟩ := unordered_counts_every_matcher (Request.unordered.times 1) hp hsame
  obtain ⟨o', ho', -, hinverse⟩ := unordered_counts_every_matcher Request.unordered.inverted hp hsame
  obtain ⟨hpassed, hmatched⟩ := hplain rfl
  obtain ⟨hpassed', hmatched'⟩ := hinverse rfl
  have hsuited := hpassed.mpr (by decide)
  refine ⟨⟨o, ho, hsuited, ?_, fun h => ?_⟩, ⟨o', ho', ?_, hmatched'⟩⟩
  · exact (hmatched hsuited 1).mpr ⟨_, List.mem_cons_self, _, List.mem_cons_self, rfl, rfl⟩
  · obtain ⟨m, hm, c, hc, htest, hsequence⟩ := (hmatched hsuited 2).mp h
    simp only [List.mem_cons, List.not_mem_nil, or_false] at hm hc
    rcases hc with rfl | rfl
    · cases hsequence
    · rcases hm with rfl | rfl | rfl <;> cases htest
  · exact Bool.eq_false_iff.mpr fun h => absurd (hpassed'.mp h) (by decide)

end Verification

end TestDouble
