import TestDouble.Proofs.Matcher.Literal
import TestDouble.Proofs.Value.Equality
import TestDouble.Proofs.Verification.Inverse

/-!
# Verifying what happened

The exact matchers of all logged calls agree with the log, in their order and in a row. A complete verification
attributes each call to the first matcher that accepts it, so a call that repeats an earlier one leaves its own
matcher without a call.
-/

namespace TestDouble

namespace Probe

variable {α : Type} {p : α → Probe Bool} {q : α → Bool} {as : List α}

/-- A pure test finds the position of the first that passes it. -/
theorem findIdx?_position (h : ∀ a ∈ as, p a = .done (q a)) :
    ∃ found, Probe.findIdx? p as = .done found ∧ found.map (·.1) = as.findIdx? q := by
  induction as with
  | nil => exact ⟨none, rfl, rfl⟩
  | cons a as ih =>
      obtain ⟨found, hfound, hmap⟩ := ih fun b hb => h b (List.mem_cons_of_mem a hb)
      rw [Probe.findIdx?, h a List.mem_cons_self, Probe.bind, hfound, List.findIdx?_cons]
      cases q a with
      | true => exact ⟨some (0, a), rfl, rfl⟩
      | false =>
          refine ⟨found.map fun f => (f.1 + 1, f.2), rfl, ?_⟩
          rw [← hmap, Option.map_map, if_neg Bool.false_ne_true, Option.map_map]
          rfl

end Probe

/-! ## Calls that are the same -/

namespace Call

variable {a b c : Call}

/-- Every argument equals itself. -/
def Comparable (c : Call) : Prop := ∀ v ∈ c.args, (v == v) = true

instance (c : Call) : Decidable c.Comparable := inferInstanceAs (Decidable (∀ v ∈ c.args, (v == v) = true))

theorem beq_self_of_forall : {vs : List Value} → (∀ v ∈ vs, (v == v) = true) → (vs == vs) = true
  | [], _ => rfl
  | v :: vs, h => by
      rw [List.cons_beq_cons, h v List.mem_cons_self, beq_self_of_forall fun w hw => h w (List.mem_cons_of_mem v hw)]
      rfl

theorem Comparable.sameAs_self (h : c.Comparable) : c.sameAs c = true := by
  rw [sameAs, beq_self_of_forall h, ObjectRef.beq_iff.mpr rfl, beq_self_eq_true]
  rfl

theorem sameAs_trans (h : a.sameAs b = true) (h' : b.sameAs c = true) : a.sameAs c = true := by
  simp only [sameAs, Bool.and_eq_true, ObjectRef.beq_iff, beq_iff_eq, ← Value.list_beq] at h h' ⊢
  exact ⟨⟨h.1.1.trans h'.1.1, h.1.2.trans h'.1.2⟩, PartialEquivBEq.trans h.2 h'.2⟩

/-- The calls that an earlier call is the same as. -/
def repeated (calls : List Call) : List Call :=
  (calls.zipIdx.filter fun c => (calls.take c.2).any (·.sameAs c.1)).map (·.1)

end Call

namespace CallMatcher

theorem isNotCalled_exact (c : Call) : (exact c).isNotCalled = false := by
  unfold isNotCalled
  split
  case h_1 hargs =>
    obtain ⟨v, -, hv⟩ := List.map_eq_singleton_iff.mp hargs
    cases hv
  case h_2 => rfl

theorem admits_exact (c d : Call) : (exact c).admits d = c.sameAs d := by
  rw [admits, isNotCalled_exact, Bool.false_or, Call.sameAs, ← Matcher.acceptsEach_eq, Bool.and_assoc]
  rfl

theorem pureEach_exact {m : CallMatcher} {calls : List Call} (hm : m ∈ calls.map exact) : Matcher.PureEach m.args := by
  obtain ⟨c, -, rfl⟩ := List.mem_map.mp hm
  exact Matcher.pureEach_eq c.args

theorem test_exact (c d : Call) : (exact c).test d = .done (c.sameAs d) := by
  rw [test_eq_admits (Matcher.pureEach_eq c.args), admits_exact]

end CallMatcher

namespace Verification

variable {calls : List Call}

/-! ## Each order -/

theorem unordered_exact (h : ∀ c ∈ calls, c.Comparable) :
    ∃ matched, verify .unordered (calls.map .exact) calls = .done (.passed matched) := by
  have hpassed : (unorderedOutcome .unordered
      ((distinct (calls.map .exact)).map fun m => (m, calls.filter m.admits))).isPassed = true := by
    rw [isPassed_unorderedOutcome, List.all_map, List.all_eq_true]
    intro m hm
    obtain ⟨c, hc, rfl⟩ := List.mem_map.mp (mem_distinct hm)
    have hmem : c ∈ calls.filter (CallMatcher.exact c).admits :=
      List.mem_filter.mpr ⟨hc, by rw [CallMatcher.admits_exact, (h c hc).sameAs_self]⟩
    have hpos := List.length_pos_of_mem hmem
    have hsuits : countSuits .unordered (.exact c) (calls.filter (CallMatcher.exact c).admits).length = true := by
      simp only [countSuits, CallMatcher.isNotCalled_exact, Request.countOk, Request.unordered, Bool.false_eq_true,
        ↓reduceIte, Option.all_none, Bool.and_true]
      exact decide_eq_true hpos
    exact congrArg (· != false) hsuits
  have hverify : verify .unordered (calls.map .exact) calls = .done (unorderedOutcome .unordered
      ((distinct (calls.map .exact)).map fun m => (m, calls.filter m.admits))) :=
    unordered_eq .unordered (fun _ => CallMatcher.pureEach_exact) calls
  rw [hverify]
  generalize unorderedOutcome _ _ = o at hpassed
  cases o with
  | passed matched => exact ⟨matched, rfl⟩
  | failed reason => cases hpassed

theorem earliest_exact (h : ∀ c ∈ calls, c.Comparable) (start : Nat) (before : Option Call) :
    earliest start before (calls.map .exact) calls = .done (.ok ((calls.zipIdx start).map Prod.swap)) := by
  induction calls generalizing start before with
  | nil => rfl
  | cons c calls ih =>
      have hself := (h c List.mem_cons_self).sameAs_self
      simp only [List.map_cons, earliest, Probe.findIdx?, CallMatcher.test_exact, hself, Probe.bind, ↓reduceIte,
        List.drop_succ_cons, List.drop_zero, ih fun d hd => h d (List.mem_cons_of_mem c hd)]
      rfl

theorem ordered_exact (h : ∀ c ∈ calls, c.Comparable) :
    verify .ordered (calls.map .exact) calls = .done (.passed (calls.map Call.sequence)) := by
  have hsequences : ((calls.zipIdx 0).map Prod.swap).map (·.2.sequence) = calls.map Call.sequence := by
    rw [List.map_map, ← List.zipIdx_map_fst 0 calls, List.map_map, List.zipIdx_map_fst]
    rfl
  have hverify : verify .ordered (calls.map .exact) calls =
      .done (.passed (((calls.zipIdx 0).map Prod.swap).map (·.2.sequence))) := by
    unfold verify
    dsimp only [Request.ordered, ordered]
    rw [earliest_exact h]
    rfl
  rw [hverify, hsequences]

theorem aligned_exact (h : ∀ c ∈ calls, c.Comparable) : aligned (calls.map .exact) calls = .done true := by
  induction calls with
  | nil => rfl
  | cons c calls ih =>
      rw [List.map_cons, aligned, CallMatcher.test_exact, (h c List.mem_cons_self).sameAs_self]
      exact ih fun d hd => h d (List.mem_cons_of_mem c hd)

theorem sequence_exact (h : ∀ c ∈ calls, c.Comparable) :
    verify .sequence (calls.map .exact) calls = .done (.passed (calls.map Call.sequence)) := by
  have hrun : alignedRun? (calls.map .exact) calls = .done (some calls) := by
    cases calls with
    | nil => rfl
    | cons c calls =>
        rw [alignedRun?, if_pos (by simp), aligned_exact h]
        simp [Probe.bind]
  unfold verify
  dsimp only [Request.sequence, sequence]
  rw [hrun]
  rfl

theorem owners_eq {ms : List CallMatcher} (hp : ∀ m ∈ ms, Matcher.PureEach m.args) : (calls : List Call) →
    owners ms calls = .done (calls.map fun c => (c, ms.findIdx? (·.admits c)))
  | [] => rfl
  | c :: cs => by
      obtain ⟨found, hfound, hposition⟩ := Probe.findIdx?_position fun m (hm : m ∈ ms) =>
        CallMatcher.test_eq_admits (hp m hm) c
      rw [owners, hfound, List.map_cons, ← hposition, Probe.bind, owners_eq hp cs]
      rfl

/-- Each call with the position of the first call that it repeats. -/
def attributed (calls : List Call) : List (Call × Option Nat) := calls.map fun c => (c, calls.findIdx? (·.sameAs c))

theorem owners_exact (calls : List Call) : owners (calls.map .exact) calls = .done (attributed calls) := by
  rw [owners_eq fun m => CallMatcher.pureEach_exact]
  refine congrArg Probe.done (List.map_congr_left fun c _ => ?_)
  rw [List.findIdx?_map]
  exact congrArg (fun p => (c, calls.findIdx? p)) (funext fun d => CallMatcher.admits_exact d c)

theorem stray_attributed (h : ∀ c ∈ calls, c.Comparable) : ((attributed calls).filter fun o => o.2.isNone) = [] := by
  rw [List.filter_eq_nil_iff]
  intro o ho hnone
  obtain ⟨c, hc, rfl⟩ := List.mem_map.mp ho
  have hself := List.findIdx?_eq_none_iff.mp (Option.isNone_iff_eq_none.mp hnone) c hc
  rw [(h c hc).sameAs_self] at hself
  cases hself

/-- The matcher of a call gets a call, unless an earlier one is the same. -/
theorem contains_attributed (h : ∀ c ∈ calls, c.Comparable) {i : Nat} {d : Call} (hd : calls[i]? = some d) :
    ((attributed calls).map (·.2)).contains (some i) = !(calls.take i).any (·.sameAs d) := by
  obtain ⟨hi, rfl⟩ := List.getElem?_eq_some_iff.mp hd
  rw [Bool.eq_iff_iff, List.contains_iff_mem, attributed, List.map_map, List.mem_map, Bool.not_eq_true',
    List.any_eq_false]
  simp only [Function.comp_apply, List.findIdx?_eq_some_iff_getElem, List.mem_take_iff_getElem]
  constructor
  · rintro ⟨c, -, _, hic, hbefore⟩ b ⟨j, hj, rfl⟩ hb
    exact hbefore j (by omega) (Call.sameAs_trans hb hic)
  · intro hnone
    refine ⟨calls[i], List.getElem_mem hi, hi, (h _ (List.getElem_mem hi)).sameAs_self, fun j hj => ?_⟩
    exact hnone _ ⟨j, by omega, rfl⟩

/-- The matchers that get no call are those of repeated calls. -/
theorem idle_attributed (h : ∀ c ∈ calls, c.Comparable) :
    (((calls.map CallMatcher.exact).zipIdx.filter fun m => !((attributed calls).map (·.2)).contains (some m.2)).map
      (·.1)) = (Call.repeated calls).map .exact := by
  have hkeep : ∀ c ∈ calls.zipIdx, ((fun m : CallMatcher × Nat => !((attributed calls).map (·.2)).contains (some m.2)) ∘
      Prod.map CallMatcher.exact id) c = (calls.take c.2).any (·.sameAs c.1) := fun c hc => by
    rw [Function.comp_apply, Prod.map_snd, id, contains_attributed h (List.mem_zipIdx_iff_getElem?.mp hc), Bool.not_not]
  rw [List.zipIdx_map, List.filter_map, List.filter_congr hkeep, List.map_map, Call.repeated, List.map_map]
  rfl

theorem all_exact (h : ∀ c ∈ calls, c.Comparable) :
    verify .all (calls.map .exact) calls = .done (if (Call.repeated calls).isEmpty then .passed (calls.map Call.sequence)
      else .failed ("no call matched: " ++ matchersText ((Call.repeated calls).map .exact))) := by
  have hidle := idle_attributed h
  have hempty := congrArg List.isEmpty hidle
  simp only [List.isEmpty_map] at hempty
  have hsequences : (attributed calls).map (·.1.sequence) = calls.map Call.sequence := List.map_map
  unfold verify
  dsimp only [Request.all, all]
  rw [owners_exact]
  unfold allOutcome
  simp only [Probe.bind, stray_attributed h, hidle, hempty, hsequences, invert_false, List.isEmpty_nil]
  cases (Call.repeated calls).isEmpty <;> rfl

/-! ## All orders -/

/-- What happened is verified in every order but the complete one, and there exactly if no call repeats another. -/
theorem verify_exact (h : ∀ c ∈ calls, c.Comparable) :
    (∃ matched, verify .unordered (calls.map .exact) calls = .done (.passed matched)) ∧
    verify .ordered (calls.map .exact) calls = .done (.passed (calls.map Call.sequence)) ∧
    verify .sequence (calls.map .exact) calls = .done (.passed (calls.map Call.sequence)) ∧
    verify .all (calls.map .exact) calls = .done (if (Call.repeated calls).isEmpty then .passed (calls.map Call.sequence)
      else .failed ("no call matched: " ++ matchersText ((Call.repeated calls).map .exact))) :=
  ⟨unordered_exact h, ordered_exact h, sequence_exact h, all_exact h⟩

theorem verify_exact_different :
    verify .all ([serviceCall true 1, serviceCall false 2].map .exact) [serviceCall true 1, serviceCall false 2] =
      .done (.passed [1, 2]) :=
  (verify_exact (by decide)).2.2.2

/-- After the same call twice, a complete verification of both fails. -/
theorem verify_exact_twice :
    (∀ c ∈ [serviceCall true 1, serviceCall true 2], c.Comparable) ∧
    (({} : Store).probe (verify .all ([serviceCall true 1, serviceCall true 2].map .exact)
      [serviceCall true 1, serviceCall true 2])).1.isPassed = false := by
  decide

end Verification

end TestDouble
