import TestDouble.Proofs.Matcher.Pure
import TestDouble.Proofs.Matcher.SameShape
import TestDouble.Store

/-!
# Matched calls

What a verification reports as matched are calls of the log, whatever its predicates do. With pure matchers it has
its outcome at once.
-/

namespace TestDouble

namespace Probe

variable {α β : Type} {p : Probe α} {P : α → Prop} {Q : β → Prop}

/-! ## Whatever it is told -/

/-- The answer is as `P` says, whatever the probe is told. -/
def Always (P : α → Prop) : Probe α → Prop
  | done a => P a
  | callCount _ next => ∀ n, (next n).Always P
  | clearAnswers _ next => ∀ b, (next b).Always P
  | tally _ next => ∀ n, (next n).Always P

theorem Always.bind {f : α → Probe β} (h : p.Always P) (hf : ∀ a, P a → (f a).Always Q) : (p.bind f).Always Q := by
  induction p with
  | done a => exact hf a h
  | callCount _ next ih => exact fun n => ih n (h n)
  | clearAnswers _ next ih => exact fun b => ih b (h b)
  | tally _ next ih => exact fun n => ih n (h n)

theorem Always.mono {P' : α → Prop} (h : p.Always P) (hP : ∀ a, P a → P' a) : p.Always P' := by
  induction p with
  | done a => exact hP a h
  | callCount _ next ih => exact fun n => ih n (h n)
  | clearAnswers _ next ih => exact fun b => ih b (h b)
  | tally _ next ih => exact fun n => ih n (h n)

theorem always_true (p : Probe α) : p.Always fun _ => True := by
  induction p with
  | done a => trivial
  | callCount _ next ih => exact ih
  | clearAnswers _ next ih => exact ih
  | tally _ next ih => exact ih

theorem filter_always (p : α → Probe Bool) : (as : List α) → (Probe.filter p as).Always (· ⊆ as)
  | [] => List.nil_subset _
  | a :: as => by
      refine (always_true (p a)).bind fun b _ => (filter_always p as).bind fun kept hkept => ?_
      cases b with
      | true => exact List.cons_subset_cons a hkept
      | false => exact List.subset_cons_of_subset a hkept

/-- What is found stands at its position. -/
theorem findIdx?_always (p : α → Probe Bool) :
    (as : List α) → (Probe.findIdx? p as).Always fun found => ∀ f, found = some f → as[f.1]? = some f.2
  | [] => fun _ h => nomatch h
  | a :: as => by
      refine (always_true (p a)).bind fun b _ => ?_
      cases b with
      | true =>
          rintro _ ⟨⟩
          rfl
      | false =>
          refine (findIdx?_always p as).bind fun found hfound => ?_
          rintro _ h
          obtain ⟨f, hf, rfl⟩ := Option.map_eq_some_iff.mp h
          exact hfound f hf

/-! ## At once -/

/-- The probe asks for nothing, and its answer is as `P` says. -/
def Gives (P : α → Prop) (p : Probe α) : Prop := ∃ a, p = .done a ∧ P a

theorem Pure.gives (h : p.Pure) (ha : p.Always P) : p.Gives P := by
  obtain ⟨a, rfl⟩ := h
  exact ⟨a, rfl, ha⟩

theorem Pure.filter {p : α → Probe Bool} : {as : List α} → (∀ a ∈ as, (p a).Pure) → (Probe.filter p as).Pure
  | [], _ => .done _
  | a :: _, h => (h a List.mem_cons_self).bind fun _ =>
      (Pure.filter fun b hb => h b (List.mem_cons_of_mem a hb)).bind fun _ => .done _

theorem Pure.findIdx? {p : α → Probe Bool} : {as : List α} → (∀ a ∈ as, (p a).Pure) → (Probe.findIdx? p as).Pure
  | [], _ => .done _
  | a :: _, h => (h a List.mem_cons_self).bind fun _ =>
      .ite (.done _) ((Pure.findIdx? fun b hb => h b (List.mem_cons_of_mem a hb)).bind fun _ => .done _)

end Probe

theorem Store.probe_always {α : Type} {P : α → Prop} {p : Probe α} (h : p.Always P) (s : Store) : P (s.probe p).1 := by
  induction p generalizing s with
  | done a => exact h
  | callCount _ next ih => exact ih _ (h _) s
  | clearAnswers mock next ih => exact ih _ (h _) (s.clearAnswers mock)
  | tally counter next ih => exact ih _ (h _) (s.countTally counter)

theorem CallMatcher.test_pure {m : CallMatcher} (h : Matcher.PureEach m.args) (c : Call) : (m.test c).Pure :=
  ⟨_, test_eq_admits h c⟩

theorem CallMatcher.filter_test {m : CallMatcher} (h : Matcher.PureEach m.args) (calls : List Call) :
    Probe.filter m.test calls = .done (calls.filter m.admits) :=
  Probe.filter_eq fun c _ => test_eq_admits h c

/-- All that is reported as matched are calls of the log. -/
def Outcome.MatchesIn (o : Outcome) (calls : List Call) : Prop := ∀ n ∈ o.matched, ∃ c ∈ calls, c.sequence = n

theorem Outcome.MatchesIn.failed (reason : String) (calls : List Call) : (Outcome.failed reason).MatchesIn calls :=
  fun _ hn => absurd hn List.not_mem_nil

theorem Outcome.matchesIn_passed {cs calls : List Call} (h : cs ⊆ calls) :
    (Outcome.passed (cs.map Call.sequence)).MatchesIn calls := fun n hn => by
  obtain ⟨c, hc, rfl⟩ := List.mem_map.mp hn
  exact ⟨c, h hc, rfl⟩

theorem Outcome.MatchesIn.invert {o : Outcome} {calls : List Call} (inverse : Bool) (ms : List CallMatcher)
    (h : o.MatchesIn calls) : (Verification.invert inverse ms o).MatchesIn calls := by
  cases o <;> cases inverse
  · exact h
  · exact .failed _ calls
  · exact h
  · exact fun n hn => absurd hn List.not_mem_nil

namespace Verification

variable {r : Request} {ms : List CallMatcher} {calls : List Call}

/-! ## What is matched -/

theorem hits_always (calls : List Call) :
    (ms : List CallMatcher) → (hits calls ms).Always fun hs => ∀ h ∈ hs, h.2 ⊆ calls
  | [] => fun _ h => absurd h List.not_mem_nil
  | m :: ms => by
      refine (Probe.filter_always m.test calls).bind fun accepted haccepted =>
        (hits_always calls ms).bind fun rest hrest => ?_
      exact List.forall_mem_cons.mpr ⟨haccepted, hrest⟩

theorem unordered_always (r : Request) (ms : List CallMatcher) (calls : List Call) :
    (unordered r ms calls).Always (·.MatchesIn calls) := by
  refine (hits_always calls (distinct ms)).bind fun hs hhs => ?_
  change (unorderedOutcome r hs).MatchesIn calls
  unfold unorderedOutcome
  dsimp only
  split
  · intro n hn
    cases hi : r.inverse with
    | true => simp [hi, Outcome.matched] at hn
    | false =>
        simp only [hi, Outcome.matched, Bool.false_eq_true, ↓reduceIte] at hn
        obtain ⟨h, hh, hn⟩ := List.mem_flatMap.mp hn
        exact Outcome.matchesIn_passed (hhs h hh) n hn
  · exact .failed _ calls

theorem earliest_always : (ms : List CallMatcher) → (start : Nat) → (before : Option Call) → (calls : List Call) →
    (earliest start before ms calls).Always fun found => ∀ fs, found = .ok fs → fs.map (·.2) ⊆ calls
  | [], _, _, _ => fun fs h => by cases h; exact List.nil_subset _
  | m :: ms, start, before, calls => by
      refine (Probe.findIdx?_always m.test calls).bind fun found hmem => ?_
      cases found with
      | none => exact fun fs h => by cases h
      | some f =>
          refine (earliest_always ms _ _ _).bind fun rest hrest => ?_
          intro fs hfs
          cases rest with
          | error e => cases hfs
          | ok rest =>
              cases hfs
              have hsub := List.Subset.trans (hrest rest rfl) (List.drop_subset _ calls)
              exact List.cons_subset.mpr ⟨List.mem_of_getElem? (hmem f rfl), hsub⟩

theorem ordered_always (r : Request) (ms : List CallMatcher) (calls : List Call) :
    (ordered r ms calls).Always (·.MatchesIn calls) := by
  refine (earliest_always ms 0 none calls).bind fun found hfound => Outcome.MatchesIn.invert _ _ ?_
  cases found with
  | error reason => exact .failed reason calls
  | ok fs =>
      have hsequences : fs.map (·.2.sequence) = (fs.map (·.2)).map Call.sequence := (List.map_map).symm
      dsimp only
      rw [hsequences]
      exact Outcome.matchesIn_passed (hfound fs rfl)

theorem alignedRun?_always (ms : List CallMatcher) :
    (calls : List Call) → (alignedRun? ms calls).Always fun run => ∀ cs, run = some cs → cs ⊆ calls
  | [] => fun cs h => by
      split at h <;> cases h
      exact List.nil_subset _
  | c :: cs => by
      rw [alignedRun?]
      split
      · refine (Probe.always_true (aligned ms (c :: cs))).bind fun b _ => ?_
        cases b with
        | true => exact fun _ h => by cases h; exact List.take_subset _ _
        | false => exact (alignedRun?_always ms cs).mono fun run hsub ds h => List.subset_cons_of_subset c (hsub ds h)
      · exact fun _ h => by cases h

theorem sequence_always (r : Request) (ms : List CallMatcher) (calls : List Call) :
    (sequence r ms calls).Always (·.MatchesIn calls) := by
  refine (alignedRun?_always ms calls).bind fun run hrun => ?_
  cases run with
  | some cs => exact Outcome.MatchesIn.invert _ _ (Outcome.matchesIn_passed (hrun cs rfl))
  | none =>
      refine (Probe.always_true (earliest 0 none ms calls)).bind fun found _ => Outcome.MatchesIn.invert _ _ ?_
      cases found <;> exact .failed _ calls

theorem owners_always (ms : List CallMatcher) :
    (calls : List Call) → (owners ms calls).Always fun os => os.map (·.1) = calls
  | [] => rfl
  | c :: cs => (Probe.always_true _).bind fun _ _ => (owners_always ms cs).bind fun _ hrest => congrArg (c :: ·) hrest

theorem all_always (r : Request) (ms : List CallMatcher) (calls : List Call) :
    (all r ms calls).Always (·.MatchesIn calls) := by
  refine (owners_always ms calls).bind fun os hos => Outcome.MatchesIn.invert _ _ ?_
  unfold allOutcome
  dsimp only
  split
  · exact .failed _ calls
  · split
    · exact .failed _ calls
    · have hsequences : os.map (·.1.sequence) = (os.map (·.1)).map Call.sequence := (List.map_map).symm
      rw [hsequences]
      exact Outcome.matchesIn_passed (hos ▸ List.Subset.refl _)

theorem verify_always (r : Request) (ms : List CallMatcher) (calls : List Call) :
    (verify r ms calls).Always (·.MatchesIn calls) := by
  unfold verify
  split
  · exact unordered_always r ms calls
  · exact ordered_always r ms calls
  · exact sequence_always r ms calls
  · exact all_always r ms calls

/-- Whatever the predicates do, all that is reported as matched are calls of the log. -/
theorem verifyWith_always (r : Request) (ms notCalled : List CallMatcher) (calls : List Call) :
    (verifyWith r ms notCalled calls).Always (·.MatchesIn calls) := by
  unfold verifyWith
  split
  · exact verify_always r _ calls
  · refine (verify_always r ms calls).bind fun o ho => ?_
    split
    · exact ho
    · refine (Probe.always_true (refuted? calls notCalled)).bind fun refuted _ => ?_
      cases refuted with
      | some reason => exact .failed reason calls
      | none => exact ho

/-! ## Pure matchers -/

theorem hits_eq : {ms : List CallMatcher} → (∀ m ∈ ms, Matcher.PureEach m.args) →
    hits calls ms = .done (ms.map fun m => (m, calls.filter m.admits))
  | [], _ => rfl
  | m :: ms, hp => by
      rw [hits, CallMatcher.filter_test (hp m List.mem_cons_self), hits_eq fun n hn => hp n (List.mem_cons_of_mem m hn)]
      rfl

theorem unordered_eq (r : Request) (hp : ∀ m ∈ ms, Matcher.PureEach m.args) (calls : List Call) : unordered r ms calls =
    .done (unorderedOutcome r ((distinct ms).map fun m => (m, calls.filter m.admits))) := by
  rw [unordered, hits_eq fun m hm => hp m (mem_distinct hm)]
  rfl

theorem hits_pure (calls : List Call) (ms : List CallMatcher) (hp : ∀ m ∈ ms, Matcher.PureEach m.args) :
    (hits calls ms).Pure := by
  rw [hits_eq hp]
  exact .done _

theorem isPassed_unorderedOutcome (r : Request) (hs : List (CallMatcher × List Call)) :
    (unorderedOutcome r hs).isPassed = hs.all fun h => countSuits r h.1 h.2.length != r.inverse := by
  unfold unorderedOutcome
  dsimp only
  cases ha : hs.all fun h => countSuits r h.1 h.2.length != r.inverse with
  | true =>
      have hnone : (hs.filter fun h => countSuits r h.1 h.2.length == r.inverse) = [] :=
        List.filter_eq_nil_iff.mpr fun h hh heq => bne_iff_ne.mp (List.all_eq_true.mp ha h hh) (beq_iff_eq.mp heq)
      rw [hnone]
      rfl
  | false =>
      obtain ⟨h, hh, hwrong⟩ := List.all_eq_false.mp ha
      have hmem : h ∈ hs.filter fun h => countSuits r h.1 h.2.length == r.inverse :=
        List.mem_filter.mpr ⟨hh, by simpa using hwrong⟩
      rw [List.isEmpty_eq_false_iff_exists_mem.mpr ⟨h, hmem⟩]
      rfl

/-- A single matcher is judged by the number of calls that it admits. -/
theorem unordered_one {r : Request} {m : CallMatcher} (hinverse : r.inverse = false) (hp : Matcher.PureEach m.args)
    (calls : List Call) : ∃ o, unordered r [m] calls = .done o ∧
      o.isPassed = countSuits r m (calls.countP m.admits) := by
  refine ⟨unorderedOutcome r [(m, calls.filter m.admits)], unordered_eq r (by simpa using hp) calls, ?_⟩
  rw [isPassed_unorderedOutcome, List.all_cons, List.all_nil, Bool.and_true, hinverse, Bool.bne_false,
    List.countP_eq_length_filter]

theorem earliest_pure : (ms : List CallMatcher) → (∀ m ∈ ms, Matcher.PureEach m.args) →
    (start : Nat) → (before : Option Call) → (calls : List Call) → (earliest start before ms calls).Pure
  | [], _, _, _, _ => .done _
  | m :: ms, hp, start, before, calls => by
      refine (Probe.Pure.findIdx? fun c _ => CallMatcher.test_pure (hp m List.mem_cons_self) c).bind fun found => ?_
      cases found with
      | none => exact .done _
      | some f => exact (earliest_pure ms (fun n hn => hp n (List.mem_cons_of_mem m hn)) _ _ _).bind fun _ => .done _

theorem aligned_pure : (ms : List CallMatcher) → (∀ m ∈ ms, Matcher.PureEach m.args) → (calls : List Call) →
    (aligned ms calls).Pure
  | [], _, _ => .done _
  | _ :: _, _, [] => .done _
  | m :: ms, hp, c :: cs => (CallMatcher.test_pure (hp m List.mem_cons_self) c).bind fun _ =>
      .ite (aligned_pure ms (fun n hn => hp n (List.mem_cons_of_mem m hn)) cs) (.done _)

theorem alignedRun?_pure (hp : ∀ m ∈ ms, Matcher.PureEach m.args) : (calls : List Call) → (alignedRun? ms calls).Pure
  | [] => .done _
  | c :: cs => by
      rw [alignedRun?]
      split
      · exact (aligned_pure ms hp (c :: cs)).bind fun _ => .ite (.done _) (alignedRun?_pure hp cs)
      · exact .done _

theorem owners_pure (hp : ∀ m ∈ ms, Matcher.PureEach m.args) : (calls : List Call) → (owners ms calls).Pure
  | [] => .done _
  | c :: cs => (Probe.Pure.findIdx? fun m hm => CallMatcher.test_pure (hp m hm) c).bind fun _ =>
      (owners_pure hp cs).bind fun _ => .done _

theorem verify_pure (r : Request) (calls : List Call) (hp : ∀ m ∈ ms, Matcher.PureEach m.args) :
    (verify r ms calls).Pure := by
  unfold verify
  split
  · exact (hits_pure calls _ fun m hm => hp m (mem_distinct hm)).bind fun _ => .done _
  · exact (earliest_pure ms hp 0 none calls).bind fun _ => .done _
  · refine (alignedRun?_pure hp calls).bind fun run => ?_
    cases run with
    | some _ => exact .done _
    | none => exact (earliest_pure ms hp 0 none calls).bind fun _ => .done _
  · exact (owners_pure hp calls).bind fun _ => .done _

theorem refuted?_pure (calls : List Call) : (ms : List CallMatcher) → (∀ m ∈ ms, Matcher.PureEach m.args) →
    (refuted? calls ms).Pure
  | [], _ => .done _
  | m :: ms, hp => (Probe.Pure.filter fun c _ => CallMatcher.test_pure (hp m List.mem_cons_self) c).bind fun _ =>
      .ite (refuted?_pure calls ms fun n hn => hp n (List.mem_cons_of_mem m hn)) (.done _)

theorem verifyWith_gives (r : Request) {notCalled : List CallMatcher} (calls : List Call)
    (hp : ∀ m ∈ ms, Matcher.PureEach m.args) (hn : ∀ m ∈ notCalled, Matcher.PureEach m.args) :
    (verifyWith r ms notCalled calls).Gives (·.MatchesIn calls) := by
  refine Probe.Pure.gives ?_ (verifyWith_always r ms notCalled calls)
  unfold verifyWith
  split
  · exact verify_pure r calls fun m hm => (List.mem_append.mp hm).elim (hp m) (hn m)
  · refine (verify_pure r calls hp).bind fun o => .ite (.done o) ?_
    refine (refuted?_pure calls notCalled hn).bind fun refuted => ?_
    cases refuted <;> exact .done _

end Verification

end TestDouble
