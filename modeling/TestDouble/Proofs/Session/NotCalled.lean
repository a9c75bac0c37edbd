import TestDouble.Proofs.Chronicle.Confirming
import TestDouble.Proofs.Session.Expecting
import TestDouble.Proofs.Verification.Counted

/-!
# Mocks without calls

That some mocks were not called is one more condition on the logs, in every order. It brings the logs of these mocks
into the comparison, but where the condition holds there is nothing in them.
-/

namespace TestDouble

namespace Verification

variable {r : Request} {log : List Call} {m : CallMatcher} {ms : List CallMatcher} {mocks : List ObjectRef}

/-! ## Beside other matchers -/

theorem mem_distinct_append_left : {ms : List CallMatcher} → (ns : List CallMatcher) → m ∈ distinct ms →
    m ∈ distinct (ms ++ ns)
  | a :: ms, ns, h => by
      rw [List.cons_append, distinct]
      rcases List.mem_cons.mp h with rfl | h
      · exact List.mem_cons_self
      · obtain ⟨hm, hshape⟩ := List.mem_filter.mp h
        exact List.mem_cons_of_mem _ (List.mem_filter.mpr ⟨mem_distinct_append_left ns hm, hshape⟩)

theorem mem_distinct_append : {ms ns : List CallMatcher} → m ∈ distinct (ms ++ ns) → m ∈ distinct ms ∨ m ∈ ns
  | [], _, h => .inr (mem_distinct h)
  | a :: ms, ns, h => by
      rw [List.cons_append, distinct] at h
      rw [distinct]
      rcases List.mem_cons.mp h with rfl | h
      · exact .inl List.mem_cons_self
      · obtain ⟨hm, hshape⟩ := List.mem_filter.mp h
        exact (mem_distinct_append hm).imp_left fun hm => List.mem_cons_of_mem _ (List.mem_filter.mpr ⟨hm, hshape⟩)

theorem suited_of_isNotCalled (h : m.isNotCalled = true) :
    Suited r log m ↔ ∀ c ∈ log, c.target.id ≠ m.target.id := by
  rw [Suited, if_pos h]

/-- A mock without calls that stands among the matchers already is not a condition more. -/
theorem forall_distinct_notCalled (ms : List CallMatcher) (mocks : List ObjectRef) :
    (∀ m ∈ distinct (ms ++ mocks.map .notCalled), Suited r log m) ↔
      (∀ m ∈ distinct ms, Suited r log m) ∧ ∀ o ∈ mocks, ∀ c ∈ log, c.target.id ≠ o.id := by
  constructor
  · refine fun h => ⟨fun m hm => h m (mem_distinct_append_left _ hm), fun o ho => ?_⟩
    obtain ⟨n, hn, hshape⟩ := exists_distinct (List.mem_append_right ms (List.mem_map_of_mem (f := .notCalled) ho))
    have hnotCalled : n.isNotCalled = true := CallMatcher.isNotCalled_of_sameShape hshape
    have htarget : n.target.id = o.id := (CallMatcher.sameShape_iff.mp hshape).1
    exact htarget ▸ (suited_of_isNotCalled hnotCalled).mp (h n hn)
  · rintro ⟨hms, hmocks⟩ m hm
    rcases mem_distinct_append hm with hm | hm
    · exact hms m hm
    · obtain ⟨o, ho, rfl⟩ := List.mem_map.mp hm
      exact (suited_of_isNotCalled rfl).mpr (hmocks o ho)

theorem called_eq_false_iff {calls : List Call} :
    called mocks calls = false ↔ ∀ o ∈ mocks, ∀ c ∈ calls, c.target.id ≠ o.id := by
  rw [called, List.any_eq_false]
  refine forall₂_congr fun o _ => ?_
  rw [Bool.not_eq_true, List.any_eq_false]
  exact forall₂_congr fun c _ => not_congr (ObjectRef.beq_iff.trans eq_comm)

/-- Of the same calls, in every order: the matchers have to agree with them, and none of them may be on these mocks. -/
theorem verifyWith_notCalled (hr : r.inverse = false) (hp : ∀ m ∈ ms, Matcher.PureEach m.args) (mocks : List ObjectRef)
    (log : List Call) : ∃ both alone,
      verifyWith r ms (mocks.map .notCalled) log = .done both ∧ verifyWith r ms [] log = .done alone ∧
      (both.isPassed = true ↔ alone.isPassed = true ∧ ∀ o ∈ mocks, ∀ c ∈ log, c.target.id ≠ o.id) := by
  have hpure : ∀ m ∈ ms ++ mocks.map .notCalled, Matcher.PureEach m.args := by
    intro m hm
    rcases List.mem_append.mp hm with hm | hm
    · exact hp m hm
    · obtain ⟨o, -, rfl⟩ := List.mem_map.mp hm
      simp [CallMatcher.notCalled, Matcher.PureEach, Matcher.Pure]
  by_cases horder : r.order = .unordered
  · simp only [verifyWith, verify, horder, List.append_nil, unordered_eq r hp, unordered_eq r hpure]
    refine ⟨_, _, rfl, rfl, ?_⟩
    simp only [isPassed_unordered, hr, iff_true]
    exact forall_distinct_notCalled ms mocks
  · obtain ⟨o, ho⟩ := verify_pure r log hp
    obtain ⟨refuted, hrefuted, hcalled⟩ := refuted?_notCalled log mocks
    simp only [verifyWith, if_neg horder, ho, Probe.bind, hr, Bool.or_false, hrefuted, refuted?]
    rw [← called_eq_false_iff, ← hcalled]
    cases hpassed : o.isPassed with
    | false => exact ⟨o, o, rfl, rfl, by simp [hpassed]⟩
    | true =>
        cases refuted with
        | none => exact ⟨o, o, rfl, rfl, by simp [hpassed]⟩
        | some reason => exact ⟨.failed reason, o, rfl, rfl, by simp [Outcome.isPassed]⟩

/-! ## The mocks that are examined -/

theorem mem_targets {n : Nat} : {ms : List CallMatcher} → (n ∈ targets ms ↔ ∃ m ∈ ms, m.target.id = n)
  | [] => by simp [targets]
  | m :: ms => by
      rw [targets, List.mem_cons, List.mem_filter, mem_targets, List.exists_mem_cons_iff]
      by_cases hn : n = m.target.id
      · simp [hn]
      · simp [hn, Ne.symm hn]

theorem targets_append : (ms ns : List CallMatcher) →
    targets (ms ++ ns) = targets ms ++ (targets ns).filter (!(targets ms).contains ·)
  | [], ns => by
      rw [targets, List.nil_append, List.nil_append]
      exact (List.filter_eq_self.mpr fun _ _ => rfl).symm
  | m :: ms, ns => by
      rw [List.cons_append, targets, targets, targets_append ms ns, List.filter_append, List.cons_append,
        List.filter_filter]
      congr 2
      refine List.filter_congr fun n _ => ?_
      by_cases hn : n = m.target.id <;> simp [hn]

end Verification

/-! ## The calls that are examined -/

namespace Act

variable {σ : Type} {w : World σ} {s : Store} {r : Request} {res : Resolution} {mocks mocks' : List Nat}
  {notCalled : List ObjectRef}

/-- The calls of a mock that a request examines. -/
def examinedOn (s : Store) (r : Request) (mock : Nat) : List Call :=
  (((s.registry.stub? mock).map Stub.visible).getD []).filter fun c => r.window.contains c.sequence

theorem mem_examinedOn {mock : Nat} {c : Call} : c ∈ examinedOn s r mock ↔
    ∃ x, s.registry.stub? mock = some x ∧
      ∃ l ∈ x.log, l.excluded = false ∧ r.window.contains l.call.sequence = true ∧ l.call = c := by
  rw [examinedOn, List.mem_filter]
  cases hx : s.registry.stub? mock with
  | none => simp
  | some x =>
      simp only [Option.map_some, Option.getD_some, Stub.visible, List.mem_map, List.mem_filter, Bool.not_eq_true']
      constructor
      · rintro ⟨⟨l, ⟨hl, hvisible⟩, rfl⟩, hwindow⟩
        exact ⟨x, rfl, l, hl, hvisible, hwindow, rfl⟩
      · rintro ⟨y, hy, l, hl, hvisible, hwindow, rfl⟩
        cases hy
        exact ⟨⟨l, ⟨hl, hvisible⟩, rfl⟩, hwindow⟩

theorem mem_mergedLog {c : Call} : c ∈ mergedLog s r mocks ↔ ∃ mock ∈ mocks, c ∈ examinedOn s r mock :=
  (inOrder_perm _).mem_iff.trans List.mem_flatMap

theorem mergedLog_append (h : ∀ mock ∈ mocks', examinedOn s r mock = []) :
    mergedLog s r (mocks ++ mocks') = mergedLog s r mocks := by
  have hnil : mocks'.flatMap (examinedOn s r) = [] := List.flatMap_eq_nil_iff.mpr h
  exact congrArg inOrder (List.flatMap_append.trans ((congrArg (_ ++ ·) hnil).trans (List.append_nil _)))

theorem examinedOn_target (h : s.CallsAtHome) {mock : Nat} {c : Call} (hc : c ∈ examinedOn s r mock) :
    c.target.id = mock := by
  obtain ⟨x, hx, l, hl, -, -, rfl⟩ := mem_examinedOn.mp hc
  rw [h x (List.mem_of_find?_eq_some hx) l hl, Registry.id_of_stub? hx]

/-! ## Comparing a block with the calls -/

/-- What has to agree with the calls: links of chains only where every call counts. -/
def expected (r : Request) (res : Resolution) (s : Store) : List CallMatcher :=
  match r.order with
  | .unordered | .ordered => (res.linked s.registry []).1.topLevel.matchers
  | .sequence | .all => (res.linked s.registry []).1.matchers

/-- The mock is registered and no detached link of the block. -/
def Live (res : Resolution) (s : Store) (mock : Nat) : Prop :=
  (s.registry.stub? mock).isSome ∧ mock ∉ (res.linked s.registry []).2

/-- The mocks whose calls are examined. -/
def examinedMocks (r : Request) (res : Resolution) (s : Store) (notCalled : List ObjectRef) : List Nat :=
  (Verification.targets (expected r res s ++ notCalled.map .notCalled)).filter
    (!(res.linked s.registry []).2.contains ·)

theorem pureEach_expected (hres : res.Pure) : ∀ m ∈ expected r res s, Matcher.PureEach m.args := by
  have hlinked := hres.linked s.registry []
  unfold expected
  split
  · exact hlinked.topLevel.matchers
  · exact hlinked.topLevel.matchers
  · exact hlinked.matchers
  · exact hlinked.matchers

theorem runOn_evaluate (w : World σ) (r : Request) (res : Resolution) (notCalled : List ObjectRef) :
    (evaluate r res notCalled).runOn w = (compare r (expected r res w.store) (notCalled.map .notCalled)
      (examinedMocks r res w.store notCalled)).runOn w := runOn_bind_ok (runOn_get w)

theorem runOn_evaluate_ok {o : Outcome}
    (ho : Verification.verifyWith r (expected r res w.store) (notCalled.map .notCalled)
      (mergedLog w.store r (examinedMocks r res w.store notCalled)) = .done o)
    (hmocks : ∀ mock ∈ examinedMocks r res w.store notCalled, (w.store.registry.stub? mock).isSome) :
    ∃ report w', (evaluate r res notCalled).runOn w = (.ok report, w') ∧ report.passed = o.isPassed :=
  ⟨_, _, (runOn_evaluate w r res notCalled).trans (runOn_compare ho (runOn_forM_stub hmocks)), rfl⟩

/-- What is examined besides are mocks that should have no calls. -/
theorem examinedMocks_append (r : Request) (res : Resolution) (s : Store) (notCalled : List ObjectRef) :
    ∃ more, examinedMocks r res s notCalled = examinedMocks r res s [] ++ more ∧
      ∀ mock ∈ more, ∃ o ∈ notCalled, o.id = mock := by
  have happend : examinedMocks r res s notCalled = examinedMocks r res s [] ++
      ((Verification.targets (notCalled.map .notCalled)).filter
        (!(Verification.targets (expected r res s)).contains ·)).filter (!(res.linked s.registry []).2.contains ·) := by
    rw [examinedMocks, Verification.targets_append, List.filter_append, examinedMocks, List.map_nil, List.append_nil]
  refine ⟨_, happend, fun mock hmock => ?_⟩
  have hmem := (List.mem_filter.mp (List.mem_filter.mp hmock).1).1
  obtain ⟨m, hm, rfl⟩ := Verification.mem_targets.mp hmem
  obtain ⟨o, ho, rfl⟩ := List.mem_map.mp hm
  exact ⟨o, ho, rfl⟩

theorem mem_examinedMocks {o : ObjectRef} (ho : o ∈ notCalled) (hlive : Live res s o.id) :
    o.id ∈ examinedMocks r res s notCalled := by
  refine List.mem_filter.mpr ⟨Verification.mem_targets.mpr ⟨.notCalled o, ?_, rfl⟩, ?_⟩
  · exact List.mem_append_right _ (List.mem_map_of_mem ho)
  · simpa using hlive.2

/-- All examined mocks are registered. -/
theorem isSome_examinedMocks
    (hlive : ∀ m ∈ expected r res s, m.target.id ∉ (res.linked s.registry []).2 → Live res s m.target.id)
    (hnotCalled : ∀ o ∈ notCalled, Live res s o.id) :
    ∀ mock ∈ examinedMocks r res s notCalled, (s.registry.stub? mock).isSome := by
  intro mock hmock
  obtain ⟨htargets, hattached⟩ := List.mem_filter.mp hmock
  obtain ⟨m, hm, rfl⟩ := Verification.mem_targets.mp htargets
  rcases List.mem_append.mp hm with hm | hm
  · exact (hlive m hm (by simpa using hattached)).1
  · obtain ⟨o, ho, rfl⟩ := List.mem_map.mp hm
    exact (hnotCalled o ho).1

theorem evaluate_notCalled_of_home (hr : r.inverse = false) (hres : res.Pure) (hhome : w.store.CallsAtHome)
    (hlive : ∀ m ∈ expected r res w.store, m.target.id ∉ (res.linked w.store.registry []).2 →
      Live res w.store m.target.id)
    (hnotCalled : ∀ o ∈ notCalled, Live res w.store o.id) :
    ∃ both alone w₁ w₂, (evaluate r res notCalled).runOn w = (.ok both, w₁) ∧
      (evaluate r res []).runOn w = (.ok alone, w₂) ∧
      (both.passed = true ↔ alone.passed = true ∧ ∀ o ∈ notCalled, examinedOn w.store r o.id = []) := by
  have hp := pureEach_expected (r := r) (s := w.store) hres
  obtain ⟨-, a, -, ha, -⟩ := Verification.verifyWith_notCalled hr hp []
    (mergedLog w.store r (examinedMocks r res w.store []))
  obtain ⟨alone, w₂, hrunAlone, halone⟩ := runOn_evaluate_ok ha (isSome_examinedMocks hlive nofun)
  obtain ⟨b, b', hb, hb', hboth⟩ := Verification.verifyWith_notCalled hr hp notCalled
    (mergedLog w.store r (examinedMocks r res w.store notCalled))
  obtain ⟨both, w₁, hrunBoth, hpassed⟩ := runOn_evaluate_ok hb (isSome_examinedMocks hlive hnotCalled)
  refine ⟨both, alone, w₁, w₂, hrunBoth, hrunAlone, ?_⟩
  rw [hpassed, halone, hboth]
  by_cases hsilent : ∀ o ∈ notCalled, examinedOn w.store r o.id = []
  · -- the same calls are examined with and without the mocks that should have none
    obtain ⟨more, hmore, hmem⟩ := examinedMocks_append r res w.store notCalled
    have hlog : mergedLog w.store r (examinedMocks r res w.store notCalled) =
        mergedLog w.store r (examinedMocks r res w.store []) := by
      rw [hmore]
      refine mergedLog_append fun mock hmock => ?_
      obtain ⟨o, ho, rfl⟩ := hmem mock hmock
      exact hsilent o ho
    rw [hlog] at hb' ⊢
    cases hb'.symm.trans ha
    refine and_congr_right fun _ => iff_of_true (fun o ho c hc htarget => ?_) hsilent
    obtain ⟨mock, -, hc⟩ := mem_mergedLog.mp hc
    rw [← examinedOn_target hhome hc, htarget, hsilent o ho] at hc
    cases hc
  · refine iff_of_false (fun h => hsilent fun o ho => ?_) fun h => hsilent h.2
    refine List.eq_nil_iff_forall_not_mem.mpr fun c hc => ?_
    exact h.2 o ho c (mem_mergedLog.mpr ⟨o.id, mem_examinedMocks ho (hnotCalled o ho), hc⟩) (examinedOn_target hhome hc)

end Act

namespace Program

variable {μ σ : Type}

/-- Wherever a program has control, in every order, and whatever time there is: a block and mocks that should have no
calls pass together if the block passes alone and none of these mocks has a visible call in the window. -/
theorem notCalled_is_one_more_condition (p : Program μ) (hp : p.Manages) {w₀ : World μ} (hw₀ : w₀.Fresh) {t : Chronicle}
    (w : World σ) (hseen : (.seen w.store :: t) <:+ p.chronicle w₀) {r : Request} (hr : r.inverse = false)
    {res : Resolution} (hres : res.Pure) {notCalled : List ObjectRef}
    (hlive : ∀ m ∈ Act.expected r res w.store, m.target.id ∉ (res.linked w.store.registry []).2 →
      Act.Live res w.store m.target.id)
    (hnotCalled : ∀ o ∈ notCalled, Act.Live res w.store o.id) :
    ∃ both alone w₁ w₂, (Act.evaluate r res notCalled).runOn w = (.ok both, w₁) ∧
      (Act.evaluate r res []).runOn w = (.ok alone, w₂) ∧
      (both.passed = true ↔ alone.passed = true ∧ ∀ o ∈ notCalled, ∀ x, w.store.registry.stub? o.id = some x →
        ∀ l ∈ x.log, l.excluded = false → r.window.contains l.call.sequence = false) := by
  have hagrees : Chronicle.Agrees t w.store := ((p.chronicle_sound hp hw₀).1.of_suffix hseen).1
  obtain ⟨both, alone, w₁, w₂, hboth, halone, hpassed⟩ :=
    Act.evaluate_notCalled_of_home hr hres hagrees.wellLogged.home hlive hnotCalled
  refine ⟨both, alone, w₁, w₂, hboth, halone, hpassed.trans (and_congr_right fun _ => forall₂_congr fun o _ => ?_)⟩
  rw [List.eq_nil_iff_forall_not_mem]
  constructor
  · intro h x hx l hl hvisible
    exact Bool.eq_false_iff.mpr fun hwindow => h l.call (Act.mem_examinedOn.mpr ⟨x, hx, l, hl, hvisible, hwindow, rfl⟩)
  · intro h c hc
    obtain ⟨x, hx, l, hl, hvisible, hwindow, -⟩ := Act.mem_examinedOn.mp hc
    exact Bool.eq_false_iff.mp (h x hx l hl hvisible) hwindow

/-- The third call is hidden, so it does not count as a call on the server; the others do. -/
theorem notCalled_is_one_more_condition_pings :
    let w : World Unit := { sessions := [{ generator := .ofSeed none }], depth := 1, memory := () }
    let v := (pings.run.runOn { w with memory := { memory := w.memory } }).2
    let server : ObjectRef := ⟨1, "Server"⟩
    let pinged : Resolution :=
      [⟨⟨server, { name := "ping", params := [.int], returns := .unit }, [.any]⟩, .unit, none, false⟩]
    (∃ both alone w₁ w₂, (Act.evaluate ((Request.ordered.since 3).until_ 4) pinged [server]).runOn v = (.ok both, w₁) ∧
      (Act.evaluate ((Request.ordered.since 3).until_ 4) pinged []).runOn v = (.ok alone, w₂) ∧
      (both.passed = true ↔ alone.passed = true)) ∧
    ∃ both w₁, (Act.evaluate .unordered pinged [server]).runOn v = (.ok both, w₁) ∧ both.passed = false := by
  intro w v server pinged
  have hlogs : (v.store.registry.stub? 1).map (fun x => x.log.map fun l => (l.call.sequence, l.excluded)) =
      some [(2, false), (3, true), (4, false)] := by decide +kernel
  have hw : w.Fresh := .of_empty rfl fun _ hs => by cases List.mem_singleton.mp hs; rfl
  obtain ⟨t, ht⟩ := pings.exists_chronicle w
  have hv : pings.chronicle w = .seen v.store :: t := ht
  -- from here on the run must not be unfolded
  clear_value v w
  have hseen : (.seen v.store :: t) <:+ pings.chronicle w := hv ▸ List.suffix_refl _
  obtain ⟨x, hx, hlog⟩ := Option.map_eq_some_iff.mp hlogs
  have hpure : pinged.Pure := by simp [pinged, Resolution.Pure, Matcher.PureEach, Matcher.Pure]
  have hlive : Act.Live pinged v.store 1 := ⟨by rw [hx]; rfl, List.not_mem_nil⟩
  have hnotCalled : ∀ o ∈ [server], Act.Live pinged v.store o.id := by simpa [server] using hlive
  have hexpected (r : Request) : ∀ m ∈ Act.expected r pinged v.store,
      m.target.id ∉ (pinged.linked v.store.registry []).2 → Act.Live pinged v.store m.target.id := by
    intro m hm _
    have hmatchers : Act.expected r pinged v.store = pinged.matchers := by
      unfold Act.expected
      cases r.order <;> rfl
    rw [hmatchers] at hm
    cases List.mem_singleton.mp hm
    exact hlive
  have hflags : ∀ l ∈ x.log, (l.call.sequence, l.excluded) ∈ [(2, false), (3, true), (4, false)] :=
    fun l hl => hlog ▸ List.mem_map_of_mem hl
  obtain ⟨both, alone, w₁, w₂, hboth, halone, hpassed⟩ := notCalled_is_one_more_condition pings pings_manages hw v hseen
    (rfl : ((Request.ordered.since 3).until_ 4).inverse = false) hpure (hexpected _) hnotCalled
  obtain ⟨both', alone', w₁', w₂', hboth', -, hpassed'⟩ := notCalled_is_one_more_condition pings pings_manages hw v
    hseen (rfl : Request.unordered.inverse = false) hpure (hexpected _) hnotCalled
  refine ⟨⟨both, alone, w₁, w₂, hboth, halone, hpassed.trans (and_iff_left ?_)⟩, both', w₁', hboth', ?_⟩
  · intro o ho y hy l hl hvisible
    cases List.mem_singleton.mp ho
    cases hx.symm.trans hy
    have hflag := hflags l hl
    simp only [hvisible, List.mem_cons, Prod.mk.injEq, and_true, Bool.false_eq_true, and_false, List.not_mem_nil,
      or_false, false_or] at hflag
    rcases hflag with h | h <;> rw [h] <;> rfl
  · refine Bool.eq_false_iff.mpr fun h => ?_
    have hsecond : (2, false) ∈ x.log.map fun l => (l.call.sequence, l.excluded) := hlog ▸ List.mem_cons_self
    obtain ⟨l, hl, hflag⟩ := List.mem_map.mp hsecond
    exact nomatch (hpassed'.mp h).2 server List.mem_cons_self x hx l hl (congrArg Prod.snd hflag)

end Program

end TestDouble
