import TestDouble.Proofs.Session.Halfway
import TestDouble.Proofs.Session.Verifying

/-!
# Verifying a single expectation

An unordered verification of one matcher counts the calls on its mock. A detached mock has none.
-/

namespace TestDouble

namespace Act

variable {σ : Type} {w : World σ} {i : Nat} {req : Request} {res : Resolution} {m : CallMatcher} {t : ObjectRef}
  {mocks : List Nat}

/-- On a single mock the order of the calls does not matter. -/
theorem countP_mergedLog {s : Store} {id : Nat} {stub : Stub} (hstub : s.registry.stub? id = some stub)
    (p : Call → Bool) : (mergedLog s req [id]).countP p =
      stub.visible.countP fun c => req.window.contains c.sequence && p c := by
  rw [mergedLog, (inOrder_perm _).countP_eq, List.flatMap_singleton, hstub, Option.map_some, Option.getD_some,
    List.countP_filter]
  exact List.countP_congr fun c _ => by rw [Bool.and_comm]

theorem runOn_forM_stub (h : ∀ mock ∈ mocks, (w.store.registry.stub? mock).isSome) :
    (mocks.forM fun mock => discard (stub mock) : Act σ MockError Unit).runOn w = (.ok (), w) := by
  induction mocks with
  | nil => rfl
  | cons mock mocks ih =>
      obtain ⟨s, hs⟩ := Option.isSome_iff_exists.mp (h mock List.mem_cons_self)
      have hstub : (discard (stub mock) : Act σ MockError Unit).runOn w = (.ok (), w) := by
        rw [runOn_discard_stub, Registry.get_eq_ok.mpr hs]
        rfl
      exact (runOn_bind_ok hstub).trans (ih fun mock hmock => h mock (List.mem_cons_of_mem _ hmock))

/-- Where all mocks are there, a comparison reports its outcome, and flags what has been matched. -/
theorem runOn_compare {o : Outcome} {expected notCalled : List CallMatcher}
    (ho : Verification.verifyWith req expected notCalled (mergedLog w.store req mocks) = .done o)
    (hmocks : (mocks.forM fun mock => discard (stub mock) : Act σ MockError Unit).runOn w = (.ok (), w)) :
    (compare req expected notCalled mocks).runOn w =
      (.ok (.of req o (expected ++ notCalled) (mergedLog w.store req mocks)),
        { w with store := w.store.marked mocks o.matched }) := by
  let attempts := req.attempts w.settings.pollInterval
  have hlook : (onStore (verifyRepeatedly req mocks expected notCalled (attempts - 1)) :
      Act σ MockError (Outcome × List Call)).runOn w = (.ok (o, mergedLog w.store req mocks), w) := by
    rw [runOn_onStore, verifyRepeatedly_eq ho]
  rw [← Store.foldl_markVerified]
  exact (runOn_bind_ok hmocks).trans ((runOn_bind_ok (runOn_get w)).trans
    ((runOn_bind_ok hlook).trans (runOn_bind_ok (runOn_modifyStore _ w))))

/-- A single expectation is judged by the calls on its mock, or by none if that is detached. -/
theorem compare_one (horder : req.order = .unordered) (hinverse : req.inverse = false)
    (hp : Matcher.PureEach m.args) (hmocks : ∀ mock ∈ mocks, (w.store.registry.stub? mock).isSome) :
    ∃ report w', (compare req [m] [] mocks).runOn w = (.ok report, w') ∧
      report.passed = Verification.countSuits req m ((mergedLog w.store req mocks).countP m.admits) ∧
      report.actual = (mergedLog w.store req mocks).map fun c => ⟨c.sequence, c.text⟩ := by
  obtain ⟨o, ho, hpassed⟩ := Verification.unordered_one hinverse hp (mergedLog w.store req mocks)
  have hverify : Verification.verifyWith req [m] [] (mergedLog w.store req mocks) = .done o := by
    rw [Verification.verifyWith, if_pos horder, Verification.verify, horder]
    exact ho
  exact ⟨_, _, runOn_compare hverify (runOn_forM_stub hmocks), hpassed, rfl⟩

/-- What a verification of a single expectation looks at. -/
structure Expects (i : Nat) (w : World σ) (req : Request) (res : Resolution) (m : CallMatcher) : Prop where
  phase : (w.session i).phase = .verifying
  request : (w.session i).request = some req
  resolution : (w.session i).resolution = some res
  notCalled : (w.session i).notCalled = []
  order : req.order = .unordered
  inverse : req.inverse = false
  matchers : (res.linked w.store.registry []).1.topLevel.matchers = [m]
  pure : Matcher.PureEach m.args

/-- The mock of the expectation, unless it is detached. -/
def examined (w : World σ) (res : Resolution) (m : CallMatcher) : List Nat :=
  [m.target.id].filter (!(res.linked w.store.registry []).2.contains ·)

theorem Expects.runOn_finalize (h : Expects i w req res m) : (finalizeVerification i).runOn w =
    (compare req [m] [] (examined w res m) >>= fun report =>
      if report.passed then return report else throw (.verificationFailed report) : Act σ MockError Report).runOn
        (w.modifySession i Session.cleared) := by
  have htake : (takeVerification i "finalize_verification").runOn w = _ := runOn_takeVerification h.phase h.resolution
  rw [h.request, h.notCalled] at htake
  rw [finalizeVerification, runOn_bind_ok htake]
  dsimp only [Option.getD_some]
  have hevaluate : (evaluate req res [] : Act σ MockError Report).runOn (w.modifySession i Session.cleared) =
      (compare req [m] [] (examined w res m)).runOn (w.modifySession i Session.cleared) := by
    rw [evaluate, runOn_bind_ok (runOn_get _), compare, World.store_modifySession, h.order]
    dsimp only
    rw [h.matchers]
    rfl
  rw [runOn_bind, runOn_bind, hevaluate]

theorem Expects.judged (h : Expects i w req res m)
    (hmocks : ∀ mock ∈ examined w res m, (w.store.registry.stub? mock).isSome) : ∃ report : Report,
      report.passed =
        Verification.countSuits req m ((mergedLog w.store req (examined w res m)).countP m.admits) ∧
      report.actual = (mergedLog w.store req (examined w res m)).map (fun c => ⟨c.sequence, c.text⟩) ∧
      ((finalizeVerification i).runOn w).1 =
        if report.passed then .ok report else .error (.verificationFailed report) := by
  obtain ⟨report, w', hrun, hpassed, hactual⟩ :=
    compare_one (w := w.modifySession i Session.cleared) h.order h.inverse h.pure hmocks
  refine ⟨report, hpassed, hactual, ?_⟩
  rw [h.runOn_finalize, runOn_bind_ok hrun]
  split <;> rfl

theorem Expects.unknown (h : Expects i w req res m) (hmocks : examined w res m = [t.id])
    (hgone : w.store.registry.stub? t.id = none) : ((finalizeVerification i).runOn w).1 = .error (.unknown t.id) := by
  have hstub : (discard (stub t.id) : Act σ MockError Unit).runOn (w.modifySession i Session.cleared) =
      (.error (.unknown t.id), w.modifySession i Session.cleared) := by
    rw [runOn_discard_stub, World.store_modifySession, Registry.get, hgone]
    rfl
  have hcompare : (compare req [m] [] [t.id]).runOn (w.modifySession i Session.cleared) =
      (.error (.unknown t.id), w.modifySession i Session.cleared) :=
    runOn_bind_error (runOn_bind_error hstub)
  rw [h.runOn_finalize, hmocks, runOn_bind_error hcompare]

end Act

end TestDouble
