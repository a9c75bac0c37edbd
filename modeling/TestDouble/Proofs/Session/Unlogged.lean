import TestDouble.Proofs.Chronicle.Confirming
import TestDouble.Proofs.Session.NotCalled

/-!
# Hidden calls as if they had not been logged

Verifications and confirmations read nothing of hidden calls. Without them in the logs they end the same, report the
same calls, and flag the same calls.
-/

namespace TestDouble

/-! ## Logs without some calls -/

namespace Stub

variable {x : Stub} {numbers : List Nat}

/-- The calls with these numbers are taken out of the log. -/
def without (numbers : List Nat) (x : Stub) : Stub :=
  { x with log := x.log.filter fun l => !numbers.contains l.call.sequence }

theorem visible_without (h : ∀ l ∈ x.log, l.call.sequence ∈ numbers → l.excluded = true) :
    (x.without numbers).visible = x.visible := by
  rw [visible, visible, without, List.filter_filter]
  refine congrArg _ (List.filter_congr fun l hl => ?_)
  by_cases hn : l.call.sequence ∈ numbers
  · rw [h l hl hn]
    rfl
  · simp [hn]

theorem unverified_without (h : ∀ l ∈ x.log, l.call.sequence ∈ numbers → l.excluded = true) :
    (x.without numbers).unverified = x.unverified := by
  rw [unverified, unverified, without, List.filter_filter]
  refine congrArg _ (List.filter_congr fun l hl => ?_)
  by_cases hn : l.call.sequence ∈ numbers
  · simp [h l hl hn]
  · simp [hn]

theorem markVerified_without (sequences numbers : List Nat) (x : Stub) :
    (x.without numbers).markVerified sequences = (x.markVerified sequences).without numbers := by
  rw [markVerified, without, without, markVerified, List.filter_map]
  congr 2
  refine List.filter_congr fun l _ => ?_
  rw [Function.comp_apply]
  split <;> rfl

end Stub

namespace Store

variable {s : Store} {numbers : List Nat}

/-- The calls with these numbers are taken out of all logs. -/
def without (numbers : List Nat) (s : Store) : Store :=
  { s with registry := ⟨s.registry.stubs.map (·.without numbers)⟩ }

/-- The calls with these numbers are hidden wherever they are logged. -/
def Conceals (s : Store) (numbers : List Nat) : Prop :=
  ∀ x ∈ s.registry.stubs, ∀ l ∈ x.log, l.call.sequence ∈ numbers → l.excluded = true

theorem stub?_without (numbers : List Nat) (s : Store) (mock : Nat) :
    (s.without numbers).registry.stub? mock = (s.registry.stub? mock).map (·.without numbers) := by
  rw [Registry.stub?, without, List.find?_map]
  rfl

theorem get_without (numbers : List Nat) (s : Store) (mock : Nat) :
    (s.without numbers).registry.get mock = (s.registry.get mock).map (·.without numbers) := by
  rw [Registry.get, stub?_without, Registry.get]
  cases s.registry.stub? mock <;> rfl

theorem linked_without (numbers : List Nat) (s : Store) (links : Links) (res : Resolution) :
    res.linked (s.without numbers).registry links = res.linked s.registry links := by
  induction res generalizing links with
  | nil => rfl
  | cons c cs ih =>
      have hchild (m : CallMatcher) : ((s.without numbers).registry.stub? m.target.id).bind (·.chainChild? m) =
          (s.registry.stub? m.target.id).bind (·.chainChild? m) := by
        rw [stub?_without]
        cases s.registry.stub? m.target.id <;> rfl
      simp only [Resolution.linked, ih, hchild]

theorem marked_without (mocks sequences numbers : List Nat) (s : Store) :
    (s.without numbers).marked mocks sequences = (s.marked mocks sequences).without numbers := by
  simp only [marked, without, List.map_map]
  refine congrArg (fun stubs => { s with registry := ⟨stubs⟩ }) (List.map_congr_left fun x _ => ?_)
  simp only [Function.comp_apply]
  have hid : (x.without numbers).id = x.id := rfl
  rw [hid]
  split
  · exact x.markVerified_without sequences numbers
  · rfl

end Store

/-- The world with these calls taken out of all logs. -/
def World.without {σ : Type} (numbers : List Nat) (w : World σ) : World σ := { w with store := w.store.without numbers }

namespace Act

variable {σ : Type} {w : World σ} {numbers : List Nat}

theorem mergedLog_without {s : Store} (h : s.Conceals numbers) (r : Request) (mocks : List Nat) :
    mergedLog (s.without numbers) r mocks = mergedLog s r mocks := by
  refine congrArg inOrder (List.flatMap_congr fun mock _ => ?_)
  rw [Store.stub?_without]
  cases hx : s.registry.stub? mock with
  | none => rfl
  | some x =>
      rw [Option.map_some, Option.map_some, Option.map_some, Stub.visible_without (h x (List.mem_of_find?_eq_some hx))]

/-! ## Verifications -/

theorem forM_stub_without (numbers : List Nat) (w : World σ) : (mocks : List Nat) →
    ∃ r, (mocks.forM fun mock => discard (stub mock) : Act σ MockError Unit).runOn w = (r, w) ∧
      (mocks.forM fun mock => discard (stub mock) : Act σ MockError Unit).runOn (w.without numbers) =
        (r, w.without numbers)
  | [] => ⟨.ok (), rfl, rfl⟩
  | mock :: mocks => by
      obtain ⟨r, hrun, hwithout⟩ := forM_stub_without numbers w mocks
      have hstub := runOn_discard_stub mock w
      have hstub' := runOn_discard_stub mock (w.without numbers)
      rw [World.without, Store.get_without] at hstub'
      cases hget : w.store.registry.get mock with
      | error e =>
          rw [hget] at hstub hstub'
          exact ⟨.error e, runOn_bind_error hstub, runOn_bind_error hstub'⟩
      | ok x =>
          rw [hget] at hstub hstub'
          exact ⟨r, (runOn_bind_ok hstub).trans hrun, (runOn_bind_ok hstub').trans hwithout⟩

/-- A verification ends the same, with the same report, and flags the same calls. -/
theorem evaluate_without (h : w.store.Conceals numbers) (r : Request) {res : Resolution} (hres : res.Pure)
    (notCalled : List ObjectRef) : (evaluate r res notCalled).runOn (w.without numbers) =
      (((evaluate r res notCalled).runOn w).1, ((evaluate r res notCalled).runOn w).2.without numbers) := by
  have hexpected : expected r res (w.without numbers).store = expected r res w.store := by
    rw [expected, World.without, Store.linked_without, expected]
  have hmocks : examinedMocks r res (w.without numbers).store notCalled = examinedMocks r res w.store notCalled := by
    rw [examinedMocks, hexpected, World.without, Store.linked_without, examinedMocks]
  rw [runOn_evaluate, runOn_evaluate, hexpected, hmocks]
  obtain ⟨found, hfound, hfound'⟩ := forM_stub_without numbers w (examinedMocks r res w.store notCalled)
  cases found with
  | error e =>
      rw [compare, runOn_bind_error hfound, runOn_bind_error hfound']
  | ok _ =>
      have hnotCalled : ∀ m ∈ notCalled.map CallMatcher.notCalled, Matcher.PureEach m.args := by
        intro m hm
        obtain ⟨o, -, rfl⟩ := List.mem_map.mp hm
        simp [CallMatcher.notCalled, Matcher.PureEach, Matcher.Pure]
      obtain ⟨o, ho, -⟩ := Verification.verifyWith_gives r
        (mergedLog w.store r (examinedMocks r res w.store notCalled)) (pureEach_expected hres) hnotCalled
      have hlog := mergedLog_without h r (examinedMocks r res w.store notCalled)
      have hstore : (w.without numbers).store = w.store.without numbers := rfl
      rw [runOn_compare ho hfound, runOn_compare (hlog ▸ ho) hfound', hstore, hlog, Store.marked_without]
      rfl

/-! ## Confirmations -/

theorem mapM_stub_without (numbers : List Nat) (w : World σ) : (mocks : List ObjectRef) →
    ∃ r : Except MockError (List Stub), (mocks.mapM fun o => stub o.id).runOn w = (r, w) ∧
      (mocks.mapM fun o => stub o.id).runOn (w.without numbers) =
        (r.map (List.map (·.without numbers)), w.without numbers) ∧
      ∀ stubs, r = .ok stubs → stubs ⊆ w.store.registry.stubs
  | [] => ⟨.ok [], rfl, rfl, fun stubs h => by cases h; exact List.nil_subset _⟩
  | o :: mocks => by
      obtain ⟨r, hrun, hwithout, hstubs⟩ := mapM_stub_without numbers w mocks
      have hstub := runOn_stub o.id w
      have hstub' := runOn_stub o.id (w.without numbers)
      rw [World.without, Store.get_without] at hstub'
      cases hget : w.store.registry.get o.id with
      | error e =>
          rw [hget] at hstub hstub'
          refine ⟨.error e, ?_, ?_, nofun⟩
          · rw [List.mapM_cons, runOn_bind_error hstub]
          · rw [List.mapM_cons]
            exact runOn_bind_error hstub'
      | ok x =>
          rw [hget] at hstub hstub'
          refine ⟨r.map (x :: ·), ?_, ?_, fun stubs h => ?_⟩
          · rw [List.mapM_cons, runOn_bind_ok hstub]
            cases r with
            | error e => exact runOn_bind_error hrun
            | ok stubs => exact runOn_bind_ok hrun
          · rw [List.mapM_cons]
            refine (runOn_bind_ok hstub').trans ?_
            cases r with
            | error e => exact runOn_bind_error hwithout
            | ok stubs => exact runOn_bind_ok hwithout
          · cases r with
            | error e => cases h
            | ok stubs' =>
                cases h
                have hx := List.mem_of_find?_eq_some (Registry.get_eq_ok.mp hget)
                exact List.cons_subset.mpr ⟨hx, hstubs stubs' rfl⟩

/-- A confirmation ends the same, and lists the same calls. -/
theorem confirmVerified_without (h : w.store.Conceals numbers) (mocks : List ObjectRef) :
    (confirmVerified mocks).runOn (w.without numbers) =
      (((confirmVerified mocks).runOn w).1, ((confirmVerified mocks).runOn w).2.without numbers) := by
  obtain ⟨r, hrun, hwithout, hstubs⟩ := mapM_stub_without numbers w mocks
  cases r with
  | error e => rw [confirmVerified, runOn_bind_error hrun, runOn_bind_error hwithout]
  | ok stubs =>
      have hunverified : (stubs.map (·.without numbers)).flatMap Stub.unverified = stubs.flatMap Stub.unverified := by
        rw [List.flatMap_map]
        exact List.flatMap_congr fun x hx => Stub.unverified_without (h x (hstubs stubs rfl hx))
      rw [confirmVerified, runOn_bind_ok hrun, runOn_bind_ok hwithout, hunverified]
      dsimp only
      split <;> rfl

end Act

end TestDouble
