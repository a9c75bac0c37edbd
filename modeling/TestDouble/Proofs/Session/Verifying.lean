import TestDouble.Proofs.Recording.PureRounds
import TestDouble.Proofs.Session.Ensures
import TestDouble.Proofs.Session.Rounds
import TestDouble.Proofs.Verification.Matched

/-!
# Verifying a recorded block

With pure matchers a verification looks at the log once, whatever time it is given. All it does to the mocks is to
flag the logged calls that it has matched.
-/

namespace TestDouble

/-! ## Flagged calls -/

theorem Stub.markVerified_idem (s : Stub) (sequences : List Nat) :
    (s.markVerified sequences).markVerified sequences = s.markVerified sequences := by
  simp only [markVerified, List.map_map]
  congr 1
  refine List.map_congr_left fun l _ => ?_
  simp only [Function.comp_apply]
  split <;> rfl

/-- Logged calls with other numbers are left alone. -/
theorem Stub.markVerified_of_forall {s : Stub} {sequences : List Nat} (h : ∀ l ∈ s.log, l.call.sequence ∉ sequences) :
    s.markVerified sequences = s := by
  have hlog : (s.log.map fun l => if sequences.contains l.call.sequence then { l with verified := true } else l) =
      s.log := by
    refine (List.map_congr_left fun l hl => ?_).trans (List.map_id s.log)
    exact if_neg fun hc => h l hl (List.contains_iff_mem.mp hc)
  rw [markVerified, hlog]

namespace Store

/-- The logged calls with these numbers are flagged, on these mocks. -/
def marked (s : Store) (mocks sequences : List Nat) : Store :=
  { s with registry := ⟨s.registry.stubs.map fun stub =>
      if stub.id ∈ mocks then stub.markVerified sequences else stub⟩ }

variable {s : Store} {mocks sequences : List Nat}

/-- Each mock in turn is flagged once, even if it is listed more often. -/
theorem foldl_markVerified (mocks sequences : List Nat) (s : Store) :
    mocks.foldl (fun s mock => s.modify mock (·.markVerified sequences)) s = s.marked mocks sequences := by
  induction mocks generalizing s with
  | nil => simp [marked]
  | cons mock mocks ih =>
      rw [List.foldl_cons, ih]
      simp only [marked, modify, Registry.modify, List.map_map]
      refine congrArg (fun stubs => { s with registry := ⟨stubs⟩ }) (List.map_congr_left fun stub _ => ?_)
      simp only [Function.comp_apply, beq_iff_eq, List.mem_cons]
      by_cases hid : stub.id = mock
      · have hsame : (stub.markVerified sequences).id = stub.id := rfl
        by_cases hmem : stub.id ∈ mocks
        · simp only [hid, ↓reduceIte, hsame, hid ▸ hmem, or_true, Stub.markVerified_idem]
        · simp only [hid, ↓reduceIte, hsame, hid ▸ hmem, or_false]
      · simp only [hid, ↓reduceIte, false_or]

theorem marked_nil (s : Store) (mocks : List Nat) : s.marked mocks [] = s := by
  have hstubs : (s.registry.stubs.map fun stub => if stub.id ∈ mocks then stub.markVerified [] else stub) =
      s.registry.stubs.map id := List.map_congr_left fun stub _ => by
    split
    · exact Stub.markVerified_of_forall fun _ _ => List.not_mem_nil
    · rfl
  rw [marked, hstubs, List.map_id]

theorem Spent.marked {s' : Store} (h : s.Spent s') (mocks sequences : List Nat) :
    (s.marked mocks sequences).Spent (s'.marked mocks sequences) := by
  obtain ⟨n, k, hn, rfl⟩ := h
  exact ⟨n, k, hn, rfl⟩

/-- No two mocks have logged calls of the same number. -/
def NumbersApart (s : Store) : Prop :=
  ∀ a ∈ s.registry.stubs, ∀ b ∈ s.registry.stubs, ∀ x ∈ a.log, ∀ y ∈ b.log,
    x.call.sequence = y.call.sequence → a.id = b.id

end Store

namespace Act

/-! ## The examined log -/

theorem insertCall_perm (c : Call) : (calls : List Call) → (insertCall c calls).Perm (c :: calls)
  | [] => .refl _
  | d :: ds => by
      rw [insertCall]
      split
      · exact .refl _
      · exact ((insertCall_perm c ds).cons d).trans (.swap c d ds)

theorem inOrder_perm (calls : List Call) : (inOrder calls).Perm calls := by
  induction calls with
  | nil => exact .refl _
  | cons c calls ih => exact (insertCall_perm c _).trans (ih.cons c)

theorem insertCall_sorted {c : Call} : {calls : List Call} → calls.Pairwise (·.sequence ≤ ·.sequence) →
    (insertCall c calls).Pairwise (·.sequence ≤ ·.sequence)
  | [], _ => List.pairwise_singleton _ _
  | d :: ds, h => by
      rw [insertCall]
      split
      case isTrue hle =>
        refine List.pairwise_cons.mpr ⟨List.forall_mem_cons.mpr ⟨hle, fun e he => ?_⟩, h⟩
        exact Nat.le_trans hle (List.rel_of_pairwise_cons h he)
      case isFalse hlt =>
        refine List.pairwise_cons.mpr ⟨fun e he => ?_, insertCall_sorted h.of_cons⟩
        rcases List.mem_cons.mp ((insertCall_perm c ds).mem_iff.mp he) with rfl | he
        · exact Nat.le_of_not_le hlt
        · exact List.rel_of_pairwise_cons h he

theorem inOrder_sorted (calls : List Call) : (inOrder calls).Pairwise (·.sequence ≤ ·.sequence) := by
  induction calls with
  | nil => exact .nil
  | cons c calls ih => exact insertCall_sorted ih

/-- Calls with different numbers are put in the order of their numbers. -/
theorem inOrder_increasing {calls : List Call} (h : (calls.map (·.sequence)).Nodup) :
    ((inOrder calls).map (·.sequence)).Pairwise (· < ·) := by
  have hnodup : ((inOrder calls).map (·.sequence)).Nodup := ((inOrder_perm calls).map _).nodup_iff.mpr h
  exact ((List.pairwise_map.mpr (inOrder_sorted calls)).and hnodup).imp fun h => Nat.lt_of_le_of_ne h.1 h.2

/-- Calls are examined on the mocks that are asked for. -/
theorem exists_logged {s : Store} {r : Request} {mocks : List Nat} {c : Call} (hc : c ∈ mergedLog s r mocks) :
    ∃ stub ∈ s.registry.stubs, stub.id ∈ mocks ∧ ∃ l ∈ stub.log, l.call = c := by
  obtain ⟨mock, hmock, hc⟩ := List.mem_flatMap.mp ((inOrder_perm _).mem_iff.mp hc)
  have hvisible := (List.mem_filter.mp hc).1
  cases hstub : s.registry.stub? mock with
  | none =>
      rw [hstub] at hvisible
      exact absurd hvisible List.not_mem_nil
  | some stub =>
      rw [hstub] at hvisible
      obtain ⟨l, hl, hcall⟩ := List.mem_map.mp hvisible
      exact ⟨stub, List.mem_of_find?_eq_some hstub, (Registry.id_of_stub? hstub).symm ▸ hmock, l,
        (List.mem_filter.mp hl).1, hcall⟩

/-- The numbers of matched calls then say which calls are flagged, wherever they have been logged. -/
theorem marked_eq {s : Store} {r : Request} {mocks sequences : List Nat} (hapart : s.NumbersApart)
    (hsequences : ∀ n ∈ sequences, ∃ c ∈ mergedLog s r mocks, c.sequence = n) :
    s.marked mocks sequences = { s with registry := ⟨s.registry.stubs.map (·.markVerified sequences)⟩ } := by
  refine congrArg (fun stubs => { s with registry := ⟨stubs⟩ }) (List.map_congr_left fun stub hstub => ?_)
  split
  · rfl
  · rename_i hother
    refine (Stub.markVerified_of_forall fun l hl hn => ?_).symm
    obtain ⟨c, hc, hcn⟩ := hsequences _ hn
    obtain ⟨stub', hstub', hmock, l', hl', rfl⟩ := exists_logged hc
    exact hother (hapart stub hstub stub' hstub' l hl l' hl' hcn.symm ▸ hmock)

/-! ## Evaluating -/

variable {σ ε α β : Type}

theorem runOn_map (f : α → β) (x : Act σ ε α) (w : World σ) :
    (f <$> x).runOn w = ((x.runOn w).1.map f, (x.runOn w).2) := by
  rw [map_eq_pure_bind, runOn_bind]
  rcases x.runOn w with ⟨_ | _, w⟩ <;> rfl

theorem runOn_discard_stub (mock : Nat) (w : World σ) : (discard (stub mock) : Act σ MockError Unit).runOn w =
    ((w.store.registry.get mock).map fun _ => (), w) := by
  have hrun : (discard (stub mock) : Act σ MockError Unit).runOn w = _ := runOn_map (fun _ => ()) (stub mock) w
  rw [hrun, runOn_stub]

/-- Looking again finds the same. -/
theorem verifyRepeatedly_eq {s : Store} {r : Request} {mocks : List Nat} {expected notCalled : List CallMatcher}
    {o : Outcome} (h : Verification.verifyWith r expected notCalled (mergedLog s r mocks) = .done o) (n : Nat) :
    verifyRepeatedly r mocks expected notCalled n s = ((o, mergedLog s r mocks), s) := by
  induction n with
  | zero =>
      rw [verifyRepeatedly, h]
      rfl
  | succ n ih =>
      rw [verifyRepeatedly, h]
      simp only [Store.probe, ih, ite_self]

theorem forM_stub_ensures {w : World σ} : (mocks : List Nat) →
    (mocks.forM fun mock => discard (stub mock) : Act σ MockError Unit).Ensures w (fun _ w' => w' = w)
      fun _ w' => w' = w
  | [] => .pure rfl
  | mock :: mocks => by
      have hstub : (discard (stub mock) : Act σ MockError Unit).Ensures w (fun _ w' => w' = w) fun _ w' => w' = w := by
        refine Ensures.of_world (P := fun w' => w' = w) ?_
        rw [runOn_discard_stub]
      exact .bind (hstub.mono (fun _ w₁ hw₁ => hw₁ ▸ forM_stub_ensures mocks) fun _ _ h => h)

/-- Compare expectations with the calls on these mocks, and flag what has been matched. -/
def compare (r : Request) (expected notCalled : List CallMatcher) (mocks : List Nat) : Act σ MockError Report := do
  mocks.forM fun mock => discard (stub mock)
  let attempts := r.attempts (← get).settings.pollInterval
  let (outcome, log) ← onStore (verifyRepeatedly r mocks expected notCalled (attempts - 1))
  modifyStore fun s => mocks.foldl (fun s mock => s.modify mock (·.markVerified outcome.matched)) s
  return .of r outcome (expected ++ notCalled) log

/-- What is reported is the outcome for the examined log, and the matched calls are flagged. -/
def Compared (r : Request) (w : World σ) (report : Report) (w' : World σ) : Prop :=
  ∃ expected notCalled mocks outcome, mocks ⊆ Verification.targets (expected ++ notCalled) ∧
    Verification.verifyWith r expected notCalled (mergedLog w.store r mocks) = .done outcome ∧
    outcome.MatchesIn (mergedLog w.store r mocks) ∧
    report = .of r outcome (expected ++ notCalled) (mergedLog w.store r mocks) ∧
    w' = { w with store := w.store.marked mocks outcome.matched }

theorem compare_ensures {r : Request} {expected notCalled : List CallMatcher} {mocks : List Nat} {w : World σ}
    (hexpected : ∀ m ∈ expected, Matcher.PureEach m.args) (hnotCalled : ∀ m ∈ notCalled, Matcher.PureEach m.args)
    (hmocks : mocks ⊆ Verification.targets (expected ++ notCalled)) :
    (compare r expected notCalled mocks).Ensures w (Compared r w) fun _ w' => w' = w := by
  refine .bind ((forM_stub_ensures mocks).mono (fun _ w₁ hw₁ => ?_) fun _ _ h => h)
  subst hw₁
  obtain ⟨o, ho, hmatches⟩ := Verification.verifyWith_gives r (mergedLog w₁.store r mocks) hexpected hnotCalled
  refine .bind (.get (.bind (.of_ok (runOn_onStore _ w₁) ?_)))
  rw [verifyRepeatedly_eq ho]
  refine .bind (.of_ok (runOn_modifyStore _ w₁) (.pure ?_))
  rw [Store.foldl_markVerified]
  exact ⟨expected, notCalled, mocks, o, hmocks, ho, hmatches, rfl, rfl⟩

theorem evaluate_ensures {r : Request} {res : Resolution} (notCalled : List ObjectRef) (hres : res.Pure) (w : World σ) :
    (evaluate r res notCalled).Ensures w (Compared r w) fun _ w' => w' = w := by
  have hlinked := hres.linked w.store.registry []
  refine .bind (.get (compare_ensures ?_ (fun m hm => ?_) fun _ h => (List.mem_filter.mp h).1))
  · split
    · exact hlinked.topLevel.matchers
    · exact hlinked.topLevel.matchers
    · exact hlinked.matchers
    · exact hlinked.matchers
  · obtain ⟨o, -, rfl⟩ := List.mem_map.mp hm
    simp [CallMatcher.notCalled, Matcher.PureEach, Matcher.Pure]

end Act

end TestDouble
