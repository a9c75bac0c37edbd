import TestDouble.Proofs.Session.NotCalled
import TestDouble.Proofs.Session.PendingPrograms

/-!
# Nothing left to confirm

A verification in which every call counts flags all the calls that it looks at. Once it has passed, its mocks have no
call left that would have to be confirmed.
-/

namespace TestDouble

namespace Verification

variable {r : Request}

/-- Where every call counts, passing means to have matched every call. -/
theorem all_matches (hr : r.inverse = false) (ms : List CallMatcher) (calls : List Call) :
    (all r ms calls).Always fun o => o.isPassed = true → o.matched = calls.map Call.sequence := by
  refine (owners_always ms calls).bind fun os hos => ?_
  change (invert r.inverse ms (allOutcome ms os)).isPassed = true → _
  rw [hr, invert_false]
  unfold allOutcome
  dsimp only
  split
  · exact nofun
  · split
    · exact nofun
    · exact fun _ => hos ▸ (List.map_map).symm

theorem verifyWith_all_matches (horder : r.order = .all) (hr : r.inverse = false) (ms notCalled : List CallMatcher)
    (calls : List Call) : (verifyWith r ms notCalled calls).Always fun o =>
      o.isPassed = true → o.matched = calls.map Call.sequence := by
  have hnot : r.order ≠ .unordered := by rw [horder]; decide
  rw [verifyWith, if_neg hnot, verify, horder]
  refine (all_matches hr ms calls).bind fun o ho => ?_
  split
  · exact ho
  · refine (Probe.always_true (refuted? calls notCalled)).bind fun refuted _ => ?_
    cases refuted with
    | some reason => exact fun hpassed => Bool.noConfusion hpassed
    | none => exact ho

end Verification

/-! ## Flagged stubs -/

/-- No visible call is left where all of them are flagged. -/
theorem Stub.unverified_markVerified {x : Stub} {sequences : List Nat} (h : ∀ c ∈ x.visible, c.sequence ∈ sequences) :
    (x.markVerified sequences).unverified = [] := by
  rw [unverified, List.map_eq_nil_iff, List.filter_eq_nil_iff]
  intro l hl hleft
  obtain ⟨k, hk, rfl⟩ := List.mem_map.mp hl
  split at hleft
  · exact Bool.false_ne_true hleft
  · rename_i hnot
    obtain ⟨-, hvisible⟩ := Bool.and_eq_true_iff.mp hleft
    exact hnot (List.contains_iff_mem.mpr (h k.call (List.mem_map_of_mem (List.mem_filter.mpr ⟨hk, hvisible⟩))))

namespace Store

variable {s s' : Store} {mock : Nat} {mocks : List Nat}

theorem SameLogs.log? (h : s.SameLogs s') (mock : Nat) :
    (s'.registry.stub? mock).map Stub.log = (s.registry.stub? mock).map Stub.log := by
  have hread : ∀ s : Store, (s.registry.stub? mock).map Stub.log =
      ((s.registry.stubs.map fun x => (x.id, x.log)).find? (·.1 == mock)).map (·.2) := fun s => by
    rw [List.find?_map, Option.map_map]
    rfl
  rw [hread, hread, h.stubs]

theorem SameLogs.visible? (h : s.SameLogs s') (mock : Nat) :
    (s'.registry.stub? mock).map Stub.visible = (s.registry.stub? mock).map Stub.visible := by
  have hread : ∀ x? : Option Stub, x?.map Stub.visible =
      (x?.map Stub.log).map fun log => (log.filter (!·.excluded)).map (·.call) := fun x? => by
    rw [Option.map_map]
    rfl
  rw [hread, hread, h.log?]

theorem SameLogs.isSome_stub? (h : s.SameLogs s') (mock : Nat) :
    (s'.registry.stub? mock).isSome = (s.registry.stub? mock).isSome := by
  have hlog := congrArg Option.isSome (h.log? mock)
  rwa [Option.isSome_map, Option.isSome_map] at hlog

theorem stub?_marked (hmock : mock ∈ mocks) (sequences : List Nat) : (s.marked mocks sequences).registry.stub? mock =
    (s.registry.stub? mock).map (·.markVerified sequences) := by
  have hid : ∀ x : Stub, (if x.id ∈ mocks then x.markVerified sequences else x).id = x.id := fun x => by
    split <;> rfl
  simp only [marked, Registry.stub?, List.find?_map, Function.comp_def, hid]
  cases hx : s.registry.stubs.find? (·.id == mock) with
  | none => rfl
  | some x =>
      have hx : x.id = mock := Registry.id_of_stub? hx
      exact congrArg some (if_pos (hx ▸ hmock))

end Store

namespace Act

variable {σ : Type} {s s' : Store} {r : Request} {mocks : List Nat}

theorem mergedLog_sameLogs (h : s.SameLogs s') (r : Request) (mocks : List Nat) :
    mergedLog s' r mocks = mergedLog s r mocks := by
  simp only [mergedLog, h.visible?]

/-- Once all examined calls are flagged, the mocks have none left. -/
theorem unverified_marked (hwindow : r.window = {}) {objects : List ObjectRef} (h : ∀ o ∈ objects, o.id ∈ mocks) :
    unverified (s.marked mocks ((mergedLog s r mocks).map Call.sequence)) objects = [] := by
  refine List.eq_nil_iff_forall_not_mem.mpr fun c hc => ?_
  obtain ⟨mock, hmock, hc⟩ := List.mem_flatMap.mp ((inOrder_perm _).mem_iff.mp hc)
  obtain ⟨o, ho, rfl⟩ := List.mem_map.mp hmock
  rw [Store.stub?_marked (h o ho)] at hc
  cases hx : s.registry.stub? o.id with
  | none =>
      rw [hx] at hc
      exact List.not_mem_nil hc
  | some x =>
      have hflagged : ∀ d ∈ x.visible, d.sequence ∈ (mergedLog s r mocks).map Call.sequence := by
        intro d hd
        refine List.mem_map_of_mem (mem_mergedLog.mpr ⟨o.id, h o ho, ?_⟩)
        rw [examinedOn, hx, hwindow]
        exact List.mem_filter.mpr ⟨hd, rfl⟩
      rw [hx, Option.map_some, Option.map_some, Option.getD_some, Stub.unverified_markVerified hflagged] at hc
      exact List.not_mem_nil hc

theorem runOn_confirmVerified_marked {w : World σ}
    (hstore : w.store = s.marked mocks ((mergedLog s r mocks).map Call.sequence)) (hwindow : r.window = {})
    (hregistered : ∀ mock ∈ mocks, (s.registry.stub? mock).isSome) {objects : List ObjectRef}
    (h : ∀ o ∈ objects, o.id ∈ mocks) : (confirmVerified objects).runOn w = (.ok (), w) := by
  have hlive : ∀ o ∈ objects, w.store.registry.contains o.id = true := fun o ho => by
    rw [hstore, Registry.contains_eq_isSome, Store.stub?_marked (h o ho), Option.isSome_map]
    exact hregistered o.id (h o ho)
  rw [runOn_confirmVerified hlive, hstore, unverified_marked hwindow h]
  rfl

/-! ## Comparing -/

theorem forM_stub_registered {w : World σ} (mocks : List Nat) :
    (mocks.forM fun mock => discard (stub mock) : Act σ MockError Unit).Ensures w
      (fun _ w' => w' = w ∧ ∀ mock ∈ mocks, (w.store.registry.stub? mock).isSome) fun _ _ => True := by
  induction mocks with
  | nil => exact .pure ⟨rfl, nofun⟩
  | cons mock mocks ih =>
      have hstub := runOn_discard_stub mock w
      cases hx : w.store.registry.stub? mock with
      | none =>
          rw [Registry.get, hx] at hstub
          exact .bind (.of_error hstub trivial)
      | some x =>
          rw [Registry.get_eq_ok.mpr hx] at hstub
          refine .bind (.of_ok hstub (ih.mono (fun _ w' h => ⟨h.1, List.forall_mem_cons.mpr ⟨?_, h.2⟩⟩) fun _ _ h => h))
          rw [hx]
          rfl

/-- Looking leaves the logs alone; if it passes in the end, it has matched all that it has looked at. -/
theorem verifyRepeatedly_matches_all (horder : r.order = .all) (hinverse : r.inverse = false) (mocks : List Nat)
    (expected notCalled : List CallMatcher) (n : Nat) (s : Store) :
    let looked := verifyRepeatedly r mocks expected notCalled n s
    s.SameLogs looked.2 ∧
      (looked.1.1.isPassed = true → looked.1.1.matched = (mergedLog looked.2 r mocks).map Call.sequence) := by
  obtain ⟨s', hs', hlook⟩ := exists_lastLook (P := s.SameLogs) (fun s p hs => hs.trans (Store.probe_sameLogs p s))
    r mocks expected notCalled n (.refl s)
  dsimp only
  rw [hlook]
  have hprobed := Store.probe_sameLogs (Verification.verifyWith r expected notCalled (mergedLog s' r mocks)) s'
  refine ⟨hs'.trans hprobed, fun hpassed => ?_⟩
  rw [mergedLog_sameLogs hprobed]
  exact Store.probe_always (Verification.verifyWith_all_matches horder hinverse expected notCalled _) s' hpassed

/-- After a comparison that has passed, confirming finds nothing, whatever the predicates have done. -/
theorem compare_discharges {w : World σ} {expected notCalled : List CallMatcher} (horder : r.order = .all)
    (hinverse : r.inverse = false) (hwindow : r.window = {}) : (compare r expected notCalled mocks).Ensures w
      (fun report w' => report.passed = true → ∀ objects : List ObjectRef, (∀ o ∈ objects, o.id ∈ mocks) →
        (confirmVerified objects).runOn w' = (.ok (), w')) fun _ _ => True := by
  refine .bind ((forM_stub_registered mocks).mono (fun _ w₁ h => ?_) fun _ _ h => h)
  obtain ⟨rfl, hregistered⟩ := h
  refine .bind (.get (.bind (.of_ok (runOn_onStore _ w₁) ?_)))
  obtain ⟨hlogs, hmatched⟩ := verifyRepeatedly_matches_all horder hinverse mocks expected notCalled
    (r.attempts w₁.settings.pollInterval - 1) w₁.store
  generalize verifyRepeatedly r mocks expected notCalled _ w₁.store = looked at hlogs hmatched ⊢
  obtain ⟨⟨outcome, log⟩, s⟩ := looked
  refine .bind (.of_ok (runOn_modifyStore _ _) (.pure fun hpassed objects => ?_))
  refine runOn_confirmVerified_marked (s := s) ?_ hwindow fun mock hmock => ?_
  · rw [← hmatched hpassed]
    exact Store.foldl_markVerified mocks outcome.matched s
  · rw [hlogs.isSome_stub?]
    exact hregistered mock hmock

/-! ## The statement -/

theorem evaluate_discharges {w : World σ} {res : Resolution} {notCalled : List ObjectRef} (horder : r.order = .all)
    (hinverse : r.inverse = false) (hwindow : r.window = {}) : (evaluate r res notCalled).Ensures w
      (fun report w' => report.passed = true → ∀ objects : List ObjectRef,
        (∀ o ∈ objects, o.id ∈ examinedMocks r res w.store notCalled) →
        (confirmVerified objects).runOn w' = (.ok (), w')) fun _ _ => True := by
  rw [Ensures, runOn_evaluate]
  exact compare_discharges horder hinverse hwindow

theorem finalizeVerification_discharges {i : Nat} {w : World σ} {res : Resolution} {notCalled : List ObjectRef}
    (hw : w.verification? i = some (r, res, notCalled)) (horder : r.order = .all) (hinverse : r.inverse = false)
    (hwindow : r.window = {}) : (finalizeVerification i).Ensures w
      (fun _ w' => ∀ objects : List ObjectRef, (∀ o ∈ objects, o.id ∈ examinedMocks r res w.store notCalled) →
        (confirmVerified objects).runOn w' = (.ok (), w')) fun _ _ => True := by
  refine .bind ((takeVerification_taken _ w).mono (fun taken w₁ h => ?_) fun _ _ _ => trivial)
  obtain ⟨htaken, rfl⟩ := h
  cases htaken.symm.trans hw
  refine .bind ((evaluate_discharges horder hinverse hwindow).mono (fun report w₂ h => ?_) fun _ _ h => h)
  split
  · exact .pure (h ‹_›)
  · exact .throw trivial

/-- A verification that is reported on has been recorded. -/
theorem exists_verification {i : Nat} {w w' : World σ} {report : Report} (hrequest : (w.session i).request = some r)
    (h : (finalizeVerification i).runOn w = (.ok report, w')) :
    ∃ res notCalled, w.verification? i = some (r, res, notCalled) := by
  rcases htake : (takeVerification i "finalize_verification").runOn w with ⟨_ | taken, w₁⟩
  · rw [finalizeVerification, runOn_bind_error htake] at h
    cases h
  · obtain ⟨htaken, -⟩ := (takeVerification_taken _ w).ok htake
    unfold World.verification? at htaken ⊢
    split at htaken
    · exact ⟨_, _, by rw [hrequest, Option.getD_some]⟩
    · cases htaken

section

variable {μ : Type} {block : Act (Log μ) Failure Unit} {i : Nat} {w : World (Log μ)}

/-- Whatever the block does, what its statement demands is what it has demanded before. -/
theorem runRecordedBlock_request (hb : block.Blocks i) (hw : w.Sound) (hr : w.Within w.memory.running) :
    (runRecordedBlock i block).Ensures w
      (fun _ w₁ => i < w.sessions.length ∧ (w₁.session i).request = (w.session i).request) fun _ _ => True := by
  refine .bind (expectPhase_ensures (fun hp => ?_) fun _ => trivial)
  have hp : (w.session i).phase = .stubbing ∨ (w.session i).phase = .verifying := by simpa using hp
  have hlt : i < w.sessions.length := Nat.lt_of_not_le fun hle => by
    rw [World.session_of_le hle, World.newSession_idle.phase] at hp
    rcases hp with h | h <;> cases h
  refine .bind (.session ?_)
  dsimp only
  split
  · exact .bind (.fail trivial)
  · refine .bind (.orFail ((recordBlock_records hb hp hw hr rfl).mono (fun resolution w₁ hrec => ?_)
      fun _ _ _ => trivial))
    refine .modifySession ⟨hlt, ?_⟩
    have hrequest : (w₁.session i).request = (w.session i).request := by
      rcases hrec with hrec | ⟨-, rfl⟩
      · exact hrec.request
      · rfl
    rw [World.session_modifySession]
    split <;> exact hrequest

theorem verify_begins (hb : block.Blocks i) (hw : w.Sound) (hr : w.Within w.memory.running) :
    (beginVerification i r >>= fun _ => runRecordedBlock i block).Ensures w
      (fun _ w₁ => (w₁.session i).request = some r) fun _ _ => True := by
  have hbegin : (beginVerification i r).Ensures w (fun _ w₁ => w₁ = w.modifySession i fun s =>
      { s with request := some r, phase := .verifying }) fun _ _ => True :=
    .bind (expectPhase_ensures (fun _ => .modifySession rfl) fun _ => trivial)
  refine .bind ((hbegin.and (beginVerification_drops w hw hr)).mono (fun _ w₁ h => ?_) fun _ _ _ => trivial)
  obtain ⟨rfl, hnext⟩ := h
  refine (runRecordedBlock_request hb hnext.sound (hnext.within_running hr)).mono (fun _ w₂ h => ?_) fun _ _ h => h
  rw [World.length_modifySession] at h
  rw [h.2, World.session_modifySession_self h.1]

end

/-- Where every call counts, whenever it was made: when the recorded statement passes, confirming any of its mocks finds
nothing left. It is the statement that the verification began with, whatever its block does. -/
theorem confirmed_after_all {μ : Type} {i : Nat} (horder : r.order = .all) (hinverse : r.inverse = false)
    (hwindow : r.window = {}) :
    (∀ {σ : Type} (w w' : World σ) (res : Resolution) (notCalled : List ObjectRef) (report : Report),
      w.verification? i = some (r, res, notCalled) → (finalizeVerification i).runOn w = (.ok report, w') →
      ∀ mocks : List ObjectRef, (∀ o ∈ mocks, o.id ∈ examinedMocks r res w.store notCalled) →
        (confirmVerified mocks).runOn w' = (.ok (), w')) ∧
    ∀ (p : Program μ) (w w' : World (Log μ)) (report : Report), w.Sound → w.Within w.memory.running →
      (verify i r (inBlock i p.run)).runOn w = (.ok report, w') → ∃ w₁ res notCalled,
        (beginVerification i r >>= fun _ => runRecordedBlock i (inBlock i p.run)).runOn w = (.ok (), w₁) ∧
        w₁.verification? i = some (r, res, notCalled) ∧ (finalizeVerification i).runOn w₁ = (.ok report, w') ∧
        ∀ mocks : List ObjectRef, (∀ o ∈ mocks, o.id ∈ examinedMocks r res w₁.store notCalled) →
          (confirmVerified mocks).runOn w' = (.ok (), w') := by
  have hfinal : ∀ {σ : Type} (w w' : World σ) (res : Resolution) (notCalled : List ObjectRef) (report : Report),
      w.verification? i = some (r, res, notCalled) → (finalizeVerification i).runOn w = (.ok report, w') →
      ∀ mocks : List ObjectRef, (∀ o ∈ mocks, o.id ∈ examinedMocks r res w.store notCalled) →
        (confirmVerified mocks).runOn w' = (.ok (), w') := fun w w' res notCalled report hw hrun =>
    (finalizeVerification_discharges hw horder hinverse hwindow).ok hrun
  refine ⟨hfinal, fun p w w' report hw hr hrun => ?_⟩
  rw [verify, ← bind_assoc] at hrun
  rcases hrecord : (beginVerification i r >>= fun _ => runRecordedBlock i (inBlock i p.run)).runOn w with ⟨_ | _, w₁⟩
  · rw [runOn_bind_error hrecord] at hrun
    cases hrun
  · rw [runOn_bind_ok hrecord] at hrun
    have hrequest := (verify_begins (inBlock_blocks p.run_keeps) hw hr).ok hrecord
    obtain ⟨res, notCalled, htaken⟩ := exists_verification hrequest hrun
    exact ⟨w₁, res, notCalled, rfl, htaken, hrun, hfinal w₁ w' res notCalled report htaken hrun⟩

end Act

namespace Program

/-- A server is called twice, its backup is not. -/
def served : Program Unit :=
  useStore (fun s => s.create "Server" .relaxed) fun server => useStore (fun s => s.create "Backup" .relaxed) fun _ =>
    let ping : Method := { name := "ping", params := [.int], returns := .unit }
    call 0 server ping [.int 1] fun _ => call 0 server ping [.int 2] fun _ => done (.ok .unit)

/-- The two calls, and that there is none on the backup. -/
def servedAlone : Program Unit :=
  let ping : Method := { name := "ping", params := [.int], returns := .unit }
  call 0 ⟨1, "Server"⟩ ping [.int 1] fun _ => call 0 ⟨1, "Server"⟩ ping [.int 2] fun _ =>
    command 0 (.wasNotCalled ⟨2, "Backup"⟩) fun _ => done (.ok .unit)

end Program

namespace Act

/-- The mocks may be listed more than once. Before the verification there were calls to be confirmed. -/
theorem confirmed_after_all_served :
    let w : World (Log Unit) := { sessions := [{ generator := .ofSeed none }], depth := 1, memory := { memory := () } }
    let v := (Program.served.run.runOn w).2
    let mocks : List ObjectRef := [⟨1, "Server"⟩, ⟨2, "Backup"⟩, ⟨1, "Server"⟩]
    ((confirmVerified mocks).runOn v).1.isOk = false ∧
      ∃ report w', (verify 0 .all (inBlock 0 Program.servedAlone.run)).runOn v = (.ok report, w') ∧
        (confirmVerified mocks).runOn w' = (.ok (), w') := by
  intro w v mocks
  have hbefore : ((confirmVerified mocks).runOn v).1.isOk = false := by decide +kernel
  have hpasses : ((verify 0 .all (inBlock 0 Program.servedAlone.run)).runOn v).1.isOk = true := by decide +kernel
  have hexamined : let w₁ := ((beginVerification 0 .all >>= fun _ =>
      runRecordedBlock 0 (inBlock 0 Program.servedAlone.run)).runOn v).2
      (w₁.verification? 0).map (fun taken => examinedMocks taken.1 taken.2.1 w₁.store taken.2.2) = some [1, 2] := by
    decide +kernel
  have hidle : ∀ j, (w.session j).Idle :=
    World.session_idle fun _ hs => by cases List.mem_singleton.mp hs; exact ⟨rfl, rfl, rfl, rfl, rfl⟩
  have hsound : w.Sound := ⟨fun j => (hidle j).consistent, nofun⟩
  have hwithin : w.Within w.memory.running := fun j hj => by rw [(hidle j).round] at hj; cases hj
  have hnext : w.Next v := Program.served.run_next hsound hwithin
  -- from here on the runs must not be unfolded
  clear_value v w
  rcases hrun : (verify 0 .all (inBlock 0 Program.servedAlone.run)).runOn v with ⟨_ | report, w'⟩
  · rw [hrun] at hpasses
    cases hpasses
  · obtain ⟨hfinal, hverify⟩ := confirmed_after_all (μ := Unit) (i := 0) (r := .all) rfl rfl rfl
    obtain ⟨w₁, res, notCalled, hrecorded, htaken, hreport, -⟩ :=
      hverify Program.servedAlone v w' report hnext.sound (hnext.within_running hwithin) hrun
    rw [hrecorded] at hexamined
    dsimp only at hexamined
    rw [htaken] at hexamined
    have hmocks : examinedMocks .all res w₁.store notCalled = [1, 2] := Option.some.inj hexamined
    refine ⟨hbefore, report, w', rfl, hfinal w₁ w' res notCalled report htaken hreport mocks ?_⟩
    rw [hmocks]
    decide

end Act

end TestDouble
