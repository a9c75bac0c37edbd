import TestDouble.Proofs.Chronicle.Calls

/-!
# Statements as the chronicle tells them

A verification that passes flags the calls that it has matched, one that fails flags none. Calls are hidden one matcher
at a time, so a statement that fails midway has hidden some.
-/

namespace TestDouble

theorem Outcome.matched_eq_nil {o : Outcome} (h : o.isPassed = false) : o.matched = [] := by
  cases o with
  | passed matched => cases h
  | failed reason => rfl

namespace Act

/-! ## Looking at the logs -/

/-- Looking leaves the logs alone, and what it has matched are calls that the mocks have logged. -/
theorem verifyRepeatedly_looks (r : Request) (mocks : List Nat) (expected notCalled : List CallMatcher) (n : Nat)
    (s : Store) : s.SameLogs (verifyRepeatedly r mocks expected notCalled n s).2 ∧
      ∀ k ∈ (verifyRepeatedly r mocks expected notCalled n s).1.1.matched,
        ∃ x ∈ s.registry.stubs, x.id ∈ mocks ∧ ∃ l ∈ x.log, l.call.sequence = k := by
  obtain ⟨s', hs', hlook⟩ := exists_lastLook (P := s.SameLogs)
    (fun s p hs => hs.trans (Store.probe_sameLogs p s)) r mocks expected notCalled n (.refl s)
  rw [hlook]
  refine ⟨hs'.trans (Store.probe_sameLogs _ s'), fun k hk => ?_⟩
  obtain ⟨c, hc, rfl⟩ := Store.probe_always (Verification.verifyWith_always r expected notCalled _) s' k hk
  obtain ⟨x, hx, hmock, l, hl, rfl⟩ := exists_logged hc
  obtain ⟨y, hy, hid, hlog⟩ := hs'.symm.exists_stub hx
  exact ⟨y, hy, hid ▸ hmock, l, hlog ▸ hl, rfl⟩

/-! ## Verifying -/

variable {μ α : Type} {es : List Made} {i : Nat} {w : World (Log (Watched μ))} {r : Request}

/-- The marks of a passing verification are still to be told, one that fails leaves nothing to tell. -/
theorem compare_tells {expected notCalled : List CallMatcher} {mocks : List Nat} (hw : w.Told es es) :
    let verdict := (verifyRepeatedly r mocks expected notCalled (r.attempts w.settings.pollInterval - 1) w.store).1.1
    (compare r expected notCalled mocks).Ensures w
      (fun report w' => w'.chronicle = w.chronicle ∧ (report.passed = false → w'.Told es es) ∧
        Chronicle.Tells (.marked .verified verdict.matched :: w.chronicle) w' es es)
      fun _ => World.Told es es := by
  intro verdict
  refine .bind ((forM_stub_ensures mocks).mono (fun _ w₁ hw₁ => ?_) fun _ w₁ hw₁ => hw₁ ▸ hw)
  subst hw₁
  refine .bind (.get (.bind (.of_ok (runOn_onStore _ w₁) ?_)))
  obtain ⟨hlooked, hmatched⟩ :=
    verifyRepeatedly_looks r mocks expected notCalled (r.attempts w₁.settings.pollInterval - 1) w₁.store
  refine .bind (.of_ok (runOn_modifyStore _ _) (.pure ?_))
  rw [Store.foldl_markVerified]
  refine ⟨rfl, fun hfailed => ?_, hw.underway, hw.frames, ?_, hw.sound⟩
  · rw [Outcome.matched_eq_nil hfailed, Store.marked_nil]
    exact hw.store hlooked.keepsLogs
  · rw [Store.marked_eq_mark]
    refine (hw.agrees.keeps hlooked.keepsLogs).mark .verified fun k hk => ?_
    obtain ⟨x, hx, hmock, l, hl, hn⟩ := hmatched k hk
    obtain ⟨y, hy, hid, hlog⟩ := hlooked.exists_stub hx
    exact ⟨y, hy, hid ▸ hmock, l, hlog ▸ hl, hn⟩

theorem evaluate_tells (resolution : Resolution) (notCalled : List ObjectRef) (hw : w.Told es es) :
    (evaluate r resolution notCalled).Ensures w
      (fun report w' => w'.chronicle = w.chronicle ∧ (report.passed = false → w'.Told es es) ∧
        Chronicle.Tells (.marked .verified (w.verdict r resolution notCalled).matched :: w.chronicle) w' es es)
      fun _ => World.Told es es := .bind (.get (compare_tells hw))

theorem takeVerification_taken {σ : Type} (operation : String) (w : World σ) :
    (takeVerification i operation).Ensures w
      (fun taken w' => w.verification? i = some taken ∧ w' = w.modifySession i Session.cleared)
      fun _ w' => w.verification? i = none ∧ w' = w.modifySession i Session.cleared := by
  refine .bind (.session ?_)
  split
  · rename_i hphase hresolution
    refine .bind (.modifySession (.pure ⟨?_, rfl⟩))
    rw [World.verification?, hphase, hresolution]
  · rename_i hnone
    refine .fail ⟨?_, rfl⟩
    rw [World.verification?]
    split
    · rename_i hphase hresolution
      exact (hnone _ hphase hresolution).elim
    · rfl

theorem tellVerification_preserves : (tellVerification i).Preserves (World.Told (μ := μ) es es) := by
  intro w hw
  have hcleared : (w.modifySession i Session.cleared).Told es es := hw.modifySession fun _ => rfl
  refine .bind (.get (.bind (.bind ?_)))
  refine (takeVerification_taken _ w).mono (fun taken w₁ h => ?_) fun _ w₁ h => h.2 ▸ hcleared
  obtain ⟨htaken, rfl⟩ := h
  obtain ⟨r, resolution, notCalled⟩ := taken
  have hmatching : w.matching i = (w.verdict r resolution notCalled).matched := by rw [World.matching, htaken]
  rw [hmatching]
  refine .bind ((evaluate_tells resolution notCalled hcleared).mono (fun report w₂ h => ?_) fun _ _ h => h)
  obtain ⟨hchronicle, hfailed, hpassed⟩ := h
  split
  · refine .pure (.bind ((tell_tells ?_).mono (fun _ _ h => .pure h) fun _ _ h => h))
    rw [hchronicle]
    exact hpassed
  · exact .throw (hfailed (eq_false_of_ne_true ‹_›))

/-! ## Hiding -/

section

variable {σ : Type} {t : Chronicle} {w : World σ} {m : CallMatcher} {detached : List Nat}

theorem exclude_tells {stub : Stub} (h : t.Tells w es es) (hstub : w.store.registry.stub? m.target.id = some stub) :
    Chronicle.Tells (.marked .excluded ((w.store.probe (Probe.filter m.test stub.visible)).1.map Call.sequence) :: t)
      { w with store := (w.store.exclude m.target.id m).2 } es es := by
  refine ⟨h.underway, h.frames, ?_, h.sound⟩
  have hprobed := Store.probe_sameLogs (Probe.filter m.test stub.visible) w.store
  rw [Store.exclude, hstub]
  dsimp only
  rw [Store.modify_hide]
  refine (h.agrees.keeps hprobed.keepsLogs).mark .excluded fun n hn => ?_
  obtain ⟨c, hc, rfl⟩ := List.mem_map.mp hn
  have hvisible := Store.probe_always (Probe.filter_always m.test stub.visible) w.store hc
  obtain ⟨l, hl, rfl⟩ := List.mem_map.mp hvisible
  obtain ⟨x, hx, hid, hlog⟩ := hprobed.exists_stub (List.mem_of_find?_eq_some hstub)
  refine ⟨x, hx, List.mem_singleton.mpr (hid.trans (Registry.id_of_stub? hstub)), l, ?_, rfl⟩
  exact hlog ▸ (List.mem_filter.mp hl).1

/-- However many of the mocks are registered, the calls are hidden that have been told. -/
theorem excludeEach_tells : ∀ (ms : List CallMatcher) (t : Chronicle) (w : World σ), t.Tells w es es →
    (excludeEach detached ms).Ends w fun w' => w'.memory = w.memory ∧
      Chronicle.Tells (.marked .excluded (w.store.hides detached ms) :: t) w' es es
  | [], _, _, h => .pure ⟨rfl, h.marked_nil⟩
  | m :: ms, t, w, h => by
      rw [excludeEach, Store.hides]
      split
      · exact excludeEach_tells ms t w h
      · refine .bind (.bind (.get ?_))
        cases hstub : w.store.registry.stub? m.target.id with
        | none =>
            rw [Registry.get, hstub]
            exact .throw ⟨rfl, h.marked_nil⟩
        | some stub =>
            rw [Registry.get, hstub]
            refine .pure (.bind (.of_ok (runOn_onStore _ w) (.bind ?_)))
            have hrest := excludeEach_tells ms _ _ (exclude_tells h hstub)
            exact hrest.mono (fun _ _ h' => .pure ⟨h'.1, h'.2.marked_append⟩) fun _ _ h' => ⟨h'.1, h'.2.marked_append⟩

end

theorem hideRecorded_tells (hw : w.Told es es) :
    (hideRecorded i).Ends w fun w' => w'.chronicle = w.chronicle ∧
      Chronicle.Tells (.marked .excluded (w.hiding i) :: w.chronicle) w' es es := by
  have hcleared : (w.modifySession i Session.cleared).Told es es := hw.modifySession fun _ => rfl
  refine .bind ((takeVerification_taken _ w).mono (fun taken w₁ h => ?_) fun _ w₁ h => ?_)
  · obtain ⟨htaken, rfl⟩ := h
    obtain ⟨r, resolution, notCalled⟩ := taken
    rw [World.hiding, htaken]
    refine .bind (.get ((excludeEach_tells _ _ _ hcleared).mono (fun _ w' h => ?_) fun _ w' h => ?_))
    · exact ⟨congrArg (fun memory => memory.memory.chronicle) h.1, h.2⟩
    · exact ⟨congrArg (fun memory => memory.memory.chronicle) h.1, h.2⟩
  · obtain ⟨hnone, rfl⟩ := h
    rw [World.hiding, hnone]
    exact ⟨rfl, hcleared.marked_nil⟩

theorem tellExclusion_preserves : (tellExclusion i).Preserves (World.Told (μ := μ) es es) := by
  intro w hw
  refine .bind (.get (.bind (.attempt_either (hideRecorded_tells hw) fun result w' h => .bind ?_)))
  refine (tell_tells ?_).mono (fun _ w'' h => ?_) fun _ _ h => h
  · rw [h.1]
    exact h.2
  · exact .ofExcept (fun _ _ => h) fun _ _ => h

/-! ## All statements -/

theorem command_watched_preserves (c : Command α) : (c.watched i).Preserves (World.Told (μ := μ) es es) := by
  cases c with
  | beginStubbing => exact beginStubbing_preserves World.Told.keptBySession
  | beginVerification r => exact beginVerification_preserves World.Told.keptBySession r
  | attachAnswer answer => exact attachAnswer_preserves World.Told.keptByStubbing answer
  | finalizeVerification => exact tellVerification_preserves
  | registerMatcher m shape => exact registerMatcher_preserves World.Told.keptByStubbing m shape
  | wasNotCalled o => exact wasNotCalled_preserves World.Told.keptBySession o
  | reset => exact .modifySession fun _ hw => hw.modifySession fun _ => rfl
  | finish answer => exact finish_preserves World.Told.keptByStubbing answer
  | abandon => exact abandon_preserves World.Told.keptBySession

theorem statement_watched_preserves {block : Act (Log (Watched μ)) Failure Unit}
    (hb : block.Preserves (World.Told es es)) (s : Statement α) : (s.watched i block).Preserves (World.Told es es) := by
  have hrun : (runRecordedBlock i block).Preserves (World.Told es es) :=
    runRecordedBlock_preserves World.Told.keptBySession (fun _ _ _ hw => hw.modifySession fun _ => rfl)
      (pass_preserves (fun _ _ _ hw => hw.modifySession fun _ => rfl) hb)
  cases s with
  | runRecordedBlock => exact hrun
  | every => exact (beginStubbing_preserves World.Told.keptBySession).bind fun _ => hrun.bind fun _ => .pure _
  | verify r =>
      exact (beginVerification_preserves World.Told.keptBySession r).bind fun _ => hrun.bind fun _ =>
        tellVerification_preserves
  | excludeRecords =>
      exact (beginVerification_preserves World.Told.keptBySession {}).bind fun _ => hrun.bind fun _ =>
        tellExclusion_preserves

end Act

end TestDouble
