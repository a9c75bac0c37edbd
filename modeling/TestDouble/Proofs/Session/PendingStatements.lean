import TestDouble.Proofs.Session.PendingRecorded

/-!
# Statements and what is pending

Each operation of a statement keeps its session consistent, and leaves nothing pending when it fails.
-/

namespace TestDouble.Act

variable {μ : Type} {block : Act (Log μ) Failure Unit} {i : Nat} {w : World (Log μ)} {answer : Answer} {r : Request}

/-! ## Beginning -/

theorem reset_drops : (reset i : Act (Log μ) MockError Unit).Drops i := fun _ hw _ =>
  .modifySession (.modifySession hw .cleared)

theorem beginStubbing_drops : (beginStubbing i : Act (Log μ) MockError Unit).Drops i := by
  intro w hw _
  refine .bind (expectPhase_ensures (fun hp => .modifySession (.modifySession hw ?_)) fun _ => .cleared (.refl hw))
  have hidle := (hw.consistent i).idle (List.mem_singleton.mp hp)
  exact .of_round_none (fun _ => ⟨hidle.request, hidle.resolution, hidle.notCalled⟩) hidle.round

theorem beginVerification_drops : (beginVerification i r : Act (Log μ) MockError Unit).Drops i := by
  intro w hw _
  refine .bind (expectPhase_ensures (fun hp => .modifySession (.modifySession hw ?_)) fun _ => .cleared (.refl hw))
  have hidle := (hw.consistent i).idle (List.mem_singleton.mp hp)
  exact .of_round_none (fun _ => rfl) hidle.round

/-! ## In a block -/

theorem registerMatcher_drops (m : Matcher) (shape : Shape) :
    (registerMatcher i m shape : Act (Log μ) MockError Value).Drops i := by
  intro w hw _
  refine .bind (.session ?_)
  cases hround : (w.session i).round with
  | none => exact .fail (.cleared (.refl hw))
  | some round =>
      have hsome : (w.session i).round.isSome := by rw [hround]; rfl
      have hs : w.Next { w with store := (round.register (w.session i).generator w.store m shape).2.2.2 } := .store hw _
      refine .bind (.get (.bind (.of_ok rfl (.bind (.modifySession (.pure ?_))))))
      exact hs.trans (.record hs.sound hsome)

theorem wasNotCalled_drops (o : ObjectRef) : (wasNotCalled i o : Act (Log μ) MockError Unit).Drops i := by
  intro w hw _
  refine .bind (.session ?_)
  split
  case isTrue h =>
      rw [Bool.and_eq_true, decide_eq_true_iff] at h
      refine .modifySession (.modifySession hw ⟨fun hs => ?_, fun hr => ⟨hr, rfl, rfl⟩⟩)
      unfold Session.Consistent at hs ⊢
      rw [h.2] at hs ⊢
      exact hs
  case isFalse => exact .fail (.cleared (.refl hw))

theorem runRecordedBlock_drops (hb : block.Blocks i) : (runRecordedBlock i block).Drops i := by
  intro w hw hr
  refine .bind (expectPhase_ensures (fun hp => ?_) fun _ => .cleared (.refl hw))
  have hp : (w.session i).phase = .stubbing ∨ (w.session i).phase = .verifying := by simpa using hp
  refine .bind (.session ?_)
  dsimp only
  split
  · exact .bind (.fail (.cleared (.refl hw)))
  · have hrecord := recordBlock_records hb hp hw hr rfl
    refine .bind (.orFail (hrecord.mono (fun resolution w₁ hrec => .modifySession ?_) fun _ _ => .cleared))
    rcases hrec with hrec | ⟨hv, rfl⟩
    · refine hrec.next.trans (.modifySession hrec.next.sound (.of_round_none (fun hs => ?_) hrec.round))
      unfold Session.Consistent at hs ⊢
      rw [hrec.phase] at hs ⊢
      rcases hp with hp | hp <;> rw [hp] at hs ⊢
      · exact ⟨hs.1, rfl, hs.2.2, hrec.round⟩
      · exact hs
    · refine .modifySession hw ⟨fun hs => ?_, fun hr => ⟨hr, ?_, rfl⟩⟩
      · unfold Session.Consistent at hs ⊢
        rw [hv] at hs ⊢
        exact hs
      · rw [hv]; rfl

/-! ## Answers -/

theorem linkChild_storeOnly (stub : Stub) (m : CallMatcher) (object : ObjectRef) {P : MockError → Prop} :
    (linkChild stub m object : Act (Log μ) MockError ObjectRef).StoreOnly P := by
  unfold linkChild
  split
  · exact .pure _
  · exact (StoreOnly.onStore _).bind fun _ => (StoreOnly.modifyStore _).bind fun _ => .pure _

/-- Only a released mock stands in the way of an answer. -/
theorem install_storeOnly : ∀ (resolution : Resolution) (links : Links),
    (install answer links resolution : Act (Log μ) MockError Unit).StoreOnly fun e => ∃ id, e = .unknown id
  | [], _ => .pure ()
  | c :: cs, links => by
      rw [install]
      refine (StoreOnly.stub ⟨_, rfl⟩).bind fun target => ?_
      split
      · exact (StoreOnly.modifyStore _).bind fun _ => install_storeOnly cs links
      · split
        · exact install_storeOnly cs links
        · exact (linkChild_storeOnly _ _ _).bind fun _ => install_storeOnly cs _

/-- The second check, that there is a recorded block, never fails. -/
theorem attachAnswer_ensures (hw : w.Sound) :
    (attachAnswer i answer).Ensures w (fun _ => w.Next) fun e w' =>
      w.Clears i w' ∧ e ≠ .badSequence "attach_answer" .awaitingAnswer none := by
  refine .bind (expectPhase_ensures (fun hp => ?_) fun hp => ⟨.cleared (.refl hw), fun he => hp ?_⟩)
  case refine_2 =>
      injection he with _ hphase _
      exact List.mem_singleton.mpr hphase
  have hc := hw.consistent i
  unfold Session.Consistent at hc
  rw [List.mem_singleton.mp hp] at hc
  obtain ⟨hrequest, hresolution, hnotCalled, hround⟩ := hc
  obtain ⟨resolution, hresolution⟩ := Option.isSome_iff_exists.mp hresolution
  refine .bind (.session (.bind (.modifySession ?_)))
  rw [hresolution]
  refine .bind (.orFail ((install_storeOnly resolution [] _).mono (fun _ _ h => ?_) fun e _ h => ?_))
  · obtain ⟨store, rfl⟩ := h
    -- the two changes of the session, before and after its answer is installed, make one step
    have hs : w.Next { w with store } := .store hw store
    refine .modifySession (hs.trans ?_)
    change World.Next { w with store } ((World.modifySession { w with store } i _).modifySession i _)
    rw [World.modifySession_modifySession]
    exact .modifySession hs.sound (.of_round_none (fun _ => ⟨hrequest, rfl, hnotCalled, hround⟩) hround)
  · obtain ⟨⟨id, rfl⟩, store, rfl⟩ := h
    refine ⟨?_, nofun⟩
    change w.Clears i ((World.modifySession { w with store } i _).modifySession i _)
    rw [World.modifySession_modifySession]
    exact .cleared (.store hw store)

theorem attachAnswer_drops : (attachAnswer i answer : Act (Log μ) MockError Unit).Drops i := fun _ hw _ =>
  (attachAnswer_ensures hw).mono (fun _ _ h => h) fun _ _ h => h.1

theorem abandon_ensures {Q : Unit → World (Log μ) → Prop} {E : MockError → World (Log μ) → Prop}
    (h : (w.session i).phase ≠ .awaitingAnswer → Q () w) (h' : Q () (w.modifySession i Session.cleared)) :
    (abandon ⟨i⟩).Ensures w Q E := by
  refine .bind (.session ?_)
  split
  case isTrue => exact .modifySession h'
  case isFalse hp => exact .pure (h hp)

theorem abandon_drops : (abandon ⟨i⟩ : Act (Log μ) MockError Unit).Drops i := fun _ hw _ =>
  abandon_ensures (fun _ => .refl hw) (.modifySession hw .cleared)

theorem finish_drops : (finish ⟨i⟩ answer : Act (Log μ) MockError Unit).Drops i := by
  intro w hw hr
  refine .bind (.attempt ((attachAnswer_drops w hw hr).mono (fun _ w₁ hn => ?_) fun e w₁ hc => ?_))
  · refine .bind (abandon_ensures (fun _ => .pure hn) (.pure (hn.trans (.modifySession hn.sound .cleared))))
  · exact .bind (abandon_ensures (fun _ => .throw hc) (.throw (.cleared hc.1)))

theorem every_drops (hb : block.Blocks i) : (every i block).Drops i :=
  beginStubbing_drops.bind fun _ => (runRecordedBlock_drops hb).bind fun _ => .pure _

/-! ## Verifications -/

/-- A statement that verifies is over before anything is verified. -/
theorem takeVerification_clears (operation : String) (hw : w.Sound) :
    (takeVerification i operation).Ensures w (fun _ => w.Clears i) fun _ => w.Clears i := by
  refine .bind (.session ?_)
  split
  · exact .bind (.modifySession (.pure (.cleared (.refl hw))))
  · exact .fail (.cleared (.refl hw))

/-- What is verified is the request that the statement began with, never another one. -/
theorem takeVerification_request (operation : String) (hc : (w.session i).Consistent) :
    (takeVerification i operation).Ensures w (fun taken _ => (w.session i).request = some taken.1) fun _ _ => True := by
  refine .bind (.session ?_)
  split
  case h_1 hp _ =>
      unfold Session.Consistent at hc
      rw [hp] at hc
      obtain ⟨r, hr⟩ := Option.isSome_iff_exists.mp hc
      exact .bind (.modifySession (.pure (by rw [hr]; rfl)))
  case h_2 => exact .fail trivial

/-- What comes after that is about the store, and may fail. -/
theorem takeVerification_bind {α : Type} {operation : String}
    {f : Request × Resolution × List ObjectRef → Act (Log μ) MockError α}
    (hf : ∀ taken, (f taken).StoreOnly fun _ => True) : (takeVerification i operation >>= f).Drops i := by
  intro w hw _
  refine .bind ((takeVerification_clears operation hw).mono (fun taken w₁ hc => ?_) fun _ _ hc => hc)
  exact ((hf taken).ensures hc.store).mono (fun _ _ h => h.1) fun _ _ h => h.2

theorem evaluate_storeOnly (resolution : Resolution) (notCalled : List ObjectRef) :
    (evaluate r resolution notCalled : Act (Log μ) MockError Report).StoreOnly fun _ => True := by
  refine StoreOnly.get.bind fun _ => (StoreOnly.forM (fun _ => (StoreOnly.stub trivial).discard) _).bind fun _ => ?_
  exact StoreOnly.get.bind fun _ => (StoreOnly.onStore _).bind fun _ => (StoreOnly.modifyStore _).bind fun _ => .pure _

theorem finalizeVerification_drops : (finalizeVerification i : Act (Log μ) MockError Report).Drops i := by
  refine takeVerification_bind fun taken => (evaluate_storeOnly _ _).bind fun report => ?_
  split
  · exact .pure report
  · exact .throw trivial

theorem verify_drops (hb : block.Blocks i) : (verify i r block).Drops i :=
  beginVerification_drops.bind fun _ => (runRecordedBlock_drops hb).bind fun _ => finalizeVerification_drops

theorem excludeEach_storeOnly (detached : List Nat) :
    ∀ ms, (excludeEach detached ms : Act (Log μ) MockError Nat).StoreOnly fun _ => True
  | [] => .pure 0
  | m :: ms => by
      rw [excludeEach]
      split
      · exact excludeEach_storeOnly detached ms
      · refine (StoreOnly.stub trivial).bind fun _ => (StoreOnly.onStore _).bind fun _ => ?_
        exact (excludeEach_storeOnly detached ms).bind fun _ => .pure _

theorem excludeRecords_drops (hb : block.Blocks i) : (excludeRecords i block).Drops i := by
  refine beginVerification_drops.bind fun _ => (runRecordedBlock_drops hb).bind fun _ => ?_
  exact takeVerification_bind fun taken => StoreOnly.get.bind fun _ => excludeEach_storeOnly _ _

end TestDouble.Act
