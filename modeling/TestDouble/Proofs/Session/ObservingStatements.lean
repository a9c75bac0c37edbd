import TestDouble.Proofs.Session.Observing

/-!
# Operations as steps

An operation that takes no block is one step of its session, and leaves nothing pending when it fails.
-/

namespace TestDouble.Act

variable {μ : Type} {i : Nat} {w : World (Log μ)} {α : Type}

/-- A step of the session; a failure leaves nothing pending. -/
def StepsOnly (i : Nat) (x : Act (Log μ) MockError α) : Prop :=
  ∀ w, x.Ensures w (fun _ => w.Steps i) fun _ w' => w.Steps i w' ∧ (w'.session i).Idle

theorem cleared_steps (w : World (Log μ)) :
    w.Steps i (w.modifySession i Session.cleared) ∧ ((w.modifySession i Session.cleared).session i).Idle :=
  ⟨.cleared w, World.idle_modifySession_cleared⟩

theorem beginStubbing_steps : (beginStubbing i : Act (Log μ) MockError Unit).StepsOnly i := fun w =>
  .bind (expectPhase_ensures (fun _ => .modifySession (.modifySession ⟨id, nofun⟩)) fun _ => cleared_steps w)

theorem beginVerification_steps (r : Request) : (beginVerification i r : Act (Log μ) MockError Unit).StepsOnly i :=
  fun w => .bind (expectPhase_ensures (fun _ => .modifySession (.modifySession ⟨id, nofun⟩)) fun _ => cleared_steps w)

theorem registerMatcher_steps (m : Matcher) (shape : Shape) :
    (registerMatcher i m shape : Act (Log μ) MockError Value).StepsOnly i := by
  intro w
  refine .bind (.session ?_)
  cases hround : (w.session i).round with
  | none => exact .fail (cleared_steps w)
  | some round =>
      have hsome : (w.session i).round.isSome := by rw [hround]; rfl
      refine .bind (.get (.bind (.of_ok rfl (.bind (.modifySession (.pure ?_))))))
      exact ((World.Steps.refl w).store _).trans (.modifySession ⟨fun _ => hsome, fun hp => ⟨hp, rfl⟩⟩)

theorem wasNotCalled_steps (o : ObjectRef) : (wasNotCalled i o : Act (Log μ) MockError Unit).StepsOnly i := by
  intro w
  refine .bind (.session ?_)
  split
  · exact .modifySession (.modifySession ⟨id, fun hp => ⟨hp, rfl⟩⟩)
  · exact .fail (cleared_steps w)

/-- Between taking the recorded block and leaving its phase the session is in no state of its own. -/
theorem attachAnswer_steps (answer : Answer) : (attachAnswer i answer : Act (Log μ) MockError Unit).StepsOnly i := by
  intro w
  refine .bind (expectPhase_ensures (fun _ => ?_) fun _ => cleared_steps w)
  refine .bind (.session (.bind (.modifySession ?_)))
  have hcleared : ∀ store, w.Steps i
      (({ w with store }.modifySession i fun s => { s with resolution := none }).modifySession i Session.cleared) := by
    intro store
    rw [World.modifySession_modifySession]
    exact ((World.Steps.refl w).store store).trans (.modifySession (.of_idle Session.cleared_idle))
  cases (w.session i).resolution with
  | none => exact .fail ⟨hcleared w.store, World.idle_modifySession_cleared⟩
  | some resolution =>
      refine .bind (.orFail ((install_storeOnly resolution [] _).mono (fun _ _ h => ?_) fun _ _ h => ?_))
      · obtain ⟨store, rfl⟩ := h
        refine .modifySession ?_
        change w.Steps i ((World.modifySession { w with store } i _).modifySession i _)
        rw [World.modifySession_modifySession]
        exact ((World.Steps.refl w).store store).trans (.modifySession ⟨id, nofun⟩)
      · obtain ⟨-, store, rfl⟩ := h
        exact ⟨hcleared store, World.idle_modifySession_cleared⟩

theorem abandon_steps : (abandon ⟨i⟩ : Act (Log μ) MockError Unit).StepsOnly i := fun w =>
  abandon_ensures (fun _ => .refl w) (.cleared w)

theorem finish_steps (answer : Answer) : (finish ⟨i⟩ answer : Act (Log μ) MockError Unit).StepsOnly i := by
  intro w
  refine .bind (.attempt ((attachAnswer_steps answer w).mono (fun _ w₁ hs => ?_) fun e w₁ hs => ?_))
  · exact .bind (abandon_ensures (fun _ => .pure hs) (.pure (hs.trans (.cleared w₁))))
  · exact .bind (abandon_ensures (fun _ => .throw hs)
      (.throw ⟨hs.1.trans (.cleared w₁), World.idle_modifySession_cleared⟩))

/-- What is done with a statement that verifies, once it has been taken out of its session, is about the store. -/
theorem takeVerification_steps (operation : String) {f : Request × Resolution × List ObjectRef → Act (Log μ) MockError α}
    (hf : ∀ taken, (f taken).StoreOnly fun _ => True) : (takeVerification i operation >>= f).StepsOnly i := by
  intro w
  have htake : (takeVerification i operation).Ensures w (fun _ w' => w' = w.modifySession i Session.cleared)
      fun _ w' => w' = w.modifySession i Session.cleared := by
    refine .bind (.session ?_)
    split
    · exact .bind (.modifySession (.pure rfl))
    · exact .fail rfl
  refine .bind (htake.mono (fun taken w₁ hw₁ => ?_) fun _ w₁ hw₁ => ?_)
  · subst hw₁
    exact ((hf taken).ensures fun store => And.intro ((World.Steps.cleared w).store store)
      World.idle_modifySession_cleared).mono (fun _ _ h => h.1) fun _ _ h => h.2
  · subst hw₁
    exact cleared_steps w

theorem finalizeVerification_steps : (finalizeVerification i : Act (Log μ) MockError Report).StepsOnly i := by
  refine takeVerification_steps _ fun taken => (evaluate_storeOnly _ _).bind fun report => ?_
  split
  · exact .pure report
  · exact .throw trivial

theorem command_steps : ∀ c : Command α, (c.act i : Act (Log μ) MockError α).StepsOnly i
  | .beginStubbing => beginStubbing_steps
  | .beginVerification r => beginVerification_steps r
  | .attachAnswer answer => attachAnswer_steps answer
  | .finalizeVerification => finalizeVerification_steps
  | .registerMatcher m shape => registerMatcher_steps m shape
  | .wasNotCalled o => wasNotCalled_steps o
  | .reset => fun w => .modifySession (.cleared w)
  | .finish answer => finish_steps answer
  | .abandon => abandon_steps

end TestDouble.Act
