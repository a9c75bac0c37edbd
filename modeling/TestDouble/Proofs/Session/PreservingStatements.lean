import TestDouble.Proofs.Session.Passes
import TestDouble.Proofs.Session.Preserving
import TestDouble.Proofs.Session.Program

/-!
# What operations preserve

An operation on a session preserves what is not about the session, if it is preserved by the steps on the store and by
the block.
-/

namespace TestDouble

/-- What an operation on a session does to the store, its block apart. -/
inductive Store.OperationStep (s : Store) : Store → Prop
  | register (round : OpenRound) (generator : Generator) (m : Matcher) (shape : Shape) :
      OperationStep s (round.register generator s m shape).2.2.2
  | createChild (parent : Stub) (className : String) : OperationStep s (s.createChild parent className).2
  | addAnswer (mock : Nat) (m : CallMatcher) (answer : Answer) :
      OperationStep s (s.modify mock (·.addAnswer m answer))
  | verifyRepeatedly (r : Request) (mocks : List Nat) (expected notCalled : List CallMatcher) (n : Nat) :
      OperationStep s (Act.verifyRepeatedly r mocks expected notCalled n s).2
  | markVerified (mocks sequences : List Nat) :
      OperationStep s (mocks.foldl (fun s mock => s.modify mock (·.markVerified sequences)) s)
  | exclude (mock : Nat) (m : CallMatcher) : OperationStep s (s.exclude mock m).2

/-- What registering a matcher and giving an answer do to the store. -/
inductive Store.StubbingStep (s : Store) : Store → Prop
  | register (round : OpenRound) (generator : Generator) (m : Matcher) (shape : Shape) :
      StubbingStep s (round.register generator s m shape).2.2.2
  | createChild (parent : Stub) (className : String) : StubbingStep s (s.createChild parent className).2
  | addAnswer (mock : Nat) (m : CallMatcher) (answer : Answer) : StubbingStep s (s.modify mock (·.addAnswer m answer))

theorem Store.StubbingStep.operationStep {s s' : Store} (h : s.StubbingStep s') : s.OperationStep s' := by
  cases h with
  | register round generator m shape => exact .register round generator m shape
  | createChild parent className => exact .createChild parent className
  | addAnswer mock m answer => exact .addAnswer mock m answer

/-- What an operation may do to its session, recording apart: the round goes, and what has been recorded goes. -/
structure Session.Turns (s s' : Session) : Prop where
  frames : s'.frames = s.frames
  round : ∀ o, s'.round = some o → s.round = some o
  resolution : ∀ res, s'.resolution = some res → s.resolution = some res

namespace Session.Turns

variable {s s' : Session}

/-- The statement goes on. -/
theorem on (hframes : s'.frames = s.frames) (hround : s'.round = s.round) (hresolution : s'.resolution = s.resolution) :
    s.Turns s' := ⟨hframes, fun _ h => hround ▸ h, fun _ h => hresolution ▸ h⟩

theorem cleared (s : Session) : s.Turns s.cleared := ⟨rfl, nofun, nofun⟩

end Session.Turns

/-- The matcher is registered in this round of the session. -/
def World.register {σ : Type} (w : World σ) (i : Nat) (o : OpenRound) (m : Matcher) (shape : Shape) : World σ :=
  let r := o.register (w.session i).generator w.store m shape
  World.modifySession { w with store := r.2.2.2 } i fun s => { s with round := some r.2.1, generator := r.2.2.1 }

/-- Whatever is done to the session, its running calls and what is recorded apart, keeps this property of the world. -/
def World.KeptBySession {σ : Type} (i : Nat) (I : World σ → Prop) : Prop :=
  ∀ w (f : Session → Session), (∀ s : Session, s.Turns (f s)) → I w → I (w.modifySession i f)

/-- A round that starts in the session keeps this property of the world. -/
def World.KeptByStarting {σ : Type} (i : Nat) (I : World σ → Prop) : Prop :=
  ∀ (w : World σ) (index : Nat) (hints : Hints), I w → I (w.startRound i index hints)

/-- A block that has been recorded, whatever it is, keeps this property of the world. -/
def World.KeptByResolving {σ : Type} (i : Nat) (I : World σ → Prop) : Prop :=
  ∀ (w : World σ) (phase : Phase) (res : Resolution), I w → I (w.modifySession i fun s =>
    { s with resolution := some res, phase := if phase = .stubbing then .awaitingAnswer else s.phase })

/-- Registering matchers and giving answers keeps this property of the world. -/
structure World.KeptByStubbing {σ : Type} (i : Nat) (I : World σ → Prop) : Prop where
  store : ∀ w s, w.store.StubbingStep s → I w → I { w with store := s }
  session : KeptBySession i I
  register : ∀ w o m shape, (w.session i).round = some o → I w → I (w.register i o m shape)

/-- The operations on the session, recording blocks apart, keep this property of the world. -/
structure World.KeptByOperations {σ : Type} (i : Nat) (I : World σ → Prop) : Prop where
  store : ∀ w s, w.store.OperationStep s → I w → I { w with store := s }
  session : KeptBySession i I
  register : ∀ w o m shape, (w.session i).round = some o → I w → I (w.register i o m shape)

theorem World.KeptByOperations.stubbing {σ : Type} {i : Nat} {I : World σ → Prop} (h : KeptByOperations i I) :
    KeptByStubbing i I := ⟨fun w s hs => h.store w s hs.operationStep, h.session, h.register⟩

/-- What is noted of a program keeps this property of the world. -/
def World.KeptByNotes {μ : Type} (I : World (Log μ) → Prop) : Prop :=
  ∀ w running moments, I w → I { w with memory := { w.memory with running, moments } }

namespace Act

variable {σ ε α : Type} {I : World σ → Prop} {i : Nat} {block : Act σ Failure Unit} {phase : Phase}

/-! ## Recording -/

theorem pass_preserves (hstart : World.KeptByStarting i I) (hb : block.Preserves I) (index : Nat) (hints : Hints) :
    (pass i index hints block).Preserves I := fun w hw => pass_ensures (hb _ (hstart w index hints hw))

section

variable (hs : World.KeptBySession i I)

include hs

theorem fail_preserves (e : ε) : (fail i e : Act σ ε α).Preserves I := fun w hw => .fail (hs w _ .cleared hw)

theorem orFail_preserves {x : Act σ ε α} (hx : x.Preserves I) : (orFail i x).Preserves I := fun w hw =>
  .orFail ((hx w hw).mono (fun _ _ h => h) fun _ w' h => hs w' _ .cleared h)

theorem expectPhase_preserves (operation : String) (allowed : List Phase) :
    (expectPhase i operation allowed : Act σ MockError Phase).Preserves I := by
  refine Preserves.session.bind fun s => ?_
  dsimp only
  split
  · exact .pure _
  · exact fail_preserves hs _

theorem recordBlock_preserves (hb : ∀ index hints, (pass i index hints block).Preserves I) :
    (recordBlock i block phase).Preserves I := by
  have hpassing : Passing i block I I I fun _ => True :=
    { pass := fun index hints w hw =>
        (hb index hints w hw).mono
          (fun _ w' h => ⟨fun _ => h, fun _ _ => ⟨trivial, hs w' _ (fun _ => ⟨rfl, nofun, fun _ h => h⟩) h⟩⟩)
          fun _ _ h => h
      again := fun _ h => h
      error := fun _ h => h }
  refine fun w hw => (hpassing.recordBlock hw).mono (fun _ _ h => ?_) fun _ _ h => h
  rcases h.1 with h | ⟨-, rfl⟩
  · exact h
  · exact hw

theorem runRecordedBlock_preserves_of_recordBlock (hr : World.KeptByResolving i I)
    (hb : ∀ phase, (recordBlock i block phase).Preserves I) : (runRecordedBlock i block).Preserves I := by
  have hrecord : ∀ phase, (orFail i (recordBlock i block phase)).Preserves I := fun phase =>
    orFail_preserves hs (hb phase)
  refine (expectPhase_preserves hs _ _).bind fun phase => Preserves.session.bind fun s => ?_
  dsimp only
  split
  · refine (fail_preserves hs _).bind fun _ => (hrecord phase).bind fun _ => ?_
    exact .modifySession fun w => hr w _ _
  · exact (hrecord phase).bind fun _ => .modifySession fun w => hr w _ _

theorem runRecordedBlock_preserves (hr : World.KeptByResolving i I)
    (hb : ∀ index hints, (pass i index hints block).Preserves I) : (runRecordedBlock i block).Preserves I :=
  runRecordedBlock_preserves_of_recordBlock hs hr fun _ => recordBlock_preserves hs hb

theorem beginStubbing_preserves : (beginStubbing i : Act σ MockError Unit).Preserves I :=
  (expectPhase_preserves hs _ _).bind fun _ => .modifySession fun w => hs w _ fun _ => .on rfl rfl rfl

theorem beginVerification_preserves (r : Request) : (beginVerification i r : Act σ MockError Unit).Preserves I :=
  (expectPhase_preserves hs _ _).bind fun _ => .modifySession fun w => hs w _ fun _ => .on rfl rfl rfl

theorem takeVerification_preserves (operation : String) :
    (takeVerification i operation : Act σ MockError (Request × Resolution × List ObjectRef)).Preserves I := by
  refine Preserves.session.bind fun s => ?_
  split
  · exact (Preserves.modifySession fun w => hs w Session.cleared .cleared).bind fun _ => .pure _
  · exact fail_preserves hs _

theorem wasNotCalled_preserves (o : ObjectRef) : (wasNotCalled i o : Act σ MockError Unit).Preserves I := by
  refine Preserves.session.bind fun s => ?_
  split
  · exact .modifySession fun w => hs w _ fun _ => .on rfl rfl rfl
  · exact fail_preserves hs _

theorem abandon_preserves : (abandon ⟨i⟩ : Act σ MockError Unit).Preserves I := by
  refine Preserves.session.bind fun s => ?_
  split
  · exact .modifySession fun w => hs w _ .cleared
  · exact .pure _

end

/-! ## Stubbing -/

section

variable (hI : World.KeptByStubbing i I)

include hI

theorem registerMatcher_preserves (m : Matcher) (shape : Shape) :
    (registerMatcher i m shape : Act σ MockError Value).Preserves I := by
  intro w hw
  refine .bind (.session ?_)
  cases hround : (w.session i).round with
  | none => exact fail_preserves hI.session _ w hw
  | some round =>
      refine .bind (.get (.bind (.of_ok rfl (.bind (.modifySession (.pure ?_))))))
      exact hI.register w round m shape hround hw

theorem linkChild_preserves (stub : Stub) (m : CallMatcher) (object : ObjectRef) :
    (linkChild stub m object : Act σ MockError ObjectRef).Preserves I := by
  unfold linkChild
  split
  · exact .pure _
  · exact (Preserves.onStore fun w => hI.store w _ (.createChild stub _)).bind fun _ =>
      (Preserves.modifyStore fun w => hI.store w _ (.addAnswer stub.id m _)).bind fun _ => .pure _

theorem install_preserves (answer : Answer) : ∀ (resolution : Resolution) (links : Links),
    (install answer links resolution : Act σ MockError Unit).Preserves I
  | [], _ => .pure ()
  | c :: cs, links => by
      rw [install]
      refine (Preserves.stub _).bind fun target => ?_
      split
      · exact (Preserves.modifyStore fun w => hI.store w _ (.addAnswer target.id _ answer)).bind fun _ =>
          install_preserves answer cs links
      · split
        · exact install_preserves answer cs links
        · exact (linkChild_preserves hI _ _ _).bind fun _ => install_preserves answer cs _

theorem attachAnswer_preserves (answer : Answer) : (attachAnswer i answer : Act σ MockError Unit).Preserves I := by
  refine (expectPhase_preserves hI.session _ _).bind fun _ => Preserves.session.bind fun s => ?_
  refine (Preserves.modifySession fun w => hI.session w (fun s => { s with resolution := none }) fun _ =>
    ⟨rfl, fun _ h => h, nofun⟩).bind fun _ => ?_
  split
  · exact fail_preserves hI.session _
  · exact (orFail_preserves hI.session (install_preserves hI answer _ _)).bind fun _ =>
      .modifySession fun w => hI.session w _ fun _ => .on rfl rfl rfl

theorem finish_preserves (answer : Answer) : (finish ⟨i⟩ answer : Act σ MockError Unit).Preserves I :=
  (attachAnswer_preserves hI answer).attempt.bind fun _ => (abandon_preserves hI.session).bind fun _ => .ofExcept _

end

/-! ## Operations -/

/-- What a verification returns is what its last look gives, at a store to which the predicates have led. -/
theorem exists_lastLook {P : Store → Prop} (hprobe : ∀ {β : Type} (s : Store) (p : Probe β), P s → P (s.probe p).2)
    (r : Request) (mocks : List Nat) (expected notCalled : List CallMatcher) (n : Nat) {s : Store} (hs : P s) :
    ∃ s', P s' ∧ verifyRepeatedly r mocks expected notCalled n s =
      (((s'.probe (Verification.verifyWith r expected notCalled (mergedLog s' r mocks))).1, mergedLog s' r mocks),
        (s'.probe (Verification.verifyWith r expected notCalled (mergedLog s' r mocks))).2) := by
  induction n generalizing s with
  | zero => exact ⟨s, hs, rfl⟩
  | succ n ih =>
      rw [verifyRepeatedly]
      dsimp only
      split
      · exact ⟨s, hs, rfl⟩
      · exact ih (hprobe s _ hs)

section

variable (hI : World.KeptByOperations i I)

include hI

theorem evaluate_preserves (r : Request) (resolution : Resolution) (notCalled : List ObjectRef) :
    (evaluate r resolution notCalled : Act σ MockError Report).Preserves I := by
  refine Preserves.get.bind fun w => ?_
  refine (Preserves.forM (fun mock => (Preserves.stub mock).bind fun _ => .pure _) _).bind fun _ => ?_
  refine Preserves.get.bind fun _ => ?_
  refine (Preserves.onStore fun w => hI.store w _ (.verifyRepeatedly r _ _ _ _)).bind fun result => ?_
  exact (Preserves.modifyStore fun w => hI.store w _ (.markVerified _ _)).bind fun _ => .pure _

theorem finalizeVerification_preserves : (finalizeVerification i : Act σ MockError Report).Preserves I := by
  refine (takeVerification_preserves hI.session _).bind fun taken =>
    (evaluate_preserves hI _ _ _).bind fun report => ?_
  split
  · exact .pure _
  · exact .throw _

theorem excludeEach_preserves (detached : List Nat) :
    ∀ ms : List CallMatcher, (excludeEach detached ms : Act σ MockError Nat).Preserves I
  | [] => .pure _
  | m :: ms => by
      rw [excludeEach]
      split
      · exact excludeEach_preserves detached ms
      · exact (Preserves.stub _).bind fun _ =>
          (Preserves.onStore fun w => hI.store w _ (.exclude m.target.id m)).bind fun _ =>
            (excludeEach_preserves detached ms).bind fun _ => .pure _

theorem command_preserves : ∀ c : Command α, (c.act i : Act σ MockError α).Preserves I
  | .beginStubbing => beginStubbing_preserves hI.session
  | .beginVerification r => beginVerification_preserves hI.session r
  | .attachAnswer answer => attachAnswer_preserves hI.stubbing answer
  | .finalizeVerification => finalizeVerification_preserves hI
  | .registerMatcher m shape => registerMatcher_preserves hI.stubbing m shape
  | .wasNotCalled o => wasNotCalled_preserves hI.session o
  | .reset => .modifySession fun w => hI.session w _ .cleared
  | .finish answer => finish_preserves hI.stubbing answer
  | .abandon => abandon_preserves hI.session

theorem statement_preserves (hrun : (runRecordedBlock i block).Preserves I) (s : Statement α) :
    (s.act i block).Preserves I := by
  cases s with
  | runRecordedBlock => exact hrun
  | every => exact (beginStubbing_preserves hI.session).bind fun _ => hrun.bind fun _ => .pure _
  | verify r =>
      exact (beginVerification_preserves hI.session r).bind fun _ => hrun.bind fun _ =>
        finalizeVerification_preserves hI
  | excludeRecords =>
      exact (beginVerification_preserves hI.session {}).bind fun _ => hrun.bind fun _ =>
        (takeVerification_preserves hI.session _).bind fun _ => Preserves.get.bind fun _ =>
          excludeEach_preserves hI _ _

end

/-! ## The code of a user -/

namespace Preserves

variable {μ : Type} {I : World (Log μ) → Prop} (hI : World.KeptByNotes I)

include hI

theorem note (failed : Option Failed) : (Act.note failed : Act (Log μ) ε Unit).Preserves I := fun w hw =>
  .of_ok rfl (hI w _ _ hw)

theorem setRunning (f : List Nat → List Nat) : (Act.setRunning f : Act (Log μ) ε Unit).Preserves I := fun w hw =>
  .of_ok rfl (hI w _ _ hw)

theorem operation {x : Act (Log μ) MockError α} (hx : x.Preserves I) (name : String) (i : Nat) :
    (Act.operation name i x).Preserves I := by
  refine hx.attempt.bind fun r => ?_
  cases r <;> exact (note hI _).bind fun _ => .pure _

theorem side {x : Act (Log μ) MockError α} (hx : x.Preserves I) : (Act.side x).Preserves I :=
  hx.attempt.bind fun _ => (note hI none).bind fun _ => .pure _

theorem inUnderlying {x : Act (Log μ) Failure Value} (hx : x.Preserves I) : (Act.inUnderlying x).Preserves I :=
  (note hI none).bind fun _ => hx

theorem inBlock {x : Act (Log μ) Failure Value} (hx : x.Preserves I) (i : Nat) : (Act.inBlock i x).Preserves I := by
  refine (setRunning hI _).bind fun _ => (note hI none).bind fun _ => hx.attempt.bind fun r =>
    (setRunning hI _).bind fun _ => ?_
  cases r
  · exact .throw _
  · exact .pure _

end Preserves

end Act

end TestDouble
