import TestDouble.Proofs.Session.Running

/-!
# Computations that do not look at the memory

What the library does is the same whatever memory the code of a user has: if the code that it runs does the same on two
kinds of memory, so does every operation.
-/

namespace TestDouble

/-- The world with its memory read through `φ`. -/
def World.map {σ τ : Type} (φ : σ → τ) (w : World σ) : World τ := { w with memory := φ w.memory }

namespace Act

variable {σ τ ε ε' α β : Type} {φ : σ → τ} {i : Nat}

/-- On the memory read through `φ` the second computation does what the first one does. -/
def Maps (φ : σ → τ) (x : Act σ ε α) (y : Act τ ε α) : Prop :=
  ∀ w, y.runOn (w.map φ) = ((x.runOn w).1, (x.runOn w).2.map φ)

namespace Maps

theorem pure (a : α) : Maps φ (Pure.pure a : Act σ ε α) (Pure.pure a) := fun _ => rfl

theorem throw (e : ε) : Maps φ (MonadExcept.throw e : Act σ ε α) (MonadExcept.throw e) := fun _ => rfl

theorem ofExcept (r : Except ε α) : Maps φ (Act.ofExcept r) (Act.ofExcept r) := by cases r <;> exact fun _ => rfl

theorem bind {x : Act σ ε α} {y : Act τ ε α} {f : α → Act σ ε β} {g : α → Act τ ε β} (hx : Maps φ x y)
    (hf : ∀ a, Maps φ (f a) (g a)) : Maps φ (x >>= f) (y >>= g) := by
  intro w
  rw [runOn_bind, runOn_bind, hx w]
  rcases x.runOn w with ⟨_ | a, w'⟩
  · rfl
  · exact hf a w'

theorem get_bind {f : World σ → Act σ ε α} {g : World τ → Act τ ε α} (h : ∀ w, Maps φ (f w) (g (w.map φ))) :
    Maps φ (MonadState.get >>= f) (MonadState.get >>= g) := fun w => h w w

theorem attempt {x : Act σ ε α} {y : Act τ ε α} (hx : Maps φ x y) :
    Maps φ (Act.attempt x : Act σ ε' (Except ε α)) (Act.attempt y) := fun w => by
  rw [runOn_attempt, runOn_attempt, hx w]

theorem adapt {x : Act σ ε α} {y : Act τ ε α} (hx : Maps φ x y) (f : ε → ε') :
    Maps φ (ExceptT.adapt f x) (ExceptT.adapt f y) := fun w => by
  rw [runOn_adapt, runOn_adapt, hx w]

theorem session : Maps φ (Act.session i : Act σ ε Session) (Act.session i) := fun _ => rfl

theorem modifySession (f : Session → Session) : Maps φ (Act.modifySession i f : Act σ ε Unit) (Act.modifySession i f) :=
  fun _ => rfl

theorem onStore (f : Store → α × Store) : Maps φ (Act.onStore f : Act σ ε α) (Act.onStore f) := fun _ => rfl

theorem modifyStore (f : Store → Store) : Maps φ (Act.modifyStore f : Act σ ε Unit) (Act.modifyStore f) := fun _ => rfl

theorem updateStore (f : Store → Except ε Store) : Maps φ (Act.updateStore f) (Act.updateStore f) :=
  get_bind fun w => (ofExcept (f w.store)).bind fun _ _ => rfl

theorem stub (mock : Nat) : Maps φ (Act.stub mock) (Act.stub mock) :=
  get_bind fun w => ofExcept (w.store.registry.get mock)

theorem fail (e : ε) : Maps φ (Act.fail i e : Act σ ε α) (Act.fail i e) := fun _ => rfl

theorem orFail {x : Act σ ε α} {y : Act τ ε α} (hx : Maps φ x y) : Maps φ (Act.orFail i x) (Act.orFail i y) := by
  intro w
  rcases hrun : x.runOn w with ⟨e | a, w'⟩
  · have hy : y.runOn (w.map φ) = (.error e, w'.map φ) := by rw [hx w, hrun]
    rw [runOn_orFail_error hrun, runOn_orFail_error hy]
    rfl
  · have hy : y.runOn (w.map φ) = (.ok a, w'.map φ) := by rw [hx w, hrun]
    rw [runOn_orFail_ok hrun, runOn_orFail_ok hy]

theorem forM {f : β → Act σ ε PUnit} {g : β → Act τ ε PUnit} (h : ∀ b, Maps φ (f b) (g b)) :
    ∀ bs : List β, Maps φ (bs.forM f) (bs.forM g)
  | [] => pure _
  | b :: bs => (h b).bind fun _ => forM h bs

theorem discard {x : Act σ ε α} {y : Act τ ε α} (hx : Maps φ x y) : Maps φ (Functor.discard x) (Functor.discard y) :=
  hx.bind fun _ => pure _

theorem expectPhase (operation : String) (allowed : List Phase) :
    Maps φ (Act.expectPhase i operation allowed) (Act.expectPhase i operation allowed) := by
  refine session.bind fun s => ?_
  dsimp only
  split
  · exact pure _
  · exact fail _

/-! ## Calls -/

section

variable {caller : Caller σ} {caller' : Caller τ} {underlying : Option (Underlying σ)}
  {underlying' : Option (Underlying τ)} {c : Call}
  (hc : ∀ o, Maps φ (caller o) (caller' o))
  (hu : Option.Rel (fun run run' => ∀ args, Maps φ (run args) (run' args)) underlying underlying')

include hc in
theorem react : ∀ r : Reaction, Maps φ (Act.react caller r) (Act.react caller' r)
  | .done result => ofExcept result
  | .callCount mock next => get_bind fun w => react (next (w.store.callCount? mock))
  | .clearAnswers mock next => get_bind fun w =>
      (modifyStore _).bind fun _ => react (next (w.store.registry.contains mock))
  | .release mock next => by
      refine (attempt (updateStore _)).bind fun r => ?_
      cases r with
      | ok _ => exact react (next true)
      | error _ => exact react (next false)
  | .tally counter next => get_bind fun w =>
      (modifyStore _).bind fun _ => react (next (w.store.tallyOf counter))
  | .call session target method args next => (attempt (hc _)).bind fun r => react (next r)
  | .callThrough session target method args underlying next => (attempt (hc _)).bind fun r => react (next r)

include hu in
theorem callUnderlying : Maps φ (Act.callUnderlying c underlying) (Act.callUnderlying c underlying') := by
  cases hu with
  | none => exact throw _
  | some h => exact (h c.args).adapt _

include hc hu in
theorem respond : ∀ answer, Maps φ (Act.respond caller c underlying answer) (Act.respond caller' c underlying' answer)
  | .constant v => pure v
  | .throw _ => throw _
  | .callUnderlying => callUnderlying hu
  | .sequence [] => pure _
  | .sequence (answer :: _) => by
      rw [Act.respond, Act.respond]
      exact respond answer
  | .computed f => (react hc (f c)).adapt _
  | .computedAsync f => (react hc (f c)).adapt _

include hu in
theorem fallback (stub : Stub) : Maps φ (Act.fallback stub c underlying) (Act.fallback stub c underlying') := by
  unfold Act.fallback
  cases stub.kind with
  | spy => exact callUnderlying hu
  | strict => exact throw _
  | relaxed =>
      cases c.method.returns with
      | object className => exact (onStore _).bind fun _ => pure _
      | _ => exact pure _
  | relaxedUnit =>
      cases c.method.returns with
      | unit => exact pure _
      | _ => exact throw _

include hc hu in
theorem answerCall (i : Nat) (target : ObjectRef) (method : Method) (args : List Value) :
    Maps φ (Act.answerCall caller i target method args underlying)
      (Act.answerCall caller' i target method args underlying') := by
  refine (stub _).bind fun _ => session.bind fun s => (onStore _).bind fun c => get_bind fun w => ?_
  refine (onStore _).bind fun answer => (stub _).bind fun current => (modifySession _).bind fun _ => ?_
  refine (attempt ?_).bind fun result => (modifySession _).bind fun _ => ofExcept result
  cases answer with
  | none => exact fallback hu current
  | some answer => exact respond hc hu answer

include hc hu in
theorem interceptWith (i : Nat) (target : ObjectRef) (method : Method) (args : List Value) :
    Maps φ (Act.interceptWith caller i target method args underlying)
      (Act.interceptWith caller' i target method args underlying') := by
  refine session.bind fun s => ?_
  cases s.round with
  | none => exact answerCall hc hu i target method args
  | some round => exact get_bind fun w => (modifyStore _).bind fun _ => (modifySession _).bind fun _ => pure _

end

/-! ## Recording -/

theorem registerMatcher (m : Matcher) (shape : Shape) :
    Maps φ (Act.registerMatcher i m shape) (Act.registerMatcher i m shape) := by
  refine session.bind fun s => ?_
  cases s.round with
  | none => exact fail _
  | some round => exact get_bind fun w => (modifyStore _).bind fun _ => (modifySession _).bind fun _ => pure _

theorem wasNotCalled (o : ObjectRef) : Maps φ (Act.wasNotCalled i o) (Act.wasNotCalled i o) := by
  refine session.bind fun s => ?_
  split
  · exact modifySession _
  · exact fail _

section

variable {block : Act σ Failure Unit} {block' : Act τ Failure Unit} (hb : Maps φ block block')

include hb

theorem recordRound (phase : Phase) (index : Nat) : ∀ (n : Nat) (hinting : Hinting),
    Maps φ (Act.recordRound i block phase index n hinting) (Act.recordRound i block' phase index n hinting)
  | 0, _ => throw _
  | n + 1, hinting => by
      refine (modifySession _).bind fun _ => (attempt hb).bind fun outcome => session.bind fun s => ?_
      cases s.round with
      | none => cases outcome <;> exact throw _
      | some finished =>
          refine (modifySession _).bind fun _ => ?_
          split
          · exact pure _
          · exact recordRound phase index n _
          · exact throw _

theorem recordMore (phase : Phase) : ∀ (n index : Nat) (hinting : Hinting),
    Maps φ (Act.recordMore i block phase n index hinting) (Act.recordMore i block' phase n index hinting)
  | 0, _, _ => pure _
  | n + 1, index, hinting => (recordRound hb phase index passLimit hinting.startRound).bind fun _ =>
      (recordMore phase n (index + 1) _).bind fun _ => pure _

theorem recordRounds (phase : Phase) : Maps φ (Act.recordRounds i block phase) (Act.recordRounds i block' phase) := by
  refine get_bind fun w => ?_
  dsimp only [World.map]
  split
  · exact pure _
  · exact (recordRound hb phase 0 passLimit {}).bind fun _ => (recordMore hb phase _ 1 _).bind fun _ => pure _

theorem recordBlock (phase : Phase) : Maps φ (Act.recordBlock i block phase) (Act.recordBlock i block' phase) := by
  refine (recordRounds hb phase).bind fun rounds => (ofExcept _).bind fun resolution => session.bind fun s => ?_
  dsimp only
  split
  · exact (throw _).bind fun _ => pure _
  · exact pure _

theorem runRecordedBlock : Maps φ (Act.runRecordedBlock i block) (Act.runRecordedBlock i block') := by
  refine (expectPhase _ _).bind fun phase => session.bind fun s => ?_
  dsimp only
  split
  · exact (fail _).bind fun _ => (orFail (recordBlock hb phase)).bind fun _ => modifySession _
  · exact (orFail (recordBlock hb phase)).bind fun _ => modifySession _

end

/-! ## Statements -/

theorem linkChild (stub : Stub) (m : CallMatcher) (object : ObjectRef) :
    Maps φ (Act.linkChild stub m object) (Act.linkChild stub m object) := by
  unfold Act.linkChild
  split
  · exact pure _
  · exact (onStore _).bind fun _ => (modifyStore _).bind fun _ => pure _

theorem install (answer : Answer) : ∀ (resolution : Resolution) (links : Links),
    Maps φ (Act.install answer links resolution) (Act.install answer links resolution)
  | [], _ => pure ()
  | c :: cs, links => by
      rw [Act.install, Act.install]
      refine (stub _).bind fun target => ?_
      split
      · exact (modifyStore _).bind fun _ => install answer cs links
      · split
        · exact install answer cs links
        · exact (linkChild _ _ _).bind fun _ => install answer cs _

theorem attachAnswer (answer : Answer) : Maps φ (Act.attachAnswer i answer) (Act.attachAnswer i answer) := by
  refine (expectPhase _ _).bind fun _ => session.bind fun s => (modifySession _).bind fun _ => ?_
  cases s.resolution with
  | none => exact fail _
  | some resolution => exact (orFail (install answer _ _)).bind fun _ => modifySession _

theorem abandon (p : PendingAnswer) : Maps φ (Act.abandon p) (Act.abandon p) := by
  refine session.bind fun s => ?_
  split
  · exact modifySession _
  · exact pure _

theorem finish (p : PendingAnswer) (answer : Answer) : Maps φ (Act.finish p answer) (Act.finish p answer) :=
  (attempt (attachAnswer answer)).bind fun result => (abandon p).bind fun _ => .ofExcept result

theorem beginStubbing : Maps φ (Act.beginStubbing i) (Act.beginStubbing i) :=
  (expectPhase _ _).bind fun _ => modifySession _

theorem beginVerification (r : Request) : Maps φ (Act.beginVerification i r) (Act.beginVerification i r) :=
  (expectPhase _ _).bind fun _ => modifySession _

theorem takeVerification (operation : String) :
    Maps φ (Act.takeVerification i operation) (Act.takeVerification i operation) := by
  refine session.bind fun s => ?_
  split
  · exact (modifySession _).bind fun _ => pure _
  · exact fail _

theorem evaluate (r : Request) (resolution : Resolution) (notCalled : List ObjectRef) :
    Maps φ (Act.evaluate r resolution notCalled) (Act.evaluate r resolution notCalled) :=
  get_bind fun _ => (forM (fun mock => (stub mock).discard) _).bind fun _ => get_bind fun _ =>
    (onStore _).bind fun _ => (modifyStore _).bind fun _ => pure _

theorem finalizeVerification : Maps φ (Act.finalizeVerification i) (Act.finalizeVerification i) := by
  refine (takeVerification _).bind fun taken => (evaluate _ _ _).bind fun report => ?_
  split
  · exact pure _
  · exact throw _

theorem excludeEach (detached : List Nat) : ∀ ms : List CallMatcher,
    Maps φ (Act.excludeEach detached ms) (Act.excludeEach detached ms)
  | [] => pure _
  | m :: ms => by
      rw [Act.excludeEach, Act.excludeEach]
      split
      · exact excludeEach detached ms
      · exact (stub _).bind fun _ => (onStore _).bind fun _ => (excludeEach detached ms).bind fun _ => pure _

end Maps

end Act

end TestDouble
