import TestDouble.Proofs.Session.Ensures

/-!
# What computations preserve

A property of the world is preserved by a computation that leads from every world with the property to worlds with
it. A call preserves what its steps on the store preserve, if it is not about the calls that are running, and goes
on with a round.
-/

namespace TestDouble

/-- What a call does to the store: it is recorded, or it is logged and answered, and the answer has its effects. -/
inductive Store.CallStep (s : Store) : Store → Prop
  | capture (round : OpenRound) (generator : Generator) (target : ObjectRef) (method : Method) (args : List Value)
      (caller : Option Frame) : CallStep s (round.capture generator s target method args caller).2.2.2
  | newCall (target : ObjectRef) (method : Method) (args : List Value) (caller : Option Frame) :
      CallStep s (s.newCall target method args caller).2
  | resolve (mock : Nat) (c : Call) (log : Bool) : CallStep s (s.resolve mock c log).2
  | relaxedChild (stub : Stub) (c : Call) (className : String) : CallStep s (s.relaxedChild stub c className).2
  | clearAnswers (mock : Nat) : CallStep s (s.clearAnswers mock)
  | release {mock : Nat} {s' : Store} (h : s.release mock = .ok s') : CallStep s s'
  | countTally (counter : Nat) : CallStep s (s.countTally counter)

/-- What the answer of a call does to the store, calls that it makes apart. -/
inductive Store.AnswerStep (s : Store) : Store → Prop
  | relaxedChild (stub : Stub) (c : Call) (className : String) : AnswerStep s (s.relaxedChild stub c className).2
  | clearAnswers (mock : Nat) : AnswerStep s (s.clearAnswers mock)
  | release {mock : Nat} {s' : Store} (h : s.release mock = .ok s') : AnswerStep s s'
  | countTally (counter : Nat) : AnswerStep s (s.countTally counter)

theorem Store.AnswerStep.callStep {s s' : Store} (h : s.AnswerStep s') : s.CallStep s' := by
  cases h with
  | relaxedChild stub c className => exact .relaxedChild stub c className
  | clearAnswers mock => exact .clearAnswers mock
  | release h => exact .release h
  | countTally counter => exact .countTally counter

/-- Answers keep this property of the world. -/
def World.KeptByAnswers {σ : Type} (I : World σ → Prop) : Prop :=
  ∀ w s, w.store.AnswerStep s → I w → I { w with store := s }

/-- The call is recorded in this round of the session. -/
def World.capture {σ : Type} (w : World σ) (i : Nat) (o : OpenRound) (target : ObjectRef) (method : Method)
    (args : List Value) : World σ :=
  let c := o.capture (w.session i).generator w.store target method args (w.session i).frames.head?
  World.modifySession { w with store := c.2.2.2 } i fun s => { s with round := some c.2.1, generator := c.2.2.1 }

/-- Calls keep this property of the world, whatever answers them. -/
structure World.KeptByCalls {σ : Type} (I : World σ → Prop) : Prop where
  store : ∀ w s, w.store.CallStep s → I w → I { w with store := s }
  frames : ∀ w i (f : Session → List Frame), I w → I (w.modifySession i fun s => { s with frames := f s })
  capture : ∀ w i o target method args, (w.session i).round = some o → I w → I (w.capture i o target method args)

theorem World.KeptByCalls.answers {σ : Type} {I : World σ → Prop} (h : KeptByCalls I) : KeptByAnswers I := fun w s hs =>
  h.store w s hs.callStep

namespace Act

variable {σ ε ε' α β : Type} {I : World σ → Prop} {i : Nat}

/-- The property is kept, whether the computation succeeds or fails. -/
def Preserves (I : World σ → Prop) (x : Act σ ε α) : Prop := ∀ w, I w → x.Ensures w (fun _ => I) fun _ => I

namespace Preserves

variable {x : Act σ ε α}

theorem pure (a : α) : (Pure.pure a : Act σ ε α).Preserves I := fun _ hw => .pure hw

theorem throw (e : ε) : (MonadExcept.throw e : Act σ ε α).Preserves I := fun _ hw => .throw hw

theorem ofExcept (r : Except ε α) : (Act.ofExcept r : Act σ ε α).Preserves I := fun _ hw =>
  .ofExcept (fun _ _ => hw) fun _ _ => hw

theorem bind {f : α → Act σ ε β} (hx : x.Preserves I) (hf : ∀ a, (f a).Preserves I) : (x >>= f).Preserves I :=
  fun w hw => .bind ((hx w hw).mono (fun a w' => hf a w') fun _ _ h => h)

theorem attempt (hx : x.Preserves I) : (Act.attempt x : Act σ ε' (Except ε α)).Preserves I := fun w hw =>
  .attempt (hx w hw)

theorem adapt (hx : x.Preserves I) (f : ε → ε') : Preserves I (ExceptT.adapt f x) := fun w hw => .adapt (hx w hw)

theorem get : (MonadState.get : Act σ ε (World σ)).Preserves I := fun _ hw => .get hw

theorem session : (Act.session i : Act σ ε Session).Preserves I := fun _ hw => .session hw

theorem stub (mock : Nat) : (Act.stub mock : Act σ MockError Stub).Preserves I := get.bind fun _ => ofExcept _

theorem modifySession {f : Session → Session} (h : ∀ w, I w → I (w.modifySession i f)) :
    (Act.modifySession i f : Act σ ε Unit).Preserves I := fun w hw => .modifySession (h w hw)

theorem onStore {f : Store → α × Store} (h : ∀ w, I w → I { w with store := (f w.store).2 }) :
    (Act.onStore f : Act σ ε α).Preserves I := fun w hw => .of_ok (runOn_onStore f w) (h w hw)

theorem modifyStore {f : Store → Store} (h : ∀ w, I w → I { w with store := f w.store }) :
    (Act.modifyStore f : Act σ ε Unit).Preserves I := fun w hw => .of_ok (runOn_modifyStore f w) (h w hw)

theorem updateStore {f : Store → Except ε Store} (h : ∀ w s, f w.store = .ok s → I w → I { w with store := s }) :
    (Act.updateStore f : Act σ ε Unit).Preserves I := fun w hw =>
  .bind (.get (.bind (.ofExcept (fun s hs => .of_ok rfl (h w s hs hw)) fun _ _ => hw)))

theorem forM {f : β → Act σ ε PUnit} (hf : ∀ b, (f b).Preserves I) : ∀ bs : List β, (bs.forM f).Preserves I
  | [] => pure _
  | b :: bs => (hf b).bind fun _ => forM hf bs

end Preserves

/-! ## Calls -/

section

variable {caller : Caller σ} {underlying : Option (Underlying σ)} {c : Call} {target : ObjectRef} {method : Method}
  {args : List Value}

theorem react_preserves (hI : World.KeptByAnswers I) (hc : ∀ o, (caller o).Preserves I) :
    ∀ r : Reaction, (react caller r).Preserves I
  | .done result => .ofExcept result
  | .callCount _ next => Preserves.get.bind fun _ => react_preserves hI hc (next _)
  | .clearAnswers mock next =>
      Preserves.get.bind fun _ => (Preserves.modifyStore fun w => hI w _ (.clearAnswers mock)).bind fun _ =>
        react_preserves hI hc (next _)
  | .release _ next => by
      refine (Preserves.updateStore fun w s hs => hI w s (.release hs)).attempt.bind fun r => ?_
      cases r with
      | ok _ => exact react_preserves hI hc (next true)
      | error _ => exact react_preserves hI hc (next false)
  | .tally counter next =>
      Preserves.get.bind fun _ => (Preserves.modifyStore fun w => hI w _ (.countTally counter)).bind fun _ =>
        react_preserves hI hc (next _)
  | .call _ _ _ _ next => (hc _).attempt.bind fun r => react_preserves hI hc (next r)
  | .callThrough _ _ _ _ _ next => (hc _).attempt.bind fun r => react_preserves hI hc (next r)

theorem callUnderlying_preserves (hu : ∀ run ∈ underlying, ∀ args, (run args).Preserves I) :
    (callUnderlying c underlying).Preserves I := by
  cases underlying with
  | none => exact .throw _
  | some run => exact (hu run rfl c.args).adapt _

theorem respond_preserves (hI : World.KeptByAnswers I) (hc : ∀ o, (caller o).Preserves I)
    (hu : ∀ run ∈ underlying, ∀ args, (run args).Preserves I) :
    ∀ answer, (respond caller c underlying answer).Preserves I
  | .constant v => .pure v
  | .throw _ => .throw _
  | .callUnderlying => callUnderlying_preserves hu
  | .sequence [] => .pure _
  | .sequence (answer :: _) => by rw [respond]; exact respond_preserves hI hc hu answer
  | .computed f => (react_preserves hI hc (f c)).adapt _
  | .computedAsync f => (react_preserves hI hc (f c)).adapt _

theorem fallback_preserves (stub : Stub) (hI : World.KeptByAnswers I)
    (hu : ∀ run ∈ underlying, ∀ args, (run args).Preserves I) : (fallback stub c underlying).Preserves I := by
  unfold fallback
  split
  · exact callUnderlying_preserves hu
  · exact (Preserves.onStore fun w => hI w _ (.relaxedChild stub c _)).bind fun _ => .pure _
  · exact .pure _
  · exact .pure _
  · exact .throw _
  · exact .throw _

theorem answerCall_preserves (hI : World.KeptByCalls I) (hc : ∀ o, (caller o).Preserves I)
    (hu : ∀ run ∈ underlying, ∀ args, (run args).Preserves I) :
    (answerCall caller i target method args underlying).Preserves I := by
  refine (Preserves.stub _).bind fun _ => Preserves.session.bind fun s => ?_
  refine (Preserves.onStore fun w => hI.store w _ (.newCall target method args s.frames.head?)).bind fun c => ?_
  refine Preserves.get.bind fun w => ?_
  refine (Preserves.onStore fun w' => hI.store w' _ (.resolve target.id c _)).bind fun answer => ?_
  refine (Preserves.stub _).bind fun current => (Preserves.modifySession fun w hw => hI.frames w i _ hw).bind fun _ => ?_
  refine Preserves.bind (Preserves.attempt ?_) fun _ =>
    (Preserves.modifySession fun w hw => hI.frames w i _ hw).bind fun _ => .ofExcept _
  cases answer with
  | none => exact fallback_preserves current hI.answers hu
  | some answer => exact respond_preserves hI.answers hc hu answer

theorem interceptWith_preserves (hI : World.KeptByCalls I) (hc : ∀ o, (caller o).Preserves I)
    (hu : ∀ run ∈ underlying, ∀ args, (run args).Preserves I) :
    (interceptWith caller i target method args underlying).Preserves I := by
  intro w hw
  refine .bind (.session ?_)
  cases hround : (w.session i).round with
  | none => exact answerCall_preserves hI hc hu w hw
  | some round =>
      refine .bind (.get (.bind (.of_ok rfl (.bind (.modifySession (.pure ?_))))))
      exact hI.capture w i round target method args hround hw

theorem makeCall_preserves (hI : World.KeptByCalls I) : ∀ (n : Nat) (o : Outgoing), (makeCall n o).Preserves I
  | 0, _ => .throw _
  | n + 1, o => by
      refine interceptWith_preserves hI (makeCall_preserves hI n) fun run hrun args => ?_
      obtain ⟨f, -, rfl⟩ := Option.map_eq_some_iff.mp hrun
      exact react_preserves hI.answers (makeCall_preserves hI n) (f args)

theorem intercept_preserves (hI : World.KeptByCalls I) (hu : ∀ run ∈ underlying, ∀ args, (run args).Preserves I) :
    (intercept i target method args underlying).Preserves I :=
  Preserves.get.bind fun w => interceptWith_preserves hI (makeCall_preserves hI w.depth) hu

end

end Act

end TestDouble
