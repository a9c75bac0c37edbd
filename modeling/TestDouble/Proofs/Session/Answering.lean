import TestDouble.Proofs.Session.Running

/-!
# Answering calls

Where no round is in progress a call is logged and answered: once its answer is selected, only the answer itself
can change the world.
-/

namespace TestDouble

namespace World

variable {σ : Type}

/-- The call that session `j` is about to make. -/
def nextCall (w : World σ) (j : Nat) (target : ObjectRef) (method : Method) (args : List Value) : Call :=
  ⟨target, method, args, w.store.nextSequence, (w.session j).frames.head?⟩

/-- The store from which the answer of the next call is selected. -/
def callingStore (w : World σ) : Store := { w.store with nextSequence := w.store.nextSequence + 1 }

/-- Whether this call is logged. -/
def logs (w : World σ) (c : Call) : Bool := w.settings.logSelfCalls || !c.isSelfCall

end World

namespace Act

variable {σ : Type} {w : World σ} {j : Nat} {target : ObjectRef} {method : Method} {args : List Value}
  {underlying : Option (Underlying σ)}

/-- Without a round in progress a call is answered. -/
theorem exists_answerCall (hr : (w.session j).round = none) (target : ObjectRef) (method : Method)
    (args : List Value) (underlying : Option (Underlying σ)) : ∃ caller,
      (intercept j target method args underlying).runOn w =
        (answerCall caller j target method args underlying).runOn w := by
  have hwith : ∀ caller, (interceptWith caller j target method args underlying).runOn w =
      (answerCall caller j target method args underlying).runOn w := by
    intro caller
    rw [interceptWith, runOn_bind_ok (runOn_session j w), hr]
  rw [intercept, runOn_bind_ok (runOn_get w)]
  cases w.depth with
  | zero => exact ⟨_, hwith _⟩
  | succ n => exact ⟨_, hwith _⟩

/-- The result of a call whose answer, or whose want of an answer, changes nothing but the store. -/
theorem runOn_answerCall {caller : Caller σ} {stub stub' : Stub} {answer : Option Answer} {s s' : Store} {c : Call}
    {r : Except MockError Value} (hc : w.nextCall j target method args = c)
    (hstub : w.store.registry.stub? target.id = some stub)
    (hres : w.callingStore.resolve target.id c (w.logs c) = (answer, s))
    (hcurrent : s.registry.stub? target.id = some stub')
    (hrespond : ∀ sessions, (match answer with
      | some answer => respond caller c underlying answer
      | none => fallback stub' c underlying).runOn { w with store := s, sessions } =
        (r, { w with store := s', sessions })) :
    (answerCall caller j target method args underlying).runOn w = (r, { w with store := s' }) := by
  subst hc
  have hnew : (onStore (·.newCall target method args (w.session j).frames.head?) : Act σ MockError Call).runOn w =
      (.ok (w.nextCall j target method args), { w with store := w.callingStore }) := rfl
  have hselect : (onStore (·.resolve target.id (w.nextCall j target method args)
      (w.settings.logSelfCalls || !(w.nextCall j target method args).isSelfCall)) :
        Act σ MockError (Option Answer)).runOn { w with store := w.callingStore } =
          (.ok answer, { w with store := s }) := by
    rw [World.logs] at hres
    rw [runOn_onStore, hres]
  have hget : (Act.stub target.id : Act σ MockError Stub).runOn { w with store := s } = _ := runOn_stub_ok hcurrent
  rw [answerCall, runOn_bind_ok (runOn_stub_ok hstub), runOn_bind_ok (runOn_session j w), runOn_bind_ok hnew,
    runOn_bind_ok (runOn_get _)]
  dsimp only
  rw [runOn_bind_ok hselect, runOn_bind_ok hget, runOn_bind_ok (runOn_modifySession j _ _),
    runOn_bind_ok (runOn_attempt _ _)]
  let push : Session → Session := fun x => { x with frames := (w.nextCall j target method args).frame :: x.frames }
  have hanswered : (match answer with
      | some answer => respond caller (w.nextCall j target method args) underlying answer
      | none => fallback stub' (w.nextCall j target method args) underlying).runOn
        (({ w with store := s } : World σ).modifySession j push) =
          (r, ({ w with store := s' } : World σ).modifySession j push) := hrespond _
  -- The frame of the call is gone again at its end.
  have hframes : (({ w with store := s' } : World σ).modifySession j push).modifySession j
      (fun x => { x with frames := x.frames.tail }) = { w with store := s' } := by
    rw [World.modifySession_modifySession, World.modifySession_self rfl]
  cases answer with
  | none =>
      dsimp only at hanswered ⊢
      rw [hanswered, runOn_bind_ok (runOn_modifySession j _ _), runOn_ofExcept, hframes]
  | some answer =>
      dsimp only at hanswered ⊢
      rw [hanswered, runOn_bind_ok (runOn_modifySession j _ _), runOn_ofExcept, hframes]

end Act

end TestDouble
