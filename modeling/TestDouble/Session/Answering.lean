import TestDouble.Session.Basic

/-!
# Answering calls

A call made while a round is in progress is recorded. Any other call is logged and answered: by the
newest entry of the mock that accepts it, else by the kind of the mock.

Calls are sequential. A call is made within the answer of another one, or after it, and nothing comes
between the drawing of its number and its entry in the log. Overlapping calls of several threads, which may
be logged in another order than they are numbered, are outside.
-/

namespace TestDouble

/-- A call that a computed answer makes. -/
structure Outgoing where
  session : Nat
  target : ObjectRef
  method : Method
  args : List Value
  /-- The implementation behind the mock. -/
  underlying : Option (List Value → Reaction) := none

namespace Act

variable {σ : Type}

/-- How the calls of computed answers are made. -/
abbrev Caller (σ : Type) := Outgoing → Act σ MockError Value

/-- Run a computed answer to its result. -/
def react (caller : Caller σ) : Reaction → Act σ Failure Value
  | .done result => ofExcept result
  | .callCount mock next => do react caller (next ((← get).store.callCount? mock))
  | .clearAnswers mock next => do
    let known := (← get).store.registry.contains mock
    modifyStore (·.clearAnswers mock)
    react caller (next known)
  | .release mock next => do
    match ← attempt (updateStore (·.release mock)) with
    | .ok _ => react caller (next true)
    | .error _ => react caller (next false)
  | .tally counter next => do
    let n := (← get).store.tallyOf counter
    modifyStore (·.countTally counter)
    react caller (next n)
  | .call session target method args next => do
    react caller (next (← attempt (caller { session, target, method, args })))
  | .callThrough session target method args underlying next => do
    react caller (next (← attempt (caller { session, target, method, args, underlying := some underlying })))

/-- Run the implementation behind a mock. -/
def callUnderlying (c : Call) : Option (Underlying σ) → Act σ MockError Value
  | some run => ExceptT.adapt Failure.ofAnswer (run c.args)
  | none => throw (.noUnderlying c.text)

/-- The result of a call with this answer. -/
def respond (caller : Caller σ) (c : Call) (underlying : Option (Underlying σ)) :
    Answer → Act σ MockError Value
  | .constant v => return v
  | .throw failure => throw (.thrown failure)
  | .callUnderlying => callUnderlying c underlying
  | .sequence [] => return .unit
  | .sequence (answer :: _) => respond caller c underlying answer
  | .computed f => ExceptT.adapt Failure.ofAnswer (react caller (f c))
  | .computedAsync f => ExceptT.adapt Failure.ofAnswer (react caller (f c))

/-- The result of a call that no entry accepts. -/
def fallback (stub : Stub) (c : Call) (underlying : Option (Underlying σ)) : Act σ MockError Value :=
  let refuse := throw (.noAnswer stub.object.text c.text stub.registered)
  match stub.kind, c.method.returns with
  | .spy, _ => callUnderlying c underlying
  | .relaxed, .object className => return .object (← onStore (·.relaxedChild stub c className))
  | .relaxed, shape => return shape.defaultValue
  | .relaxedUnit, .unit => return .unit
  | .relaxedUnit, _ => refuse
  | .strict, _ => refuse

/-- Answer a call. The frame of the call is in place while its answer runs, and only then. -/
def answerCall (caller : Caller σ) (i : Nat) (target : ObjectRef) (method : Method)
    (args : List Value) (underlying : Option (Underlying σ)) : Act σ MockError Value := do
  let _ ← stub target.id
  let frame := (← session i).frames.head?
  let c ← onStore (·.newCall target method args frame)
  let log := (← get).settings.logSelfCalls || !c.isSelfCall
  let answer ← onStore (·.resolve target.id c log)
  let current ← stub target.id
  modifySession i fun s => { s with frames := c.frame :: s.frames }
  let result ← attempt <| match answer with
    | some answer => respond caller c underlying answer
    | none => fallback current c underlying
  modifySession i fun s => { s with frames := s.frames.tail }
  ofExcept result

/-- Record a call in the round in progress, or answer it. -/
def interceptWith (caller : Caller σ) (i : Nat) (target : ObjectRef) (method : Method)
    (args : List Value) (underlying : Option (Underlying σ)) : Act σ MockError Value := do
  let s ← session i
  match s.round with
  | some round =>
    let (v, round, generator, store) :=
      round.capture s.generator (← get).store target method args s.frames.head?
    modifyStore fun _ => store
    modifySession i fun s => { s with round := some round, generator }
    return v
  | none => answerCall caller i target method args underlying

/-- Make the calls of computed answers, nested `n` deep at most. -/
def makeCall : Nat → Caller σ
  | 0, _ => throw (.thrown (.plain "the calls of answers are nested too deeply"))
  | n + 1, o => interceptWith (makeCall n) o.session o.target o.method o.args
    (o.underlying.map fun run args => react (makeCall n) (run args))

/-- Where every call on a mock arrives. -/
def intercept (i : Nat) (target : ObjectRef) (method : Method) (args : List Value)
    (underlying : Option (Underlying σ)) : Act σ MockError Value := do
  interceptWith (makeCall (← get).depth) i target method args underlying

end Act

end TestDouble
