import TestDouble.Scenario.Term

/-!
# Operations

The steps of a scenario that run no other steps.
-/

namespace TestDouble.Scenario

/-- Matchers for the arguments of a host type. -/
inductive TypedMatcherTerm where
  | plain (m : MatcherTerm)
  | eq (t : Term)
  | ne (t : Term)
  | compare (op : Comparison) (t : Term)
  | predicate (description : String) (p : PredicateTerm)
  /-- Of the shape of the type. -/
  | ofType
  | null
  | notNull

/-- The matcher, and the type at which its stand-in is read. Operands are read at the type first. -/
def TypedMatcherTerm.eval (t : HostType) : TypedMatcherTerm → Play (HostType × Matcher)
  | .plain m => return (t, ← m.eval)
  | .eq v => return (t, .eq (← operand v))
  | .ne v => return (t, .not (.eq (← operand v)))
  | .compare op v => return (t, .compare op (← operand v))
  | .predicate description p => do
    let test ← p.eval
    return (t, .predicate description (Act.typedPredicate t fun x => test (t.toValue x)))
  | .ofType => return (t, .ofShape t.shape)
  | .null => return (.option t, .null)
  | .notNull => return (.option t, .notNull)
where
  operand (v : Term) : Play Value := do operate (Act.ofExcept (t.convert (← v.eval)))

inductive Operation where
  | mock (className : String) (kind : MockKind)
  | child (parent : Term) (className : String)
  | release (mock : Term)
  | clear (mock : Term) (options : ClearOptions)
  | registry (objects : List Term)
  | openSession (name : String)
  | describe
  | mark
  | beginStubbing
  | beginVerification (request : List RequestTerm)
  | attachAnswer (a : AnswerTerm)
  /-- The report may be shown as a document too. -/
  | finalizeVerification (document : Bool)
  | wasNotCalled (mock : Term)
  | confirmVerified (mocks : List Term)
  | reset
  | register (m : MatcherTerm) (s : Shape)
  | registerTyped (m : TypedMatcherTerm) (t : HostType)
  | registerSame (object : Term)
  /-- The values in a capture slot, which may be emptied. -/
  | slot (name : String) (clear : Bool)
  | eval (t : Term)
  | convert (v : Term) (t : HostType)
  | expectObject (v : Term) (className : String)
  | fail (f : FailureTerm)
  | inspect (mock : Term)
  | unused (mock : Term)
  | calls (mock : Term)
  | unverified (mock : Term)
  | addAnswer (mock : Term) (m : CallMatcherTerm) (a : AnswerTerm)
  | resolve (mock : Term) (c : CallTerm) (log : Bool)
  | exclude (mock : Term) (m : CallMatcherTerm)
  | markVerified (mock : Term) (sequences : List Nat)
  | adopt (mock : Term) (child : Nat)
  | findChild (mock : Term) (m : CallMatcherTerm)
  /-- Children are no longer tracked, but not released. -/
  | clearStub (mock : Term) (options : ClearOptions)

/-- The stub of a registered mock. -/
def Term.evalStub (t : Term) : Play Stub := do
  let o ← t.evalObject
  operate (Act.stub o.id)

/-- The stub of a registered mock, and the value of the other terms of the step. These are evaluated before
the mock is looked up, so that their effects stay even if there is no such mock. -/
def Term.evalStubWith {α : Type} (t : Term) (others : Play α) : Play (Stub × α) := do
  let o ← t.evalObject
  let a ← others
  return (← operate (Act.stub o.id), a)

def modifyStub (mock : Nat) (f : Stub → Stub) : Play Unit :=
  operate (Act.modifyStore (·.modify mock f))

def registrySize : Play Nat := return (← get).store.registry.size

/-- A session as it is shown. -/
def sessionText (phase : Phase) (mocks : Nat) : String :=
  "RecordingContext \x7b id: <id>, state: " ++ phase.text ++ ", mocks: " ++ toString mocks ++ " \x7d"

/-- Play an operation in the session `i`. -/
def Operation.play (i : Nat) : Operation → Play Result
  | .mock className kind => do
    let o ← operate (Act.onStore (·.create className kind))
    return .created o (← registrySize)
  | .child parent className => do
    let stub ← parent.evalStub
    return .child (← operate (Act.onStore (·.createChild stub className)))
  | .release target => do
    let o ← target.evalObject
    operate (Act.updateStore (·.release o.id))
    return .count (← registrySize)
  | .clear target options => do
    let o ← target.evalObject
    operate (Act.updateStore (·.clear o.id options))
    return .count (← registrySize)
  | .registry objects => do
    let vs ← Term.evalEach objects
    let r := (← get).store.registry
    return .registry r.size (vs.map fun v => v.object?.any fun o => r.contains o.id)
  | .openSession name => do
    openNamed name
    return .flag true
  | .describe => return .text (sessionText (← operate (Act.session i)).phase (← registrySize))
  | .mark => return .value (.long (.ofNat (← get).store.nextSequence))
  | .beginStubbing => do
    operate (Act.beginStubbing i)
    return .nothing
  | .beginVerification request => do
    operate (Act.beginVerification i (← RequestTerm.evalAll request))
    return .nothing
  | .attachAnswer a => do
    operate (Act.attachAnswer i (← a.eval))
    return .nothing
  | .finalizeVerification document => do
    return .report (← operate (Act.finalizeVerification i)) document
  | .wasNotCalled target => do
    operate (Act.wasNotCalled i (← target.evalObject))
    return .nothing
  | .confirmVerified targets => do
    operate (Act.confirmVerified (← targets.mapM Term.evalObject))
    return .nothing
  | .reset => do
    operate (Act.reset i)
    return .nothing
  | .register m s => do
    let v ← operate (Act.registerMatcher i (← m.eval) s)
    issue v
    return .value v
  | .registerTyped m t => do
    let (t, m) ← m.eval t
    let v := t.toValue (← operate (Act.matching i t m))
    issue v
    return .value v
  | .registerSame object => do
    return .value (.object (← operate (Act.matchingSame i (← object.evalObject))))
  | .slot name empty => do
    let slot ← slotNumber name
    let values := (← get).store.captured slot
    if empty then operate (Act.modifyStore (·.clearSlot slot))
    return .slot values
  | .eval t => return .value (← t.eval)
  | .convert v t => return .value (← operate (Act.ofExcept (t.convert (← v.eval))))
  | .expectObject v className => do
    return .value (.object (← operate (Act.ofExcept ((← v.eval).expectObject className))))
  | .fail f => do throw (← f.eval)
  | .inspect target => return .stub (← target.evalStub)
  | .unused target => return .texts (← target.evalStub).unused
  | .calls target => return .calls (← target.evalStub).log
  | .unverified target => return .unverified (← target.evalStub).unverified
  | .addAnswer target m a => do
    let (stub, m, a) ← target.evalStubWith do
      let m ← m.eval
      return (m, ← a.eval)
    modifyStub stub.id (·.addAnswer m a)
    return .nothing
  | .resolve target c log => do
    let (stub, c) ← target.evalStubWith c.eval
    let answer ← operate (Act.onStore (·.resolve stub.id c log))
    return .maybeText (answer.map Answer.text)
  | .exclude target m => do
    let (stub, m) ← target.evalStubWith m.eval
    return .count (← operate (Act.onStore (·.exclude stub.id m)))
  | .markVerified target sequences => do
    let stub ← target.evalStub
    modifyStub stub.id (·.markVerified sequences)
    return .nothing
  | .adopt target id => do
    let stub ← target.evalStub
    modifyStub stub.id (·.adopt id)
    return .nothing
  | .findChild target m => do
    let (stub, m) ← target.evalStubWith m.eval
    return .maybeText ((stub.chainChild? m).map ObjectRef.text)
  | .clearStub target options => do
    let stub ← target.evalStub
    modifyStub stub.id (·.clear options)
    return .ids (stub.dropped options)

end TestDouble.Scenario
