import TestDouble.Proofs.Chronicle.Basic
import TestDouble.Proofs.Session.Mapping
import TestDouble.Proofs.Session.Program

/-!
# Watched runs

A watched run of a program is a run that keeps its chronicle beside the memory of the program, which does not see it.
Every call is told before it is made and after it has returned, those that computed answers make too.
-/

namespace TestDouble

/-- The memory of a program, and the chronicle of its run. -/
structure Watched (μ : Type) where
  memory : μ
  chronicle : Chronicle := []

def Log.forget {μ : Type} (m : Log (Watched μ)) : Log μ := { m with memory := m.memory.memory }

namespace World

variable {σ μ : Type}

def chronicle (w : World (Log (Watched μ))) : Chronicle := w.memory.memory.chronicle

def tell (h : Happening) (w : World (Log (Watched μ))) : World (Log (Watched μ)) :=
  { w with memory := { w.memory with memory := { w.memory.memory with chronicle := h :: w.chronicle } } }

/-- The world as the program sees it. -/
def forget (w : World (Log (Watched μ))) : World (Log μ) := w.map Log.forget

/-- What a call finds. -/
def making (w : World σ) (i : Nat) (target : ObjectRef) (method : Method) (args : List Value) : Made where
  session := i
  opened := i < w.sessions.length
  target := target
  method := method
  args := args
  number := w.store.nextSequence
  known := w.store.registry.contains target.id
  recording := (w.session i).round.isSome
  logsSelfCalls := w.settings.logSelfCalls
  frames := fun j => (w.session j).frames

/-- The recorded statement that verifies, if there is one. -/
def verification? (w : World σ) (i : Nat) : Option (Request × Resolution × List ObjectRef) :=
  match (w.session i).phase, (w.session i).resolution with
  | .verifying, some resolution => some ((w.session i).request.getD {}, resolution, (w.session i).notCalled)
  | _, _ => none

/-- What comes of comparing the statement with the logs. -/
def verdict (w : World σ) (r : Request) (resolution : Resolution) (notCalled : List ObjectRef) : Outcome :=
  let (calls, detached) := resolution.linked w.store.registry []
  let expected := match r.order with
    | .unordered | .ordered => calls.topLevel.matchers
    | .sequence | .all => calls.matchers
  let notCalled := notCalled.map CallMatcher.notCalled
  let mocks := (Verification.targets (expected ++ notCalled)).filter (!detached.contains ·)
  (Act.verifyRepeatedly r mocks expected notCalled (r.attempts w.settings.pollInterval - 1) w.store).1.1

/-- The calls that the statement matches if it passes. -/
def matching (w : World σ) (i : Nat) : List Nat :=
  match w.verification? i with
  | none => []
  | some (r, resolution, notCalled) => (w.verdict r resolution notCalled).matched

end World

/-- The visible calls that each matcher in turn accepts, up to the first target that is not registered. -/
def Store.hides (detached : List Nat) : List CallMatcher → Store → List Nat
  | [], _ => []
  | m :: ms, s =>
    if detached.contains m.target.id then hides detached ms s
    else match s.registry.stub? m.target.id with
      | none => []
      | some stub => (s.probe (Probe.filter m.test stub.visible)).1.map Call.sequence ++
        hides detached ms (s.exclude m.target.id m).2

/-- The calls that the statement hides. -/
def World.hiding {σ : Type} (w : World σ) (i : Nat) : List Nat :=
  match w.verification? i with
  | none => []
  | some (_, resolution, _) =>
    let (calls, detached) := resolution.linked w.store.registry []
    w.store.hides detached calls.matchers

namespace Act

variable {μ ε : Type}

def tell (h : Happening) : Act (Log (Watched μ)) ε Unit := modify (·.tell h)

def tellLook : Act (Log (Watched μ)) ε Unit := do tell (.seen (← get).store)

def tellUse {α : Type} (f : Store → α × Store) : Act (Log (Watched μ)) ε α := do
  let a ← onStore f
  tell (.emptied (← get).store.silent)
  return a

/-! ## Calls -/

def tellCall (i : Nat) (target : ObjectRef) (method : Method) (args : List Value)
    (x : Act (Log (Watched μ)) MockError Value) : Act (Log (Watched μ)) MockError Value := do
  tell (.made ((← get).making i target method args))
  let result ← attempt x
  let w ← get
  tell (.returned fun j => (w.session j).frames)
  ofExcept result

/-- Make the calls of computed answers, and tell of them. -/
def tellMade : Nat → Caller (Log (Watched μ))
  | 0, o => makeCall 0 o
  | n + 1, o => tellCall o.session o.target o.method o.args <|
    interceptWith (tellMade n) o.session o.target o.method o.args
      (o.underlying.map fun run args => react (tellMade n) (run args))

def tellIntercept (i : Nat) (target : ObjectRef) (method : Method) (args : List Value)
    (underlying : Option (Underlying (Log (Watched μ)))) : Act (Log (Watched μ)) MockError Value := do
  tellCall i target method args (interceptWith (tellMade (← get).depth) i target method args underlying)

/-! ## Statements -/

def tellVerification (i : Nat) : Act (Log (Watched μ)) MockError Report := do
  let numbers := (← get).matching i
  let report ← finalizeVerification i
  tell (.marked .verified numbers)
  return report

/-- Hide the calls that the recorded statement describes. -/
def hideRecorded {σ : Type} (i : Nat) : Act σ MockError Nat := do
  let (_, resolution, _) ← takeVerification i "exclude_records"
  let (calls, detached) := resolution.linked (← get).store.registry []
  excludeEach detached calls.matchers

/-- A statement that fails midway has hidden calls too. -/
def tellExclusion (i : Nat) : Act (Log (Watched μ)) MockError Nat := do
  let numbers := (← get).hiding i
  let result ← attempt (hideRecorded i)
  tell (.marked .excluded numbers)
  ofExcept result

end Act

variable {μ α : Type}

def Command.watched (i : Nat) : Command α → Act (Log (Watched μ)) MockError α
  | .finalizeVerification => Act.tellVerification i
  | c => c.act i

def Statement.watched (i : Nat) (block : Act (Log (Watched μ)) Failure Unit) :
    Statement α → Act (Log (Watched μ)) MockError α
  | .verify r => do
    Act.beginVerification i r
    Act.runRecordedBlock i block
    Act.tellVerification i
  | .excludeRecords => do
    Act.beginVerification i {}
    Act.runRecordedBlock i block
    Act.tellExclusion i
  | s => s.act i block

namespace Program

def watch : Program μ → Act (Log (Watched μ)) Failure Value
  | done result => Act.ofExcept result
  | look next => do
    Act.tellLook
    (next (← get).forget).watch
  | remember memory next => do
    modify fun w => { w with memory := { w.memory with memory := { w.memory.memory with memory } } }
    next.watch
  | useStore f next => do (next (← Act.tellUse f)).watch
  | openSession next => do
    let i ← Act.openSession
    Act.note none
    (next i).watch
  | command i c next => do (next (← Act.operation c.name i (c.watched i))).watch
  | statement i s block next => do
    (next (← Act.operation s.name i (s.watched i (Act.inBlock i block.watch)))).watch
  | call i target method args next => do
    (next (← Act.side (Act.tellIntercept i target method args none))).watch
  | callThrough i target method args underlying next => do
    let behind := fun args => Act.inUnderlying (underlying args).watch
    (next (← Act.side (Act.tellIntercept i target method args (some behind)))).watch

/-- The chronicle of a run, with a look at the store in the end. -/
def chronicle (p : Program μ) (w : World μ) : Chronicle :=
  let w := (p.watch.runOn { w with memory := { memory := { memory := w.memory } } }).2
  .seen w.store :: w.chronicle

end Program

end TestDouble
