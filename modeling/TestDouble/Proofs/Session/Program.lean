import TestDouble.Proofs.Session.Running

/-!
# Programs over sessions

A program is the code of a user: a tree of operations, each with what the code does next, given the result.
Recorded blocks and the implementations behind mocks are programs again, so any operation may be made inside
them, on the same session too. Running a program notes a moment wherever its code gets control.

Programs run sequentially: an operation begins within another one or after its end, whatever session it is on. Threads
are outside. Where two of them call mocks at once, a call may get its number before another call and its entry in the
log after it; what is proved of the order of logs and of numbers is about calls that do not overlap.
-/

namespace TestDouble

/-! ## Moments -/

/-- An operation that has failed. -/
structure Failed where
  operation : String
  session : Nat
  error : MockError

/-- What can be observed where the code of a user has control. -/
structure Moment where
  /-- The sessions whose blocks are running, the innermost first. -/
  running : List Nat
  session : Nat → Session
  /-- The operation that has just failed, if one has. -/
  failed : Option Failed

/-- What may be pending in each phase. -/
def Session.Consistent (s : Session) : Prop :=
  match s.phase with
  | .answering => s.request = none ∧ s.resolution = none ∧ s.notCalled = [] ∧ s.round = none
  | .stubbing => s.request = none ∧ s.resolution = none ∧ s.notCalled = []
  | .awaitingAnswer => s.request = none ∧ s.resolution.isSome ∧ s.notCalled = [] ∧ s.round = none
  | .verifying => s.request.isSome

/-- Only running blocks have rounds, and whatever fails leaves nothing pending. -/
structure Moment.Sound (m : Moment) : Prop where
  consistent : ∀ i, (m.session i).Consistent
  running : ∀ i, (m.session i).round.isSome → i ∈ m.running
  failed : ∀ f, m.failed = some f → (m.session f.session).Idle
  /-- A statement that waits for its answer always has its recorded block. -/
  attached : ∀ f, m.failed = some f → f.operation = "attach_answer" →
    f.error ≠ .badSequence "attach_answer" .awaitingAnswer none

/-- The memory of a program, and the moments of its run so far, the latest first. -/
structure Log (μ : Type) where
  memory : μ
  running : List Nat := []
  moments : List Moment := []

namespace Act

variable {μ ε α : Type}

def note (failed : Option Failed) : Act (Log μ) ε Unit := modify fun w =>
  { w with memory := { w.memory with moments := ⟨w.memory.running, w.session, failed⟩ :: w.memory.moments } }

def setRunning (f : List Nat → List Nat) : Act (Log μ) ε Unit := modify fun w =>
  { w with memory := { w.memory with running := f w.memory.running } }

/-- Make an operation that fails with everything dropped. -/
def operation (name : String) (i : Nat) (x : Act (Log μ) MockError α) :
    Act (Log μ) Failure (Except MockError α) := do
  let result ← attempt x
  match result with
  | .ok _ => note none
  | .error e => note (some ⟨name, i, e⟩)
  return result

/-- Make an operation that leaves the statement in progress alone when it fails. -/
def side (x : Act (Log μ) MockError α) : Act (Log μ) Failure (Except MockError α) := do
  let result ← attempt x
  note none
  return result

/-- The code of the implementation behind a mock. -/
def inUnderlying (x : Act (Log μ) Failure Value) : Act (Log μ) Failure Value := do
  note none
  x

/-- The code of a block. -/
def inBlock (i : Nat) (x : Act (Log μ) Failure Value) : Act (Log μ) Failure Unit := do
  setRunning (i :: ·)
  note none
  let result ← attempt x
  setRunning List.tail
  match result with
  | .ok _ => return
  | .error e => throw e

end Act

/-! ## Operations -/

/-- The operations on one session that take no block. -/
inductive Command : Type → Type where
  | beginStubbing : Command Unit
  | beginVerification (r : Request) : Command Unit
  | attachAnswer (answer : Answer) : Command Unit
  | finalizeVerification : Command Report
  | registerMatcher (m : Matcher) (shape : Shape) : Command Value
  | wasNotCalled (o : ObjectRef) : Command Unit
  | reset : Command Unit
  | finish (answer : Answer) : Command Unit
  | abandon : Command Unit

namespace Command

variable {σ α : Type}

def name : Command α → String
  | beginStubbing => "begin_stubbing"
  | beginVerification _ => "begin_verification"
  | attachAnswer _ => "attach_answer"
  | finalizeVerification => "finalize_verification"
  | registerMatcher .. => "register_matcher"
  | wasNotCalled _ => "was_not_called"
  | reset => "reset"
  | finish _ => "finish"
  | abandon => "abandon"

def act (i : Nat) : Command α → Act σ MockError α
  | beginStubbing => Act.beginStubbing i
  | beginVerification r => Act.beginVerification i r
  | attachAnswer answer => Act.attachAnswer i answer
  | finalizeVerification => Act.finalizeVerification i
  | registerMatcher m shape => Act.registerMatcher i m shape
  | wasNotCalled o => Act.wasNotCalled i o
  | reset => Act.reset i
  | finish answer => Act.finish ⟨i⟩ answer
  | abandon => Act.abandon ⟨i⟩

end Command

/-- The operations on one session that take a block. -/
inductive Statement : Type → Type where
  | runRecordedBlock : Statement Unit
  | every : Statement PendingAnswer
  | verify (r : Request) : Statement Report
  | excludeRecords : Statement Nat

namespace Statement

variable {σ α : Type}

def name : Statement α → String
  | runRecordedBlock => "run_recorded_block"
  | every => "every"
  | verify _ => "verify"
  | excludeRecords => "exclude_records"

def act (i : Nat) (block : Act σ Failure Unit) : Statement α → Act σ MockError α
  | runRecordedBlock => Act.runRecordedBlock i block
  | every => Act.every i block
  | verify r => Act.verify i r block
  | excludeRecords => Act.excludeRecords i block

end Statement

/-! ## Programs -/

inductive Program (μ : Type) where
  | done (result : Except Failure Value)
  /-- Look at everything. -/
  | look (next : World (Log μ) → Program μ)
  | remember (memory : μ) (next : Program μ)
  /-- Create, stub, clear and release mocks, or change anything else that sessions share. -/
  | useStore {α : Type} (f : Store → α × Store) (next : α → Program μ)
  | openSession (next : Nat → Program μ)
  | command {α : Type} (i : Nat) (c : Command α) (next : Except MockError α → Program μ)
  | statement {α : Type} (i : Nat) (s : Statement α) (block : Program μ) (next : Except MockError α → Program μ)
  | call (i : Nat) (target : ObjectRef) (method : Method) (args : List Value)
      (next : Except MockError Value → Program μ)
  /-- A call with an implementation behind it. -/
  | callThrough (i : Nat) (target : ObjectRef) (method : Method) (args : List Value)
      (underlying : List Value → Program μ) (next : Except MockError Value → Program μ)

namespace Program

variable {μ : Type}

def run : Program μ → Act (Log μ) Failure Value
  | done result => Act.ofExcept result
  | look next => do (next (← get)).run
  | remember memory next => do
    modify fun w => { w with memory := { w.memory with memory } }
    next.run
  | useStore f next => do (next (← Act.onStore f)).run
  | openSession next => do
    let i ← Act.openSession
    Act.note none
    (next i).run
  | command i c next => do (next (← Act.operation c.name i (c.act i))).run
  | statement i s block next => do
    (next (← Act.operation s.name i (s.act i (Act.inBlock i block.run)))).run
  | call i target method args next => do
    (next (← Act.side (Act.intercept i target method args none))).run
  | callThrough i target method args underlying next => do
    let behind := fun args => Act.inUnderlying (underlying args).run
    (next (← Act.side (Act.intercept i target method args (some behind)))).run

/-- The moments of a run of the program, the latest first. -/
def moments (p : Program μ) (w : World μ) : List Moment :=
  (Act.runOn (do Act.note none; p.run) { w with memory := { memory := w.memory : Log μ } }).2.memory.moments

end Program

end TestDouble
