import TestDouble.Session.Answering
import TestDouble.Session.Chain
import TestDouble.Session.Recording
import TestDouble.Verification.Strategy

/-!
# Statements

`every` records which calls an answer is for, `verify` which calls must have been made, and
`excludeRecords` which calls verifications do not see.
-/

namespace TestDouble

/-- A statement that waits for its answer. -/
structure PendingAnswer where
  session : Nat

namespace Act

variable {σ : Type}

/-! ## Stubbing -/

def beginStubbing (i : Nat) : Act σ MockError Unit := do
  let _ ← expectPhase i "begin_stubbing" [.answering]
  modifySession i fun s => { s with phase := .stubbing }

def attachAnswer (i : Nat) (answer : Answer) : Act σ MockError Unit := do
  let _ ← expectPhase i "attach_answer" [.awaitingAnswer]
  let resolution? := (← session i).resolution
  modifySession i fun s => { s with resolution := none }
  match resolution? with
  | none => fail i (.badSequence "attach_answer" .awaitingAnswer none)
  | some resolution =>
    orFail i (install answer [] resolution)
    modifySession i fun s => { s with phase := .answering }

def every (i : Nat) (block : Act σ Failure Unit) : Act σ MockError PendingAnswer := do
  beginStubbing i
  runRecordedBlock i block
  return ⟨i⟩

/-- A statement that is given up without an answer leaves nothing behind. -/
def abandon (p : PendingAnswer) : Act σ MockError Unit := do
  if (← session p.session).phase = .awaitingAnswer then reset p.session

/-- Give the statement its answer. -/
def finish (p : PendingAnswer) (answer : Answer) : Act σ MockError Unit := do
  let result ← attempt (attachAnswer p.session answer)
  abandon p
  ofExcept result

/-! ## Verifying -/

/-- Merge calls in the order in which they were made. -/
def insertCall (c : Call) : List Call → List Call
  | [] => [c]
  | d :: ds => if c.sequence ≤ d.sequence then c :: d :: ds else d :: insertCall c ds

def inOrder (calls : List Call) : List Call := calls.foldr insertCall []

/-- The calls that a request examines. -/
def mergedLog (s : Store) (r : Request) (mocks : List Nat) : List Call :=
  inOrder <| mocks.flatMap fun mock =>
    (((s.registry.stub? mock).map Stub.visible).getD []).filter fun c => r.window.contains c.sequence

/-- Verify until it passes, `n` more times at most. -/
def verifyRepeatedly (r : Request) (mocks : List Nat) (expected notCalled : List CallMatcher) :
    Nat → Store → (Outcome × List Call) × Store
  | n, s =>
    let log := mergedLog s r mocks
    let (outcome, s) := s.probe (Verification.verifyWith r expected notCalled log)
    match n with
    | 0 => ((outcome, log), s)
    | n + 1 =>
      if outcome.isPassed then ((outcome, log), s) else verifyRepeatedly r mocks expected notCalled n s

def beginVerification (i : Nat) (r : Request) : Act σ MockError Unit := do
  let _ ← expectPhase i "begin_verification" [.answering]
  modifySession i fun s => { s with request := some r, phase := .verifying }

/-- Take the recorded statement that verifies out of the session. -/
def takeVerification (i : Nat) (operation : String) :
    Act σ MockError (Request × Resolution × List ObjectRef) := do
  let s ← session i
  match s.phase, s.resolution with
  | .verifying, some resolution =>
    reset i
    return (s.request.getD {}, resolution, s.notCalled)
  | phase, _ => fail i (.badSequence operation phase none)

/-- Compare a recorded block with the calls on the mocks it mentions. Links without a child have no calls.
A passing verification marks the calls it accepted. -/
def evaluate (r : Request) (resolution : Resolution) (notCalled : List ObjectRef) :
    Act σ MockError Report := do
  let (calls, detached) := resolution.linked (← get).store.registry []
  let expected := match r.order with
    | .unordered | .ordered => calls.topLevel.matchers
    | .sequence | .all => calls.matchers
  let notCalled := notCalled.map CallMatcher.notCalled
  let mocks := (Verification.targets (expected ++ notCalled)).filter (!detached.contains ·)
  mocks.forM fun mock => discard (stub mock)
  let attempts := r.attempts (← get).settings.pollInterval
  let (outcome, log) ← onStore (verifyRepeatedly r mocks expected notCalled (attempts - 1))
  modifyStore fun s => mocks.foldl (fun s mock => s.modify mock (·.markVerified outcome.matched)) s
  return .of r outcome (expected ++ notCalled) log

/-- Finish the statement that verifies. -/
def finalizeVerification (i : Nat) : Act σ MockError Report := do
  let (r, resolution, notCalled) ← takeVerification i "finalize_verification"
  let report ← evaluate r resolution notCalled
  if report.passed then return report else throw (.verificationFailed report)

def verify (i : Nat) (r : Request) (block : Act σ Failure Unit) : Act σ MockError Report := do
  beginVerification i r
  runRecordedBlock i block
  finalizeVerification i

/-! ## Hiding calls -/

/-- Hide the calls that each matcher accepts, and count them. -/
def excludeEach (detached : List Nat) : List CallMatcher → Act σ MockError Nat
  | [] => return 0
  | m :: ms => do
    if detached.contains m.target.id then excludeEach detached ms
    else
      let _ ← stub m.target.id
      let hidden ← onStore (·.exclude m.target.id m)
      return hidden + (← excludeEach detached ms)

/-- Hide the calls that a block describes from later verifications; the result is their number. -/
def excludeRecords (i : Nat) (block : Act σ Failure Unit) : Act σ MockError Nat := do
  beginVerification i {}
  runRecordedBlock i block
  let (_, resolution, _) ← takeVerification i "exclude_records"
  let (calls, detached) := resolution.linked (← get).store.registry []
  excludeEach detached calls.matchers

/-- Fail unless every call on these mocks has been verified or hidden. -/
def confirmVerified (mocks : List ObjectRef) : Act σ MockError Unit := do
  let unverified := inOrder ((← mocks.mapM fun o => stub o.id).flatMap Stub.unverified)
  if unverified.isEmpty then return
  let outcome := .failed (toString unverified.length ++ " calls were not verified")
  throw (.verificationFailed (.of .all outcome [] unverified))

end Act

end TestDouble
