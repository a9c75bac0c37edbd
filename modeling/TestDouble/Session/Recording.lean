import TestDouble.Recording.Hinting
import TestDouble.Session.Basic

/-!
# Recording blocks

A block is run for several rounds, each again while hints are still found; then its matchers are resolved.
-/

namespace TestDouble.Act

variable {σ : Type}

/-! ## Registering -/

/-- Register a matcher in the round in progress; the result is the value to pass in its place. -/
def registerMatcher (i : Nat) (m : Matcher) (shape : Shape) : Act σ MockError Value := do
  let s ← session i
  match s.round with
  | some round =>
    let (v, round, generator, store) := round.register s.generator (← get).store m shape
    modifyStore fun _ => store
    modifySession i fun s => { s with round := some round, generator }
    return v
  | none =>
    fail i (.badSequence "register_matcher" s.phase
      (some "matchers can only be used inside a recorded block"))

/-- State, in a block that verifies, that a mock received no calls. -/
def wasNotCalled (i : Nat) (o : ObjectRef) : Act σ MockError Unit := do
  let s ← session i
  if s.round.isSome && s.phase = .verifying then
    modifySession i fun s => { s with notCalled := s.notCalled ++ [o] }
  else
    fail i (.badSequence "was_not_called" s.phase
      (some "only allowed inside a verification block"))

/-! ## Rounds -/

/-- Nothing makes more passes than a machine word counts. -/
def passLimit : Nat := 1 <<< 64

def startRound (i index : Nat) (hints : Hints) : Act σ MockError Unit :=
  modifySession i fun s =>
    { s with
      generator := s.generator.startRound index
      notCalled := []
      round := some (.start index hints) }

/-- Run the block until it completes a round, `n` times at most. A block that lost its round, because
the session was reset or used meanwhile, has failed. -/
def recordRound (i : Nat) (block : Act σ Failure Unit) (phase : Phase) (index : Nat) :
    Nat → Hinting → Act σ MockError (Round × Hinting)
  | 0, _ => throw (.hintsExhausted 0 .generic passLimit)
  | n + 1, hinting => do
    startRound i index hinting.hints
    let outcome ← attempt block
    match (← session i).round, outcome with
    | none, .error failure => throw failure.ofBlock
    | none, .ok _ =>
      throw (.badSequence "run_recorded_block" phase
        (some "the session was reset while the block was running"))
    | some finished, outcome =>
      modifySession i fun s => { s with round := none }
      match hinting.review outcome finished.round with
      | (.ok .complete, hinting) => return (finished.round, hinting)
      | (.ok .retry, hinting) => recordRound i block phase index n hinting
      | (.error e, _) => throw e

/-- `n` rounds, from the round `index` on. -/
def recordMore (i : Nat) (block : Act σ Failure Unit) (phase : Phase) :
    Nat → Nat → Hinting → Act σ MockError (List Round)
  | 0, _, _ => return []
  | n + 1, index, hinting => do
    let (round, hinting) ← recordRound i block phase index passLimit hinting.startRound
    return round :: (← recordMore i block phase n (index + 1) hinting)

/-- As many rounds as the first one makes different calls, within the limits of the settings. -/
def recordRounds (i : Nat) (block : Act σ Failure Unit) (phase : Phase) :
    Act σ MockError (List Round) := do
  let settings := (← get).settings
  if settings.minRounds = 0 then return []
  let (first, hinting) ← recordRound i block phase 0 passLimit {}
  let planned := min (max settings.minRounds first.distinctCallCount) settings.maxRounds
  return first :: (← recordMore i block phase (planned - 1) 1 hinting)

/-- A block has to make a call, or to declare, when it verifies, that a mock received none. -/
def recordBlock (i : Nat) (block : Act σ Failure Unit) (phase : Phase) :
    Act σ MockError Resolution := do
  let rounds ← recordRounds i block phase
  let resolution ← ofExcept (Resolution.ofRounds rounds phase)
  let declares := !(← session i).notCalled.isEmpty && phase = .verifying
  if resolution.isEmpty && !declares then
    throw (.badSequence "run_recorded_block" phase (some "no mock calls recorded inside the block"))
  return resolution

/-- Record the block of the statement in progress. -/
def runRecordedBlock (i : Nat) (block : Act σ Failure Unit) : Act σ MockError Unit := do
  let phase ← expectPhase i "run_recorded_block" [.stubbing, .verifying]
  if (← session i).resolution.isSome then
    fail i (.badSequence "run_recorded_block" phase
      (some "the block of this statement was already recorded"))
  let resolution ← orFail i (recordBlock i block phase)
  modifySession i fun s =>
    { s with
      resolution := some resolution
      phase := if phase = .stubbing then .awaitingAnswer else s.phase }

end TestDouble.Act
