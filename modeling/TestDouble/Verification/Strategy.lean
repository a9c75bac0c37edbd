import TestDouble.Verification.Report

/-!
# Verification strategies

Each order has its way to compare matchers with a call log. Predicates are evaluated in the order in which
matchers and calls are tried.
-/

namespace TestDouble.Verification

def matchersText (ms : List CallMatcher) : String := ", ".intercalate (ms.map CallMatcher.text)

def timesText (n : Nat) : String := toString n ++ (if n == 1 then " time" else " times")

def callsText (n : Nat) : String := toString n ++ (if n == 1 then " call" else " calls")

def numberedText (c : Call) : String := "#" ++ toString c.sequence ++ " " ++ c.text

/-- A passing verification fails, and a failing one passes without naming calls. -/
def invert (inverse : Bool) (ms : List CallMatcher) : Outcome → Outcome
  | o@(.passed _) =>
    if inverse then .failed ("expected the calls not to match, but they did: " ++ matchersText ms) else o
  | o@(.failed _) => if inverse then .passed [] else o

/-! ## Unordered -/

/-- The first matcher of every shape. -/
def distinct : List CallMatcher → List CallMatcher
  | [] => []
  | m :: ms => m :: (distinct ms).filter fun n => !m.sameShape n

/-- Whether this number of calls suits the matcher. -/
def countSuits (r : Request) (m : CallMatcher) (n : Nat) : Bool :=
  if m.isNotCalled then n == 0 else r.countOk n

def complaint (r : Request) (m : CallMatcher) (n : Nat) : String :=
  if r.inverse then m.text ++ " was called " ++ timesText n ++ " but should not have been"
  else if m.isNotCalled then m.text ++ ": received " ++ callsText n
  else m.text ++ " was called " ++ timesText n ++ ", expected " ++ r.boundsText

/-- The calls that each matcher accepts. -/
def hits (calls : List Call) : List CallMatcher → Probe (List (CallMatcher × List Call))
  | [] => .done []
  | m :: ms => (Probe.filter m.test calls).bind fun accepted =>
    (hits calls ms).bind fun rest => .done ((m, accepted) :: rest)

/-- All complaints, or the accepted calls. -/
def unorderedOutcome (r : Request) (hits : List (CallMatcher × List Call)) : Outcome :=
  let wrong := hits.filter fun h => countSuits r h.1 h.2.length == r.inverse
  if wrong.isEmpty then
    .passed (if r.inverse then [] else hits.flatMap fun h => h.2.map Call.sequence)
  else .failed ("; ".intercalate (wrong.map fun h => complaint r h.1 h.2.length))

def unordered (r : Request) (ms : List CallMatcher) (calls : List Call) : Probe Outcome :=
  (hits calls (distinct ms)).bind fun h => .done (unorderedOutcome r h)

/-! ## Ordered -/

/-- Each matcher takes the first call after that of the matcher before it. Calls come with their
positions; `start` is the position of the first of `calls`. -/
def earliest (start : Nat) (before : Option Call) :
    List CallMatcher → List Call → Probe (Except String (List (Nat × Call)))
  | [], _ => .done (.ok [])
  | m :: ms, calls => (Probe.findIdx? m.test calls).bind fun
    | some (i, c) => (earliest (start + i + 1) (some c) ms (calls.drop (i + 1))).bind fun rest =>
      .done (rest.map fun found => (start + i, c) :: found)
    | none => .done (.error ("calls are not in the verified order: no call matching " ++ m.text ++
        (match before with
          | some c => " after #" ++ toString c.sequence
          | none => " was made")))

def ordered (r : Request) (ms : List CallMatcher) (calls : List Call) : Probe Outcome :=
  (earliest 0 none ms calls).bind fun found => .done <| invert r.inverse ms <|
    match found with
    | .ok found => .passed (found.map (·.2.sequence))
    | .error reason => .failed reason

/-! ## Sequence -/

/-- Accepted position by position. -/
def aligned : List CallMatcher → List Call → Probe Bool
  | m :: ms, c :: cs => (m.test c).bind fun b => if b then aligned ms cs else .done false
  | _, _ => .done true

/-- The first run of consecutive calls that the matchers accept. -/
def alignedRun? (ms : List CallMatcher) : List Call → Probe (Option (List Call))
  | [] => .done (if ms.isEmpty then some [] else none)
  | c :: cs =>
    if ms.length ≤ (c :: cs).length then
      (aligned ms (c :: cs)).bind fun b =>
        if b then .done (some ((c :: cs).take ms.length)) else alignedRun? ms cs
    else .done none

/-- The first call between the first and the last of `found` that is not among them. -/
def intruder? (calls : List Call) (found : List (Nat × Call)) (first last : Nat) : Option Call :=
  (calls.zipIdx.find? fun c =>
    first ≤ c.2 && c.2 ≤ last && !(found.map (·.1)).contains c.2).map (·.1)

/-- Why matchers that occur in order do not occur in a row. -/
def interruption (calls : List Call) (found : List (Nat × Call)) : String :=
  match found.head?, found.getLast? with
  | some first, some last =>
    "call " ++ ((intruder? calls found first.1 last.1).map numberedText).getD ""
      ++ " does not match the verified sequence between #" ++ toString first.2.sequence
      ++ " and #" ++ toString last.2.sequence
  | _, _ => ""

def sequence (r : Request) (ms : List CallMatcher) (calls : List Call) : Probe Outcome :=
  (alignedRun? ms calls).bind fun
    | some run => .done (invert r.inverse ms (.passed (run.map Call.sequence)))
    | none => (earliest 0 none ms calls).bind fun found => .done <| invert r.inverse ms <|
      match found with
      | .ok found => .failed (interruption calls found)
      | .error reason => .failed reason

/-! ## All -/

/-- The matcher that each call belongs to: the first that accepts it. -/
def owners (ms : List CallMatcher) : List Call → Probe (List (Call × Option Nat))
  | [] => .done []
  | c :: cs => (Probe.findIdx? (fun (m : CallMatcher) => m.test c) ms).bind fun owner =>
    (owners ms cs).bind fun rest => .done ((c, owner.map (·.1)) :: rest)

def allOutcome (ms : List CallMatcher) (owners : List (Call × Option Nat)) : Outcome :=
  let stray := owners.filter fun o => o.2.isNone
  let idle := ms.zipIdx.filter fun m => !(owners.map (·.2)).contains (some m.2)
  if !stray.isEmpty then
    .failed ("some calls were not matched: " ++ ", ".intercalate (stray.map fun o => numberedText o.1))
  else if !idle.isEmpty then
    .failed ("no call matched: " ++ matchersText (idle.map (·.1)))
  else .passed (owners.map fun o => o.1.sequence)

def all (r : Request) (ms : List CallMatcher) (calls : List Call) : Probe Outcome :=
  (owners ms calls).bind fun o => .done (invert r.inverse ms (allOutcome ms o))

/-- Compare matchers with calls as the request demands. -/
def verify (r : Request) (ms : List CallMatcher) (calls : List Call) : Probe Outcome :=
  match r.order with
  | .unordered => unordered r ms calls
  | .ordered => ordered r ms calls
  | .sequence => sequence r ms calls
  | .all => all r ms calls

/-! ## Together with mocks that received no calls -/

/-- The first statement that its target received no calls which the log refutes. -/
def refuted? (calls : List Call) : List CallMatcher → Probe (Option String)
  | [] => .done none
  | s :: ss => (Probe.filter s.test calls).bind fun received =>
    if received.isEmpty then refuted? calls ss
    else .done (some (s.text ++ ": received " ++ callsText received.length))

/-- Unordered requests count the statements like matchers; the others check them after a success. -/
def verifyWith (r : Request) (ms notCalled : List CallMatcher) (calls : List Call) : Probe Outcome :=
  if r.order = .unordered then verify r (ms ++ notCalled) calls
  else (verify r ms calls).bind fun o =>
    if !o.isPassed || r.inverse then .done o
    else (refuted? calls notCalled).bind fun
      | some reason => .done (.failed reason)
      | none => .done o

/-- The targets that the matchers mention, in the order of their first mention. -/
def targets : List CallMatcher → List Nat
  | [] => []
  | m :: ms => m.target.id :: (targets ms).filter (· != m.target.id)

end TestDouble.Verification
