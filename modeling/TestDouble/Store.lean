import TestDouble.Registry

/-!
# The store

Everything that all sessions share: the registry, what has been captured, how often predicates have been
evaluated, and the next identity and sequence number.
-/

namespace TestDouble

structure Store where
  registry : Registry := {}
  /-- Captured values with their slots, the oldest first. -/
  captures : Matcher.Captures := []
  tallies : List (Nat × Nat) := []
  nextObject : Nat := 1
  nextSequence : Nat := 1

namespace Store

/-! ## Identities, calls and slots -/

def freshObject (s : Store) (className : String) : ObjectRef × Store :=
  (⟨s.nextObject, className⟩, { s with nextObject := s.nextObject + 1 })

/-- A call that happens now. -/
def newCall (s : Store) (target : ObjectRef) (method : Method) (args : List Value)
    (caller : Option Frame) : Call × Store :=
  (⟨target, method, args, s.nextSequence, caller⟩, { s with nextSequence := s.nextSequence + 1 })

def captured (s : Store) (slot : Nat) : List Value :=
  (s.captures.filter (·.1 == slot)).map (·.2)

def keep (s : Store) (captures : Matcher.Captures) : Store :=
  { s with captures := s.captures ++ captures }

def clearSlot (s : Store) (slot : Nat) : Store :=
  { s with captures := s.captures.filter (·.1 != slot) }

/-- How often a counter was advanced. -/
def tallyOf (s : Store) (counter : Nat) : Nat := (s.tallies.lookup counter).getD 0

def countTally (s : Store) (counter : Nat) : Store :=
  { s with tallies := (counter, s.tallyOf counter + 1) :: s.tallies.filter (·.1 != counter) }

def modify (s : Store) (mock : Nat) (f : Stub → Stub) : Store :=
  { s with registry := s.registry.modify mock f }

def callCount? (s : Store) (mock : Nat) : Option Nat := (s.registry.stub? mock).map Stub.callCount

/-- The answers of a mock are cleared, its calls and children stay. -/
def clearAnswers (s : Store) (mock : Nat) : Store := s.modify mock (·.clear .answersOnly)

/-! ## Probes -/

/-- Evaluate a probe against the store. -/
def probe {α : Type} (s : Store) : Probe α → α × Store
  | .done a => (a, s)
  | .callCount mock next => s.probe (next (s.callCount? mock))
  | .clearAnswers mock next => (s.clearAnswers mock).probe (next (s.registry.contains mock))
  | .tally counter next => (s.countTally counter).probe (next (s.tallyOf counter))

/-! ## Mocks -/

def create (s : Store) (className : String) (kind : MockKind) : ObjectRef × Store :=
  let (object, s) := s.freshObject className
  (object, { s with registry := s.registry.insert { object, kind } })

/-- A child mock, tracked by its parent and released with it. -/
def createChild (s : Store) (parent : Stub) (className : String) : ObjectRef × Store :=
  let (object, s) := s.freshObject className
  let child : Stub := { object, kind := parent.kind.forChild, parent := some parent.id }
  (object, { s with registry := (s.registry.insert child).modify parent.id (·.adopt object.id) })

/-- Clear parts of a mock; the children it no longer tracks are released. -/
def clear (s : Store) (mock : Nat) (o : ClearOptions) : Except MockError Store := do
  let stub ← s.registry.get mock
  .ok { s with registry := (s.registry.modify mock (·.clear o)).releaseAll (stub.dropped o) }

def release (s : Store) (mock : Nat) : Except MockError Store := do
  .ok { s with registry := ← s.registry.release mock }

/-! ## Resolving calls -/

/-- The newest entry of the mock that accepts the call serves it. Evaluating predicates may clear the
table; an entry that is gone by then does not serve, and the search starts again, at most `n` times. -/
def selectAnswer (mock : Nat) (c : Call) : Nat → Store → Option Answer × Store
  | 0, s => (none, s)
  | n + 1, s =>
    let candidates := ((s.registry.stub? mock).map Stub.candidates).getD []
    match s.probe (Probe.findIdx? (fun (e : Entry) => e.matcher.test c) candidates) with
    | (none, s) => (none, s)
    | (some (_, candidate), s) =>
      match (s.registry.stub? mock).bind (·.entryOf? candidate.id) with
      | none => selectAnswer mock c n s
      | some entry =>
        let (captures, s) := (s.modify mock (·.hit entry.id)).probe (candidate.matcher.captures c)
        (some (entry.answer.select entry.hits), s.keep captures)

/-- Log the call if asked to, and select its answer. -/
def resolve (s : Store) (mock : Nat) (c : Call) (log : Bool) : Option Answer × Store :=
  let s := if log then s.modify mock (·.addCall c) else s
  selectAnswer mock c (((s.registry.stub? mock).map (·.entries.length)).getD 0 + 1) s

/-- Hide the visible calls of a mock that the matcher accepts, and count them. -/
def exclude (s : Store) (mock : Nat) (m : CallMatcher) : Nat × Store :=
  match s.registry.stub? mock with
  | none => (0, s)
  | some stub =>
    let (accepted, s) := s.probe (Probe.filter m.test stub.visible)
    let sequences := accepted.map Call.sequence
    (stub.hiddenBy sequences, s.modify mock (·.hide sequences))

/-- The child mock that a lenient mock returns for this call; equal calls share it. -/
def relaxedChild (s : Store) (stub : Stub) (c : Call) (className : String) : ObjectRef × Store :=
  match stub.chainChild? (.exact c) with
  | some child => (child, s)
  | none =>
    let (child, s) := s.createChild stub className
    let s := s.modify stub.id (·.addAnswer (.exact c) (.constant (.object child)))
    (child, (s.resolve stub.id c false).2)

end Store

end TestDouble
