import TestDouble.Answer
import TestDouble.CallMatcher

/-!
# Stubs

The answer table, the call log and the child mocks of one mock. Entries and calls are in the order of
their arrival.
-/

namespace TestDouble

/-- What a mock does with a call that no entry accepts. -/
inductive MockKind where
  /-- It fails. -/
  | strict
  /-- It returns a default; for an object, a child mock. -/
  | relaxed
  /-- Lenient only where nothing is returned. -/
  | relaxedUnit
  /-- It runs the implementation behind it. -/
  | spy
  deriving DecidableEq, Repr

namespace MockKind

/-- The kind of the child mocks of a chain. -/
def forChild : MockKind → MockKind
  | .spy => .strict
  | kind => kind

def text : MockKind → String
  | .strict => "strict"
  | .relaxed => "relaxed"
  | .relaxedUnit => "relaxed-unit"
  | .spy => "spy"

def name : MockKind → String
  | .strict => "Strict"
  | .relaxed => "Relaxed"
  | .relaxedUnit => "RelaxedUnit"
  | .spy => "Spy"

end MockKind

/-- What to clear. -/
structure ClearOptions where
  answers : Bool := true
  recordedCalls : Bool := true
  childMocks : Bool := true
  deriving DecidableEq, Repr

namespace ClearOptions

def answersOnly : ClearOptions := { recordedCalls := false, childMocks := false }

def recordedCallsOnly : ClearOptions := { answers := false, childMocks := false }

end ClearOptions

structure Entry where
  /-- Never used again by the same stub. -/
  id : Nat
  matcher : CallMatcher
  answer : Answer
  /-- The number of calls it has served. -/
  hits : Nat

structure LoggedCall where
  call : Call
  /-- Accepted by a verification that passed. -/
  verified : Bool := false
  /-- Hidden from verification. -/
  excluded : Bool := false

structure Stub where
  object : ObjectRef
  kind : MockKind
  parent : Option Nat := none
  entries : List Entry := []
  nextEntry : Nat := 0
  log : List LoggedCall := []
  children : List Nat := []

namespace Stub

def id (s : Stub) : Nat := s.object.id

/-! ## Entries -/

/-- Later entries take precedence over earlier ones. -/
def addAnswer (s : Stub) (matcher : CallMatcher) (answer : Answer) : Stub :=
  { s with
    entries := s.entries ++ [⟨s.nextEntry, matcher, answer, 0⟩]
    nextEntry := s.nextEntry + 1 }

def entryOf? (s : Stub) (id : Nat) : Option Entry := s.entries.find? (·.id == id)

/-- Entries in the order in which they are tried. -/
def candidates (s : Stub) : List Entry := s.entries.reverse

/-- Count a call served by the entry `id`. -/
def hit (s : Stub) (id : Nat) : Stub :=
  { s with entries := s.entries.map fun e => if e.id == id then { e with hits := e.hits + 1 } else e }

/-- The object that the newest entry of the same shape answers with, where it answers with an object. -/
def chainChild? (s : Stub) (m : CallMatcher) : Option ObjectRef :=
  s.candidates.findSome? fun e =>
    match e.answer with
    | .constant (.object child) => if e.matcher.sameShape m then some child else none
    | _ => none

def registered (s : Stub) : List String := s.entries.map fun e => e.matcher.text

/-- Entries that no call has matched. -/
def unused (s : Stub) : List String := (s.entries.filter (·.hits == 0)).map fun e => e.matcher.text

/-! ## Log -/

def addCall (s : Stub) (c : Call) : Stub := { s with log := s.log ++ [{ call := c }] }

def callCount (s : Stub) : Nat := s.log.length

/-- Calls that verifications see. -/
def visible (s : Stub) : List Call := (s.log.filter (!·.excluded)).map (·.call)

def markVerified (s : Stub) (sequences : List Nat) : Stub :=
  { s with log := s.log.map fun l =>
      if sequences.contains l.call.sequence then { l with verified := true } else l }

/-- Hide the visible calls with these sequence numbers. -/
def hide (s : Stub) (sequences : List Nat) : Stub :=
  { s with log := s.log.map fun l =>
      if sequences.contains l.call.sequence then { l with excluded := true } else l }

/-- How many calls hiding these sequence numbers hides. -/
def hiddenBy (s : Stub) (sequences : List Nat) : Nat :=
  s.log.countP fun l => !l.excluded && sequences.contains l.call.sequence

/-- Calls that are neither verified nor hidden. -/
def unverified (s : Stub) : List Call :=
  (s.log.filter fun l => !l.verified && !l.excluded).map (·.call)

/-! ## Children -/

def adopt (s : Stub) (child : Nat) : Stub :=
  if s.children.contains child then s else { s with children := s.children ++ [child] }

/-- The children that are no longer tracked after a clear. -/
def dropped (s : Stub) (o : ClearOptions) : List Nat := if o.childMocks then s.children else []

def clear (s : Stub) (o : ClearOptions) : Stub :=
  { s with
    entries := if o.answers then [] else s.entries
    log := if o.recordedCalls then [] else s.log
    children := if o.childMocks then [] else s.children }

end Stub

end TestDouble
