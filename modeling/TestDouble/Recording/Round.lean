import TestDouble.Recording.Signature
import TestDouble.Store

/-!
# Rounds

A round is one run of a block. It holds the matchers that the block registered and the calls it made, in
order; `Bindings` ties them together.
-/

namespace TestDouble

/-- The shapes to hand out for calls of unknown shape, by the position of the call, in order. -/
abbrev Hints := List (Nat × Shape)

namespace Hints

/-- A later hint for the same call replaces an earlier one. -/
def insert (index : Nat) (s : Shape) : Hints → Hints
  | [] => [(index, s)]
  | h :: hs =>
    if index < h.1 then (index, s) :: h :: hs
    else if index = h.1 then (index, s) :: hs
    else h :: insert index s hs

end Hints

structure RegisteredMatcher where
  matcher : Matcher
  /-- The value handed out in place of an argument. -/
  signature : Value
  distinguishable : Bool
  /-- The number of calls made before the registration. -/
  pendingFor : Nat

structure CapturedCall where
  call : Call
  /-- The value handed out as the result. -/
  returned : Value
  /-- The shape of the result is not declared. -/
  ambiguous : Bool

structure Round where
  index : Nat := 0
  calls : List CapturedCall := []
  matchers : List RegisteredMatcher := []

namespace Round

/-- The first element of every class of equal ones. -/
def distinctBy {α : Type} (same : α → α → Bool) : List α → List α
  | [] => []
  | a :: as => a :: (distinctBy same as).filter fun b => !same a b

/-- Number of different pairs of target and method. -/
def distinctCallCount (r : Round) : Nat :=
  (distinctBy (fun (a b : CapturedCall) =>
    a.call.target == b.call.target && a.call.method == b.call.method) r.calls).length

/-- The calls in `seen`, and those of the rest that equal no earlier one. -/
def countNew (seen : List Call) : List Call → Nat
  | [] => seen.length
  | c :: cs => if seen.any (·.sameAs c) then countNew seen cs else countNew (seen ++ [c]) cs

/-- Number of calls that differ from all earlier ones in target, method or arguments. -/
def distinctInvocationCount (r : Round) : Nat := countNew [] (r.calls.map (·.call))

/-- The call that returned this object. -/
def callReturning? (r : Round) (id : Nat) : Option Nat :=
  r.calls.findIdx? fun c => c.returned.object?.any (·.id == id)

/-- The last call of unknown shape, one without a hint if there is one. -/
def lastAmbiguous? (r : Round) (hints : Hints) : Option Nat :=
  let ambiguous := (r.calls.zipIdx.reverse.filter (·.1.ambiguous)).map (·.2)
  ambiguous.find? (fun i => !(hints.map (·.1)).contains i) <|> ambiguous.head?

end Round

/-- A round that is still running, with the shapes it hands out. -/
structure OpenRound where
  round : Round
  hints : Hints

namespace OpenRound

def start (index : Nat) (hints : Hints) : OpenRound := ⟨{ index }, hints⟩

/-- Draw from a generator with the identities of the store. -/
def drawing {α : Type} (g : Generator) (s : Store) (d : Drawing α) : α × Generator × Store :=
  let (a, g, nextObject) := d (g, s.nextObject)
  (a, g, { s with nextObject })

/-- Register a matcher; the result is the value to pass in place of the argument. Of an argument of
unknown shape only the identity matters. -/
def register (r : OpenRound) (g : Generator) (s : Store) (m : Matcher) (shape : Shape) :
    Value × OpenRound × Generator × Store :=
  let (drawn, g, s) := drawing g s (Generator.signature? shape)
  let (signature, distinguishable, g, s) := match drawn with
    | some v => (v, shape.isDistinguishable, g, s)
    | none =>
      let (v, g, s) := drawing g s Generator.signatureObject
      (v, true, g, s)
  let registered := ⟨m, signature, distinguishable, r.round.calls.length⟩
  (signature, { r with round := { r.round with matchers := r.round.matchers ++ [registered] } }, g, s)

/-- Record a call; the result is the value to return from it. -/
def capture (r : OpenRound) (g : Generator) (s : Store) (target : ObjectRef) (method : Method)
    (args : List Value) (caller : Option Frame) : Value × OpenRound × Generator × Store :=
  let shape := (r.hints.lookup r.round.calls.length).getD method.returns
  let (drawn, g, s) := drawing g s (Generator.signature? shape)
  let (returned, g, s) := match drawn with
    | some v => (v, g, s)
    | none => drawing g s Generator.placeholder
  let (call, s) := s.newCall target method args caller
  let captured := ⟨call, returned, method.returns == .generic⟩
  (returned, { r with round := { r.round with calls := r.round.calls ++ [captured] } }, g, s)

end OpenRound

end TestDouble
