import TestDouble.Failure
import TestDouble.Recording.Binding

/-!
# Resolving a recorded block

From the rounds of a block come its calls, with every registered matcher in its place. Where an object
that a call returned is the target or an argument of a later call, the earlier call is a link of a chain:
it says how to reach the mock that is meant.
-/

namespace TestDouble

structure ResolvedCall where
  matcher : CallMatcher
  /-- What the call returned in the last round. -/
  returned : Value
  /-- The call that returned the target. -/
  chainParent : Option Nat
  /-- A later call uses the result. -/
  intermediate : Bool

abbrev Resolution := List ResolvedCall

namespace Round

/-- The last of `calls` that returned this object. -/
def latestReturning? (calls : List CapturedCall) (id : Nat) : Option Nat :=
  (calls.zipIdx.reverse.find? fun c => c.1.returned.object?.any (·.id == id)).map (·.2)

/-- What a call is made on. -/
inductive Role where
  | fixed (id : Nat)
  | returnedBy (call : Nat)
  deriving DecidableEq

/-- The role of every target. -/
def roles (r : Round) : List Role :=
  r.calls.zipIdx.map fun c =>
    match latestReturning? (r.calls.take c.2) c.1.call.target.id with
    | some parent => .returnedBy parent
    | none => .fixed c.1.call.target.id

/-- The earlier calls whose results a call uses. -/
def feeding (r : Round) (c : CapturedCall × Nat) : List Nat :=
  (c.1.call.target :: c.1.call.args.filterMap Value.object?).filterMap fun o =>
    latestReturning? (r.calls.take c.2) o.id

/-- The calls whose results later calls use. -/
def intermediates (r : Round) : List Nat := r.calls.zipIdx.flatMap r.feeding

/-- The first position at which two lists differ under `f`. -/
def firstDifference? {α β : Type} [BEq β] (f : α → β) (as bs : List α) : Option ((α × α) × Nat) :=
  (as.zip bs).zipIdx.find? fun p => f p.1.1 != f p.1.2

/-- How a round differs from the first one. -/
def inconsistency? (reference r : Round) : Option String :=
  let counts := fun (what : String) (a b : Nat) =>
    toString a ++ " " ++ what ++ " in round " ++ toString reference.index ++ ", " ++ toString b
      ++ " in round " ++ toString r.index
  let numbered := fun (what : String) (i : Nat) (a b : String) =>
    what ++ " #" ++ toString i ++ " was " ++ a ++ " then " ++ b
  if r.calls.length ≠ reference.calls.length then
    some (counts "calls" reference.calls.length r.calls.length)
  else if r.matchers.length ≠ reference.matchers.length then
    some (counts "matchers" reference.matchers.length r.matchers.length)
  else if let some ((a, b), i) := firstDifference? (·.call.method) reference.calls r.calls then
    some (numbered "call" i a.call.method.text b.call.method.text)
  else if let some ((a, b), i) := firstDifference? (·.matcher.text) reference.matchers r.matchers then
    some (numbered "matcher" i a.matcher.text b.matcher.text)
  else if r.roles ≠ reference.roles then some "calls were made on different targets"
  else none

/-! ## Arguments -/

/-- The matcher bound to an address. -/
def boundMatcher? (r : Round) (b : Bindings) (a : Address) : Option Matcher :=
  ((b.matcherAt? a).bind fun i => r.matchers[i]?).map (·.matcher)

/-- The matcher for one argument. Among trailing arguments a wildcard stands for all of them. -/
def argMatcher (r : Round) (b : Bindings) (call : Nat) (varargSlot : Option Nat) (arg : Value × Nat) :
    Matcher :=
  match r.boundMatcher? b ⟨call, arg.2, none⟩ with
  | some m => m
  | none =>
    match arg.1 with
    | .list items =>
      if varargSlot = some arg.2 then
        let elements := items.zipIdx.map fun item =>
          (r.boundMatcher? b ⟨call, arg.2, some item.2⟩).getD (.eq item.1)
        (elements.find? Matcher.isVarargWildcard).getD (.varargs elements)
      else .eq arg.1
    | v => .eq v

def callMatcher (r : Round) (b : Bindings) (c : CapturedCall × Nat) : CallMatcher where
  target := c.1.call.target
  method := c.1.call.method
  args := c.1.call.args.zipIdx.map (r.argMatcher b c.2 c.1.call.method.varargSlot?)

/-- The calls of a round, with the matchers in their places. -/
def resolved (r : Round) (b : Bindings) : Resolution :=
  r.calls.zipIdx.map fun c =>
    { matcher := r.callMatcher b c
      returned := c.1.returned
      chainParent := latestReturning? (r.calls.take c.2) c.1.call.target.id
      intermediate := r.intermediates.contains c.2 }

end Round

namespace Resolution

/-- Calls that are no links of a chain. -/
def topLevel (r : Resolution) : Resolution := r.filter (!·.intermediate)

def matchers (r : Resolution) : List CallMatcher := r.map (·.matcher)

/-- Resolve the rounds of a block; `phase` only appears in messages. -/
def ofRounds (rounds : List Round) (phase : Phase) : Except MockError Resolution :=
  match rounds.head?, rounds.getLast? with
  | some first, some last =>
    match rounds.tail.findSome? first.inconsistency? with
    | some reason =>
      .error (.badSequence "run_recorded_block" phase
        (some ("block behaved differently between recording rounds: " ++ reason)))
    | none =>
      match Bindings.ofRounds rounds with
      | (bindings, []) => .ok (last.resolved bindings)
      | (_, unresolved) =>
        .error (.unresolvedMatcher
          ((last.matchers.zipIdx.filter fun m => unresolved.contains m.2).map (·.1.matcher.text)))
  | _, _ => .ok []

end Resolution

end TestDouble
