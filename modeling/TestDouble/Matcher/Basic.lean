import TestDouble.Probe
import TestDouble.Shape

/-!
# Argument matchers

A matcher stands for one argument of a call.
-/

namespace TestDouble

inductive Comparison where
  | less
  | lessOrEqual
  | greater
  | greaterOrEqual
  deriving DecidableEq, Repr

def Comparison.holds : Comparison → Ordering → Bool
  | .less, o => o == .lt
  | .lessOrEqual, o => o != .gt
  | .greater, o => o == .gt
  | .greaterOrEqual, o => o != .lt

inductive Matcher where
  | any
  | eq (v : Value)
  /-- This very object. -/
  | same (o : ObjectRef)
  | compare (op : Comparison) (v : Value)
  | predicate (description : String) (test : Value → Probe Bool)
  | ofShape (s : Shape)
  | null
  | notNull
  | not (m : Matcher)
  | and (l r : Matcher)
  | or (l r : Matcher)
  /-- Keep the argument in a slot whenever the whole call is accepted. -/
  | capture (slot : Nat) (m : Matcher)
  /-- Any trailing arguments. -/
  | varargAny
  /-- Every trailing argument matches. -/
  | varargAll (m : Matcher)
  /-- The trailing arguments match one by one. -/
  | varargs (ms : List Matcher)
  /-- The mark of a mock that received no calls. -/
  | notCalled

namespace Matcher

/-- Stands for all trailing arguments at once. -/
def isVarargWildcard : Matcher → Bool
  | varargAny | varargAll _ => true
  | _ => false

/-! ## Acceptance -/

mutual
/-- Connectives stop as soon as their answer is known. -/
def test : Matcher → Value → Probe Bool
  | any, _ => .done true
  | eq w, v => .done (w == v)
  | same o, v => .done (v.object?.any (· == o))
  | compare op w, v => .done ((v.compare? w).any op.holds)
  | predicate _ p, v => p v
  | ofShape s, v => .done (!v.isNull && s.accepts v)
  | null, v => .done v.isNull
  | notNull, v => .done (!v.isNull)
  | not m, v => (test m v).bind fun b => .done (!b)
  | and l r, v => (test l v).bind fun b => if b then test r v else .done false
  | or l r, v => (test l v).bind fun b => if b then .done true else test r v
  | capture _ m, v => test m v
  | varargAny, v => .done (v matches .list _)
  | varargAll m, v =>
    match v with
    | .list items => Probe.all (fun item => test m item) items
    | _ => .done false
  | varargs ms, v =>
    match v with
    | .list items => if items.length = ms.length then testEach ms items else .done false
    | _ => .done false
  | notCalled, _ => .done false

/-- Position by position, up to the shorter list. -/
def testEach : List Matcher → List Value → Probe Bool
  | m :: ms, v :: vs => (test m v).bind fun b => if b then testEach ms vs else .done false
  | _, _ => .done true
end

/-! ## Capture -/

/-- Values for the slots, in the order in which they are kept. -/
abbrev Captures := List (Nat × Value)

/-- The captures of each element, in order. -/
def capturesAll (f : Value → Probe Captures) : List Value → Probe Captures
  | [] => .done []
  | v :: vs => (f v).bind fun kept => (capturesAll f vs).bind fun rest => .done (kept ++ rest)

mutual
/-- What an accepted value leaves in the slots; an alternative that rejects it leaves nothing. -/
def captures : Matcher → Value → Probe Captures
  | capture slot m, v => (captures m v).bind fun kept => .done ((slot, v) :: kept)
  | and l r, v => (captures l v).bind fun kept => (captures r v).bind fun rest => .done (kept ++ rest)
  | or l r, v => (test l v).bind fun b => if b then captures l v else captures r v
  | varargAll m, v =>
    match v with
    | .list items => capturesAll (fun item => captures m item) items
    | _ => .done []
  | varargs ms, v =>
    match v with
    | .list items => capturesEach ms items
    | _ => .done []
  | _, _ => .done []

/-- Position by position, up to the shorter list. -/
def capturesEach : List Matcher → List Value → Probe Captures
  | m :: ms, v :: vs =>
    (captures m v).bind fun kept => (capturesEach ms vs).bind fun rest => .done (kept ++ rest)
  | _, _ => .done []
end

/-! ## Replacing an object -/

mutual
/-- Mention `new` wherever the object `old` is mentioned; objects inside list literals stay. -/
def replaceObject (old : Nat) (new : ObjectRef) : Matcher → Matcher
  | eq (.object o) => eq (.object (if o.id == old then new else o))
  | same o => same (if o.id == old then new else o)
  | not m => not (replaceObject old new m)
  | and l r => and (replaceObject old new l) (replaceObject old new r)
  | or l r => or (replaceObject old new l) (replaceObject old new r)
  | capture slot m => capture slot (replaceObject old new m)
  | varargAll m => varargAll (replaceObject old new m)
  | varargs ms => varargs (replaceObjectEach old new ms)
  | m => m

def replaceObjectEach (old : Nat) (new : ObjectRef) : List Matcher → List Matcher
  | [] => []
  | m :: ms => replaceObject old new m :: replaceObjectEach old new ms
end

end Matcher

end TestDouble
