import TestDouble.Scenario.Memory

/-!
# Terms

How scenarios write values, matchers, failures, answers, calls and requests. Evaluating a term makes the
objects, counters and calls that it asks for, from left to right where nothing else is said.
-/

namespace TestDouble.Scenario

/-! ## Values -/

inductive Term where
  | value (v : Value)
  | var (name : String)
  | item (t : Term) (i : Nat)
  /-- Wraps around. -/
  | add (a b : Term)
  /-- Wraps around. -/
  | mul (a b : Term)
  | new (className : String)
  | list (items : List Term)

mutual
def Term.eval : Term → Play Value
  | .value v => return v
  | .var name => lookup name
  | .item t i => do
    match ← eval t with
    | Value.list items => return items.getD i .null
    | _ => throw (.plain "list expected")
  | .add a b => do
    match ← eval a, ← eval b with
    | .int a, .int b => return .int (a + b)
    | _, _ => throw (.plain "ints expected")
  | .mul a b => do
    match ← eval a, ← eval b with
    | .int a, .int b => return .int (a * b)
    | _, _ => throw (.plain "ints expected")
  | .new className => do
    return .object (← operate (Act.onStore (·.freshObject className)))
  | .list items => return .list (← Term.evalEach items)

def Term.evalEach : List Term → Play (List Value)
  | [] => return []
  | t :: ts => do
    let v ← Term.eval t
    return v :: (← Term.evalEach ts)
end

def Term.evalObject (t : Term) : Play ObjectRef := do
  match ← t.eval with
  | .object o => return o
  | _ => throw (.plain "object expected")

/-- A sequence number. -/
def Term.evalMark (t : Term) : Play Nat := do
  match ← t.eval with
  | .int n => return n.toInt.toNat
  | .long n => return n.toInt.toNat
  | _ => throw (.plain "sequence number expected")

/-! ## Predicates and matchers -/

inductive PredicateTerm where
  | always (b : Bool)
  | even
  | nonempty
  | is (t : Term)
  /-- True from the evaluation after the first `n` on. -/
  | after (n : Nat)
  /-- More than `n` calls are logged on a registered mock. -/
  | callsAbove (mock : Term) (n : Nat)
  /-- Clears the answers of a mock, and is true. -/
  | clear (mock : Term)

def PredicateTerm.eval : PredicateTerm → Play (Value → Probe Bool)
  | .always b => return fun _ => .done b
  | .even => return fun
    | .int n => .done (n.toInt % 2 == 0)
    | _ => .done false
  | .nonempty => return fun
    | .str s => .done (!s.isEmpty)
    | .list items => .done (!items.isEmpty)
    | _ => .done false
  | .is t => do
    let expected ← t.eval
    return fun v => .done (v == expected)
  | .after n => do
    let counter ← newCounter
    return fun _ => .tally counter fun earlier => .done (n ≤ earlier)
  | .callsAbove mock n => do
    let o ← mock.evalObject
    return fun _ => .callCount o.id fun count => .done (count.any (n < ·))
  | .clear mock => do
    let o ← mock.evalObject
    return fun _ => .clearAnswers o.id fun _ => .done true

inductive MatcherTerm where
  | any
  | eq (t : Term)
  | same (t : Term)
  | compare (op : Comparison) (t : Term)
  | predicate (description : String) (p : PredicateTerm)
  | ofShape (s : Shape)
  | null
  | notNull
  | not (m : MatcherTerm)
  | and (l r : MatcherTerm)
  | or (l r : MatcherTerm)
  | capture (slot : String) (m : MatcherTerm)
  | varargAny
  | varargAll (m : MatcherTerm)
  | varargs (ms : List MatcherTerm)
  | notCalled

mutual
def MatcherTerm.eval : MatcherTerm → Play Matcher
  | .any => return .any
  | .eq t => return .eq (← t.eval)
  | .same t => return .same (← t.evalObject)
  | .compare op t => return .compare op (← t.eval)
  | .predicate description p => return .predicate description (← p.eval)
  | .ofShape s => return .ofShape s
  | .null => return .null
  | .notNull => return .notNull
  | .not m => return .not (← eval m)
  | .and l r => do
    let l ← eval l
    return .and l (← eval r)
  | .or l r => do
    let l ← eval l
    return .or l (← eval r)
  | .capture slot m => do
    let slot ← slotNumber slot
    return .capture slot (← eval m)
  | .varargAny => return .varargAny
  | .varargAll m => return .varargAll (← eval m)
  | .varargs ms => return .varargs (← MatcherTerm.evalEach ms)
  | .notCalled => return .notCalled

def MatcherTerm.evalEach : List MatcherTerm → Play (List Matcher)
  | [] => return []
  | m :: ms => do
    let m ← MatcherTerm.eval m
    return m :: (← MatcherTerm.evalEach ms)
end

/-! ## Calls -/

/-- A call that happens when the term is evaluated. -/
structure CallTerm where
  target : Term
  method : Method
  args : List Term
  caller : Option (Term × String) := none

/-- The target, the frame of the caller, and the arguments. The object that calls comes first. -/
def CallTerm.evalParts (c : CallTerm) : Play (ObjectRef × Option Frame × List Value) := do
  let caller ← match c.caller with
    | none => pure none
    | some (o, method) => do pure (some ⟨(← o.evalObject).id, method⟩)
  let target ← c.target.evalObject
  return (target, caller, ← Term.evalEach c.args)

def CallTerm.eval (c : CallTerm) : Play Call := do
  let (target, caller, args) ← c.evalParts
  operate (Act.onStore (·.newCall target c.method args caller))

inductive CallMatcherTerm where
  | args (target : Term) (method : Method) (ms : List MatcherTerm)
  | notCalled (target : Term)
  | exact (c : CallTerm)

/-- The matchers come before the target. -/
def CallMatcherTerm.eval : CallMatcherTerm → Play CallMatcher
  | .args target method ms => do
    let ms ← MatcherTerm.evalEach ms
    return ⟨← target.evalObject, method, ms⟩
  | .notCalled target => return .notCalled (← target.evalObject)
  | .exact c => return .exact (← c.eval)

/-! ## Failures and answers -/

inductive FailureTerm where
  | plain (text : String)
  | error (e : MockError)
  | rejected (expected : Shape) (t : Term)
  | thrown (inner : FailureTerm)
  | blockFailed (inner : FailureTerm)
  | context (texts : List String) (inner : FailureTerm)

def FailureTerm.eval : FailureTerm → Play Failure
  | .plain text => return .plain text
  | .error e => return .mock e
  | .rejected expected t => return .mock (.rejected expected (← t.eval))
  | .thrown inner => return .mock (.thrown (← inner.eval))
  | .blockFailed inner => return .mock (.blockFailed (← inner.eval))
  | .context texts inner => return (← inner.eval).withContexts texts

inductive ReactionTerm where
  | const (t : Term)
  | arg (i : Nat)
  | args
  /-- Wraps around. -/
  | sum
  | fail (f : FailureTerm)
  | display
  | sequenceNumber
  | caller
  | selfCall
  | count (mock : Term)
  | clear (mock : Term)
  | release (mock : Term)

/-- The wrapping sum of whole numbers. -/
def sumArgs (start : Int32) : List Value → Except Failure Value
  | [] => .ok (.int start)
  | .int n :: vs => sumArgs (start + n) vs
  | v :: _ => .error (.plain ("not an int: " ++ v.text))

/-- Fail unless the mock is known. -/
def ifKnown (mock : Nat) (known : Bool) (v : Value) : Reaction :=
  .done (if known then .ok v else .error (.mock (.unknown mock)))

def ReactionTerm.eval : ReactionTerm → Play (Call → Reaction)
  | .const t => do
    let v ← t.eval
    return fun _ => .done (.ok v)
  | .arg i => return fun c => .done <| match c.args[i]? with
    | some v => .ok v
    | none => .error (.plain ("missing argument #" ++ toString i))
  | .args => return fun c => .done (.ok (.list c.args))
  | .sum => return fun c => .done (sumArgs 0 c.args)
  | .fail f => do
    let failure ← f.eval
    return fun _ => .done (.error failure)
  | .display => return fun c => .done (.ok (.str c.text))
  | .sequenceNumber => return fun c => .done (.ok (.long (.ofNat c.sequence)))
  | .caller => return fun c => .done (.ok ((c.caller.map fun f => Value.str f.method).getD .null))
  | .selfCall => return fun c => .done (.ok (.bool c.isSelfCall))
  | .count mock => do
    let o ← mock.evalObject
    return fun _ => .callCount o.id fun n => ifKnown o.id n.isSome (.int (.ofNat (n.getD 0)))
  | .clear mock => do
    let o ← mock.evalObject
    return fun _ => .clearAnswers o.id fun known => ifKnown o.id known .unit
  | .release mock => do
    let o ← mock.evalObject
    return fun _ => .release o.id fun known => ifKnown o.id known .unit

inductive AnswerTerm where
  | const (t : Term)
  | throw (f : FailureTerm)
  | underlying
  /-- Sequences among the answers are unfolded. -/
  | inSequence (answers : List AnswerTerm)
  | sequence (answers : List AnswerTerm)
  | computed (r : ReactionTerm)
  | computedAsync (r : ReactionTerm)

mutual
def AnswerTerm.eval : AnswerTerm → Play Answer
  | .const t => return .constant (← t.eval)
  | .throw f => return .throw (← f.eval)
  | .underlying => return .callUnderlying
  | .inSequence answers => return .inSequence (← AnswerTerm.evalEach answers)
  | .sequence answers => return .sequence (← AnswerTerm.evalEach answers)
  | .computed r => return .computed (← r.eval)
  | .computedAsync r => return .computedAsync (← r.eval)

def AnswerTerm.evalEach : List AnswerTerm → Play (List Answer)
  | [] => return []
  | a :: as => do
    let a ← AnswerTerm.eval a
    return a :: (← AnswerTerm.evalEach as)
end

/-! ## Requests -/

/-- One step in building a request. -/
inductive RequestTerm where
  | start (order : CallOrder)
  | times (n : Nat)
  | atLeast (n : Nat)
  | atMost (n : Nat)
  | inverse
  | within (ms : Nat)
  | since (mark : Term)
  | until_ (mark : Term)

def RequestTerm.apply (r : Request) : RequestTerm → Play Request
  | .start order => return { order }
  | .times n => return r.times n
  | .atLeast n => return r.atLeast n
  | .atMost n => return r.atMost n
  | .inverse => return r.inverted
  | .within ms => return r.within (.ofMillis ms)
  | .since mark => return r.since (← mark.evalMark)
  | .until_ mark => return r.until_ (← mark.evalMark)

def RequestTerm.evalAll (ts : List RequestTerm) : Play Request := ts.foldlM RequestTerm.apply {}

end TestDouble.Scenario
