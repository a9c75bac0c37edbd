import TestDouble.HostType
import TestDouble.Session.Statement

/-!
# Typed matchers and calls

Matchers and calls whose values are read at a host type.
-/

namespace TestDouble.Act

variable {σ : Type}

/-- Register a matcher for an argument of type `t`. -/
def matching (i : Nat) (t : HostType) (m : Matcher) : Act σ MockError t.Carrier := do
  ofExcept (t.ofValue (← registerMatcher i m t.shape))

/-- A predicate on the values of a type; values of another shape are not accepted. -/
def typedPredicate (t : HostType) (p : t.Carrier → Probe Bool) (v : Value) : Probe Bool :=
  match t.ofValue v with
  | .ok x => p x
  | .error _ => .done false

/-- A matcher for this very object. -/
def matchingSame (i : Nat) (o : ObjectRef) : Act σ MockError ObjectRef := do
  let v ← registerMatcher i (.same o) (.object o.className)
  ofExcept (v.expectObject o.className)

/-- A call whose result is read at a type. -/
def callTyped (i : Nat) (t : HostType) (target : ObjectRef) (method : Method) (args : List Value)
    (underlying : Option (Underlying σ)) : Act σ MockError t.Carrier := do
  ofExcept (t.ofValue (← intercept i target method args underlying))

/-- A call that returns a mock of a class. Where the method declares that class, any object will do. -/
def callObject (i : Nat) (target : ObjectRef) (method : Method) (args : List Value)
    (className : String) : Act σ MockError ObjectRef := do
  let v ← intercept i target method args none
  match v with
  | .object o =>
    if method.returns = .object className then return o else ofExcept (v.expectObject className)
  | v => ofExcept (v.expectObject className)

end TestDouble.Act
