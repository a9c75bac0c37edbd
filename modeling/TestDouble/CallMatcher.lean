import TestDouble.Call
import TestDouble.Matcher.Text

/-!
# Call matchers

A target, a method, and a matcher for every argument.
-/

namespace TestDouble

structure CallMatcher where
  target : ObjectRef
  method : Method
  args : List Matcher

namespace CallMatcher

/-- Accepts calls like this one. -/
def exact (c : Call) : CallMatcher := ⟨c.target, c.method, c.args.map .eq⟩

/-- States that the target received no calls. -/
def notCalled (target : ObjectRef) : CallMatcher :=
  ⟨target, { name := "*", params := [], returns := .generic }, [.notCalled]⟩

def isNotCalled (m : CallMatcher) : Bool :=
  match m.args with
  | [.notCalled] => true
  | _ => false

/-- The statement that there were no calls accepts every call on its target. -/
def test (m : CallMatcher) (c : Call) : Probe Bool :=
  if m.target != c.target then .done false
  else if m.isNotCalled then .done true
  else if m.method == c.method && m.args.length == c.args.length then Matcher.testEach m.args c.args
  else .done false

def captures (m : CallMatcher) (c : Call) : Probe Matcher.Captures :=
  Matcher.capturesEach m.args c.args

def replaceObject (old : Nat) (new : ObjectRef) (m : CallMatcher) : CallMatcher :=
  { m with
    target := if m.target.id == old then new else m.target
    args := Matcher.replaceObjectEach old new m.args }

def text (m : CallMatcher) : String :=
  if m.isNotCalled then m.target.text ++ " wasNot Called"
  else m.target.text ++ "." ++ m.method.name ++ "(" ++ ", ".intercalate (Matcher.textEach m.args) ++ ")"

/-- Same target, same method, same text. -/
def sameShape (a b : CallMatcher) : Bool :=
  a.target == b.target && a.method == b.method && a.text == b.text

end CallMatcher

end TestDouble
