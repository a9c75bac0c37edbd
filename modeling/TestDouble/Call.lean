import TestDouble.Method

/-!
# Calls

A call that has happened: target, method and arguments, its place in the order of all calls, and the call
during whose answer it was made.
-/

namespace TestDouble

/-- A call whose answer is running. -/
structure Frame where
  target : Nat
  method : String
  deriving DecidableEq, Repr

structure Call where
  target : ObjectRef
  method : Method
  args : List Value
  /-- Strictly increasing over all calls. -/
  sequence : Nat
  caller : Option Frame

namespace Call

def frame (c : Call) : Frame := ⟨c.target.id, c.method.name⟩

/-- Made by the target on itself while it was answering. -/
def isSelfCall (c : Call) : Bool := c.caller.any fun f => f.target == c.target.id

/-- Same target, method and arguments. -/
def sameAs (a b : Call) : Bool := a.target == b.target && a.method == b.method && a.args == b.args

def text (c : Call) : String :=
  c.target.text ++ "." ++ c.method.name ++ "(" ++ ", ".intercalate (c.args.map Value.text) ++ ")"

end Call

end TestDouble
