import TestDouble.Call
import TestDouble.Failure

/-!
# Answers

What a stubbed call does when it is matched.
-/

namespace TestDouble

/-- What a computed answer does: it may look at mocks, clear and release them, make calls through a
session, and count its own runs, until it gives its result. -/
inductive Reaction where
  | done (result : Except Failure Value)
  /-- The number of logged calls of a mock, if it is registered. -/
  | callCount (mock : Nat) (next : Option Nat → Reaction)
  /-- Clear the answers of a mock; the result tells whether it is registered. -/
  | clearAnswers (mock : Nat) (next : Bool → Reaction)
  /-- Release a mock; the result tells whether it was registered. -/
  | release (mock : Nat) (next : Bool → Reaction)
  /-- Count one run; the result is the number of earlier ones. -/
  | tally (counter : Nat) (next : Nat → Reaction)
  /-- Make a call through a session. -/
  | call (session : Nat) (target : ObjectRef) (method : Method) (args : List Value)
      (next : Except MockError Value → Reaction)
  /-- Make a call with an implementation behind it. -/
  | callThrough (session : Nat) (target : ObjectRef) (method : Method) (args : List Value)
      (underlying : List Value → Reaction) (next : Except MockError Value → Reaction)

inductive Answer where
  | constant (v : Value)
  | throw (failure : Failure)
  /-- Run the implementation behind the mock. -/
  | callUnderlying
  /-- One answer per call; the last one repeats. -/
  | sequence (answers : List Answer)
  | computed (react : Call → Reaction)
  /-- A computed answer whose result arrives later; the call waits for it. -/
  | computedAsync (react : Call → Reaction)

namespace Answer

/-- A sequence of answers; the sequences among them are unfolded. -/
def inSequence (answers : List Answer) : Answer :=
  .sequence <| answers.flatMap fun
    | .sequence inner => inner
    | answer => [answer]

/-- The answer for a call that comes after `hits` others. -/
def select (hits : Nat) : Answer → Answer
  | .sequence answers => (answers[hits]? <|> answers.getLast?).getD (.constant .unit)
  | answer => answer

/-- The name of the kind of answer. -/
def kind : Answer → String
  | .constant _ => "constant"
  | .throw _ => "throw"
  | .callUnderlying => "call-original"
  | .sequence _ => "sequence"
  | .computed _ => "computed"
  | .computedAsync _ => "computed-async"

mutual
def text : Answer → String
  | .constant v => "Constant(" ++ v.text ++ ")"
  | .throw failure => "Throw(" ++ failure.headline ++ ")"
  | .sequence answers => "[" ++ ", ".intercalate (textEach answers) ++ "]"
  | answer => answer.kind

def textEach : List Answer → List String
  | [] => []
  | a :: as => text a :: textEach as
end

end Answer

end TestDouble
