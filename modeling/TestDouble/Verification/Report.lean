import TestDouble.CallMatcher
import TestDouble.Verification.Request

/-!
# Verification reports

What was expected, which calls were examined, and whether they agreed.
-/

namespace TestDouble

/-- The calls that the matchers accepted, by sequence number, or the reason of the failure. -/
inductive Outcome where
  | passed (matched : List Nat)
  | failed (reason : String)

namespace Outcome

def isPassed : Outcome → Bool
  | passed _ => true
  | failed _ => false

/-- Nothing when it passed. -/
def reason : Outcome → String
  | passed _ => ""
  | failed reason => reason

/-- Nothing when it failed. -/
def matched : Outcome → List Nat
  | passed matched => matched
  | failed _ => []

end Outcome

structure CallSummary where
  sequence : Nat
  call : String
  deriving DecidableEq

structure Report where
  order : CallOrder
  inverse : Bool
  passed : Bool
  reason : String
  expected : List String
  actual : List CallSummary
  deriving DecidableEq

namespace Report

def of (r : Request) (o : Outcome) (expected : List CallMatcher) (calls : List Call) : Report where
  order := r.order
  inverse := r.inverse
  passed := o.isPassed
  reason := o.reason
  expected := expected.map CallMatcher.text
  actual := calls.map fun c => ⟨c.sequence, c.text⟩

def text (r : Report) : String :=
  let line := fun (s : String) => "\n  " ++ s
  let calls := r.actual.map fun c => line ("#" ++ toString c.sequence ++ " " ++ c.call)
  (if r.passed then "Verification passed" else "Verification failed: " ++ r.reason)
    ++ "\n\nExpected:" ++ String.join (r.expected.map line)
    ++ "\n\nActual calls:" ++ (if calls.isEmpty then line "(no calls)" else String.join calls)

/-- Every call is stamped with `moment`. -/
def toJson (r : Report) (moment : String) : Json :=
  let call := fun (c : CallSummary) =>
    Json.obj [("sequence", .nat c.sequence), ("call", .str c.call), ("timestamp", .str moment)]
  .obj [("order", r.order.toJson), ("inverse", .bool r.inverse), ("passed", .bool r.passed),
    ("reason", .str r.reason), ("expected", .arr (r.expected.map Json.str)),
    ("actual", .arr (r.actual.map call))]

end Report

end TestDouble
