/-!
# Phases of a session
-/

namespace TestDouble

inductive Phase where
  /-- Calls are answered. -/
  | answering
  /-- A statement that stubs is being recorded. -/
  | stubbing
  /-- The recorded statement waits for its answer. -/
  | awaitingAnswer
  /-- A statement that verifies is being recorded. -/
  | verifying
  deriving DecidableEq, Repr

def Phase.text : Phase → String
  | .answering => "Answering"
  | .stubbing => "Stubbing"
  | .awaitingAnswer => "StubbingAwaitingAnswer"
  | .verifying => "Verifying"

end TestDouble
