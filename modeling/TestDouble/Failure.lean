import TestDouble.Phase
import TestDouble.Verification.Report

/-!
# Failures

`MockError` lists what can go wrong. Blocks, computed answers and the implementations behind mocks may
fail in ways of their own; such a `Failure` is a text or a `MockError`, perhaps with explanations around
it. A `MockError` that comes back through them is recognised.
-/

namespace TestDouble

mutual
inductive MockError where
  /-- The operation is not allowed in this phase. -/
  | badSequence (operation : String) (phase : Phase) (reason : Option String)
  /-- Registered matchers that were passed to no call. -/
  | unresolvedMatcher (matchers : List String)
  /-- A call on a strict mock that matched nothing. -/
  | noAnswer (target call : String) (registered : List String)
  | verificationFailed (report : Report)
  /-- The shape of a result could not be found within the allowed passes. -/
  | hintsExhausted (callIndex : Nat) (expected : Shape) (passes : Nat)
  /-- A value of another shape was needed; `placeholder` is the stand-in that was refused. -/
  | shapeMismatch (expected : Shape) (actual : String) (placeholder : Option Nat)
  | thrown (failure : Failure)
  /-- There is no implementation to call. -/
  | noUnderlying (call : String)
  | unknownMock (mock : String)
  /-- The recorded block failed for a reason of its own. -/
  | blockFailed (failure : Failure)

inductive Failure where
  | plain (text : String)
  | mock (error : MockError)
  | context (text : String) (inner : Failure)
end

namespace MockError

/-- The value does not have this shape. -/
def rejected (expected : Shape) (v : Value) : MockError :=
  .shapeMismatch expected v.typeName ((v.object?.filter ObjectRef.isPlaceholder).map (·.id))

def unknown (id : Nat) : MockError := .unknownMock (identityText id)

def report? : MockError → Option Report
  | .verificationFailed report => some report
  | _ => none

/-- The identity of the stand-in that was refused. -/
def placeholder? : MockError → Option Nat
  | .shapeMismatch _ _ placeholder => placeholder
  | _ => none

/-- The name of the kind of error. -/
def name : MockError → String
  | .badSequence .. => "BadRecordingSequence"
  | .unresolvedMatcher _ => "UnresolvedMatcher"
  | .noAnswer .. => "NoAnswerFound"
  | .verificationFailed _ => "VerificationFailed"
  | .hintsExhausted .. => "AutoHintExhausted"
  | .shapeMismatch .. => "ShapeMismatch"
  | .thrown _ => "Thrown"
  | .noUnderlying _ => "NoOriginal"
  | .unknownMock _ => "UnknownMock"
  | .blockFailed _ => "BlockFailed"

end MockError

namespace Failure

/-- The `MockError` inside all explanations. -/
def mockError? : Failure → Option MockError
  | .plain _ => none
  | .mock error => some error
  | .context _ inner => inner.mockError?

/-- The error of a block that failed like this. -/
def ofBlock (f : Failure) : MockError := f.mockError?.getD (.blockFailed f)

/-- The error of an answer that failed like this. -/
def ofAnswer (f : Failure) : MockError := f.mockError?.getD (.thrown f)

/-- Add explanations, the innermost first. -/
def withContexts (f : Failure) (contexts : List String) : Failure :=
  contexts.foldl (fun inner text => .context text inner) f

end Failure

/-! ## Messages -/

mutual
def MockError.message : MockError → String
  | .badSequence operation phase reason =>
    "BadRecordingSequence: `" ++ operation ++ "` is not allowed while " ++ phase.text
      ++ (match reason with
        | some reason => " (" ++ reason ++ ")"
        | none => "")
  | .unresolvedMatcher matchers =>
    "UnresolvedMatcher: " ++ ", ".intercalate matchers
      ++ " was registered but never passed as an argument of a mocked call"
  | .noAnswer target call registered =>
    "no answer found for: " ++ call ++ "\nregistered matchers for " ++ target ++ ":"
      ++ (if registered.isEmpty then "\n  <none>" else String.join (registered.map ("\n  " ++ ·)))
  | .verificationFailed report => report.text
  | .hintsExhausted callIndex expected passes =>
    "AutoHintExhausted: return type of call #" ++ toString callIndex ++ " still unresolved after "
      ++ toString passes ++ " passes (last expected " ++ expected.text ++ ")"
  | .shapeMismatch expected actual _ =>
    "ShapeMismatch: expected " ++ expected.text ++ ", got " ++ actual
  | .thrown failure => failure.headline
  | .noUnderlying call => "no original implementation to call for " ++ call
  | .unknownMock mock => "unknown mock " ++ mock ++ " (never created or already released)"
  | .blockFailed failure => "recorded block failed: " ++ failure.message

/-- The outermost explanation. -/
def Failure.headline : Failure → String
  | .plain text => text
  | .mock error => error.message
  | .context text _ => text

/-- All explanations, the outermost first, and the cause. -/
def Failure.message : Failure → String
  | .plain text => text
  | .mock error => error.message
  | .context text inner => text ++ ": " ++ inner.message
end

end TestDouble
