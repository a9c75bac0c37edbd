import TestDouble.Failure
import TestDouble.Recording.Round

/-!
# Hints

A block may need a result of unknown shape to have a certain one. It then fails with a shape mismatch;
the shape is noted as a hint for the call that gave the value, and the round is run again.
-/

namespace TestDouble

/-- Whether to keep a round or to run it again. -/
inductive Review where
  | complete
  | retry
  deriving DecidableEq

structure Hinting where
  hints : Hints := []
  /-- Passes of the current round. -/
  passes : Nat := 0

namespace Hinting

def startRound (h : Hinting) : Hinting := { h with passes := 0 }

/-- The call to blame: the one whose stand-in was refused, else the last one of unknown shape. -/
def blamed? (h : Hinting) (r : Round) (placeholder : Option Nat) : Option Nat :=
  placeholder.bind r.callReturning? <|> r.lastAmbiguous? h.hints

/-- Look at the outcome of a pass. A round may take one pass more than it makes different calls. -/
def review (h : Hinting) (outcome : Except Failure Unit) (r : Round) :
    Except MockError Review × Hinting :=
  let h := { h with passes := h.passes + 1 }
  match outcome with
  | .ok _ => (.ok .complete, h)
  | .error failure =>
    match failure.ofBlock with
    | .shapeMismatch expected actual placeholder =>
      match h.blamed? r placeholder with
      | none => (.error (.shapeMismatch expected actual placeholder), h)
      | some index =>
        if r.distinctInvocationCount + 1 ≤ h.passes then
          (.error (.hintsExhausted index expected h.passes), h)
        else (.ok .retry, { h with hints := h.hints.insert index expected })
    | error => (.error error, h)

end Hinting

end TestDouble
