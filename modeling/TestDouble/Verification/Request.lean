import TestDouble.Duration
import TestDouble.Json

/-!
# Verification requests

How the recorded matchers relate to the call log, how often they may match, which calls count, and how
long to wait.
-/

namespace TestDouble

/-- How matchers relate to the call log. -/
inductive CallOrder where
  /-- Each matcher is counted on its own. -/
  | unordered
  /-- The matchers occur in the log in their order. -/
  | ordered
  /-- The matchers line up with consecutive calls. -/
  | sequence
  /-- Every call has a matcher, and every matcher a call. -/
  | all
  deriving DecidableEq, Repr

namespace CallOrder

def text : CallOrder → String
  | .unordered => "unordered"
  | .ordered => "ordered"
  | .sequence => "sequence"
  | .all => "all"

def toJson : CallOrder → Json
  | .unordered => .str "Unordered"
  | .ordered => .str "Ordered"
  | .sequence => .str "Sequence"
  | .all => .str "All"

end CallOrder

/-- Sequence numbers from `since?` on and before `until?`. -/
structure CallWindow where
  since? : Option Nat := none
  until? : Option Nat := none
  deriving DecidableEq, Repr

namespace CallWindow

def contains (w : CallWindow) (sequence : Nat) : Bool :=
  w.since?.all (· ≤ sequence) && w.until?.all (sequence < ·)

def toJson (w : CallWindow) : Json :=
  let mark := fun (m : Option Nat) => (m.map Json.nat).getD .null
  .obj [("since", mark w.since?), ("until", mark w.until?)]

end CallWindow

structure Request where
  order : CallOrder := .unordered
  inverse : Bool := false
  /-- Least number of matching calls, for each unordered matcher. -/
  least : Nat := 1
  /-- Greatest number of matching calls. -/
  most : Option Nat := none
  /-- Exact number of matching calls; overrides both bounds. -/
  exact : Option Nat := none
  /-- Try again until this much time has passed. -/
  timeout : Option Duration := none
  window : CallWindow := {}
  deriving DecidableEq

namespace Request

def unordered : Request := {}

def ordered : Request := { order := .ordered }

def sequence : Request := { order := .sequence }

def all : Request := { order := .all }

def times (r : Request) (n : Nat) : Request := { r with exact := some n }

def atLeast (r : Request) (n : Nat) : Request := { r with exact := none, least := n }

def atMost (r : Request) (n : Nat) : Request := { r with exact := none, most := some n }

def inverted (r : Request) : Request := { r with inverse := !r.inverse }

def within (r : Request) (d : Duration) : Request := { r with timeout := some d }

def since (r : Request) (mark : Nat) : Request :=
  { r with window := { r.window with since? := some mark } }

def until_ (r : Request) (mark : Nat) : Request :=
  { r with window := { r.window with until? := some mark } }

def countOk (r : Request) (n : Nat) : Bool :=
  match r.exact with
  | some exact => n == exact
  | none => r.least ≤ n && r.most.all (n ≤ ·)

def boundsText (r : Request) : String :=
  match r.exact, r.most with
  | some exact, _ => "exactly " ++ toString exact
  | none, some most => "between " ++ toString r.least ++ " and " ++ toString most
  | none, none => "at least " ++ toString r.least

/-- How often a request is tried: once at the start and once after every pause, until the time has
passed. A pause takes at least ten microseconds. -/
def attempts (r : Request) (pause : Duration) : Nat :=
  match r.timeout with
  | none => 1
  | some d =>
    let pause := max pause.toNanos 10000
    1 + (d.toNanos + pause - 1) / pause

end Request

end TestDouble
