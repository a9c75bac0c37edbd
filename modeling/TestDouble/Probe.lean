/-!
# Probes

What a predicate may do while it is evaluated: read the call count of a mock, clear the answers of a mock,
and count its own evaluations. A probe is the tree of these steps; `Probe.done` is a pure answer.
-/

namespace TestDouble

inductive Probe (α : Type) : Type where
  | done (a : α)
  /-- The number of logged calls of a mock, if it is registered. -/
  | callCount (mock : Nat) (next : Option Nat → Probe α)
  /-- Clear the answers of a mock; the result tells whether it is registered. -/
  | clearAnswers (mock : Nat) (next : Bool → Probe α)
  /-- Count one evaluation; the result is the number of earlier ones. -/
  | tally (counter : Nat) (next : Nat → Probe α)

namespace Probe

variable {α β : Type}

def bind : Probe α → (α → Probe β) → Probe β
  | done a, f => f a
  | callCount mock next, f => callCount mock fun n => (next n).bind f
  | clearAnswers mock next, f => clearAnswers mock fun b => (next b).bind f
  | tally counter next, f => tally counter fun n => (next n).bind f

instance : Monad Probe where
  pure := done
  bind := bind

/-- Stops at the first element that fails. -/
def all (p : α → Probe Bool) : List α → Probe Bool
  | [] => done true
  | a :: as => (p a).bind fun b => if b then all p as else done false

/-- Tests every element, in order. -/
def filter (p : α → Probe Bool) : List α → Probe (List α)
  | [] => done []
  | a :: as => (p a).bind fun b => (filter p as).bind fun kept => done (if b then a :: kept else kept)

/-- Stops at the first element that passes, and gives its position too. -/
def findIdx? (p : α → Probe Bool) : List α → Probe (Option (Nat × α))
  | [] => done none
  | a :: as => (p a).bind fun b =>
    if b then done (some (0, a))
    else (findIdx? p as).bind fun found => done (found.map fun f => (f.1 + 1, f.2))

end Probe

end TestDouble
