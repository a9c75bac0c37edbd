import TestDouble.Stub.Basic

/-!
# The registry

All mocks that have been created and not released, by identity.
-/

namespace TestDouble

structure Registry where
  stubs : List Stub := []

namespace Registry

def stub? (r : Registry) (id : Nat) : Option Stub := r.stubs.find? (·.id == id)

def get (r : Registry) (id : Nat) : Except MockError Stub :=
  match r.stub? id with
  | some s => .ok s
  | none => .error (.unknown id)

def contains (r : Registry) (id : Nat) : Bool := r.stubs.any (·.id == id)

def size (r : Registry) : Nat := r.stubs.length

def insert (r : Registry) (s : Stub) : Registry := ⟨r.stubs ++ [s]⟩

def modify (r : Registry) (id : Nat) (f : Stub → Stub) : Registry :=
  ⟨r.stubs.map fun s => if s.id == id then f s else s⟩

def erase (r : Registry) (id : Nat) : Registry := ⟨r.stubs.filter (·.id != id)⟩

/-- Release these mocks, each followed by the children it tracks; `n` bounds how many there are. -/
def releaseEach (r : Registry) : Nat → List Nat → Registry
  | 0, _ => r
  | n + 1, ids =>
    match ids.dropWhile fun id => !r.contains id with
    | [] => r
    | id :: rest => releaseEach (r.erase id) n (((r.stub? id).map (·.children)).getD [] ++ rest)

/-- Release mocks that may already be gone, and all their children. -/
def releaseAll (r : Registry) (ids : List Nat) : Registry := r.releaseEach r.size ids

def release (r : Registry) (id : Nat) : Except MockError Registry :=
  if r.contains id then .ok (r.releaseAll [id]) else .error (.unknown id)

end Registry

end TestDouble
