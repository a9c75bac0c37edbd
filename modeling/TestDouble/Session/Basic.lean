import TestDouble.Recording.Resolution
import TestDouble.Settings

/-!
# Sessions and the world

A session records statements: blocks that say by example which calls are meant. The world holds the store
that all sessions share, the sessions, and a memory for the code that uses them. `Act` is what that code,
and every operation of the library, may do: change the world, and fail.
-/

namespace TestDouble

structure Session where
  phase : Phase := .answering
  request : Option Request := none
  /-- The recorded block of the statement in progress. -/
  resolution : Option Resolution := none
  /-- Mocks that the recorded block declares not called. -/
  notCalled : List ObjectRef := []
  /-- The round in progress. -/
  round : Option OpenRound := none
  generator : Generator
  /-- The calls whose answers are running, the innermost first. -/
  frames : List Frame := []

namespace Session

/-- Drop the statement in progress. -/
def cleared (s : Session) : Session :=
  { s with phase := .answering, request := none, resolution := none, notCalled := [], round := none }

end Session

structure World (σ : Type) where
  settings : Settings := {}
  store : Store := {}
  sessions : List Session := []
  /-- The numbers that a session draws, by the seed and by the position of the session. -/
  entropy : Option Nat → Nat → Nat → Nat := fun seed _ => (Generator.ofSeed seed).entropy
  /-- How deeply the calls of computed answers may be nested. -/
  depth : Nat := 1000
  memory : σ

namespace World

variable {σ : Type}

/-- The session at position `i` when it is opened. -/
def newSession (w : World σ) (i : Nat) : Session := { generator := { entropy := w.entropy w.settings.seed i } }

/-- Sessions go by their position. -/
def session (w : World σ) (i : Nat) : Session := w.sessions.getD i (w.newSession i)

def modifySession (w : World σ) (i : Nat) (f : Session → Session) : World σ :=
  { w with sessions := w.sessions.modify i f }

end World

/-- A computation over the world that may fail. -/
abbrev Act (σ ε α : Type) := ExceptT ε (StateM (World σ)) α

/-- An implementation behind a mock, run on the arguments of a call. -/
abbrev Underlying (σ : Type) := List Value → Act σ Failure Value

namespace Act

variable {σ ε ε' α : Type}

/-- Failing is a result. -/
def attempt (x : Act σ ε α) : Act σ ε' (Except ε α) := ExceptT.mk do return .ok (← x.run)

def ofExcept : Except ε α → Act σ ε α
  | .ok a => return a
  | .error e => throw e

/-- Use and change the store. -/
def onStore (f : Store → α × Store) : Act σ ε α := do
  let w ← get
  let (a, store) := f w.store
  set { w with store }
  return a

def modifyStore (f : Store → Store) : Act σ ε Unit := modify fun w => { w with store := f w.store }

/-- Change the store if nothing fails. -/
def updateStore (f : Store → Except ε Store) : Act σ ε Unit := do
  let store ← ofExcept (f (← get).store)
  modify fun w => { w with store }

/-- The stub of a registered mock. -/
def stub (mock : Nat) : Act σ MockError Stub := do ofExcept ((← get).store.registry.get mock)

def session (i : Nat) : Act σ ε Session := return (← get).session i

def modifySession (i : Nat) (f : Session → Session) : Act σ ε Unit := modify (·.modifySession i f)

/-- A session like new over the same store; the result is its position. -/
def openSession : Act σ ε Nat := do
  let w ← get
  set { w with sessions := w.sessions ++ [w.newSession w.sessions.length] }
  return w.sessions.length

/-- Drop the statement in progress. -/
def reset (i : Nat) : Act σ ε Unit := modifySession i Session.cleared

/-- Drop the statement in progress and fail. -/
def fail (i : Nat) (e : ε) : Act σ ε α := do
  reset i
  throw e

/-- Fail with `e` whenever `x` fails, after dropping the statement in progress. -/
def orFail (i : Nat) (x : Act σ ε α) : Act σ ε α := tryCatch x (fail i)

/-- The phase of the session, if it allows the operation. -/
def expectPhase (i : Nat) (operation : String) (allowed : List Phase) : Act σ MockError Phase := do
  let phase := (← session i).phase
  if allowed.contains phase then return phase
  else fail i (.badSequence operation phase none)

end Act

end TestDouble
