import TestDouble.Scenario.Masked
import TestDouble.Session.Typed

/-!
# What a scenario remembers

Scenarios are written descriptions of what code under test does with sessions and mocks. While one runs it
remembers variables, the names of sessions and capture slots, the blocks that are running, and the stand-in
values it has been given.
-/

namespace TestDouble.Scenario

/-- What a step gives. -/
inductive Result where
  | nothing
  | flag (b : Bool)
  | count (n : Nat)
  | text (s : String)
  | texts (ss : List String)
  | maybeText (s : Option String)
  | ids (ids : List Nat)
  | value (v : Value)
  /-- A new mock, and the number of mocks. -/
  | created (o : ObjectRef) (size : Nat)
  | child (o : ObjectRef)
  /-- The number of mocks, and which of some objects are registered. -/
  | registry (size : Nat) (known : List Bool)
  | stub (s : Stub)
  | calls (log : List LoggedCall)
  | unverified (calls : List Call)
  | slot (values : List Value)
  | report (r : Report) (document : Bool)
  /-- A failure that the step allows. -/
  | caught (f : Failure)
  /-- A failure in a list of results. -/
  | failed (f : Failure)
  | results (rs : List Result)
  /-- The result of a step that ended when so many stand-ins were known. -/
  | knowing (issued : Nat) (r : Result)
  /-- A statement: its result, the number of passes, and what the steps of each pass gave. -/
  | statement (r : Result) (passes : Nat) (trace : Option (List (List Result)))

/-- The value that a step leaves for later steps. -/
def Result.value? : Result → Option Value
  | .value v => some v
  | .created o _ => some (.object o)
  | .child o => some (.object o)
  | _ => none

/-- A block that is running. -/
structure Running where
  session : Nat
  /-- Counted from one. -/
  pass : Nat

structure Memory where
  bindings : List (String × Value) := []
  sessions : List (String × Nat) := []
  slots : List String := []
  /-- Counters handed out so far. -/
  counters : Nat := 0
  /-- The innermost block comes first. -/
  running : List Running := []
  /-- For every statement in progress, the innermost first, what its passes gave. -/
  passes : List (List (List Result)) := []
  /-- The scalars in the stand-ins that steps have been given. -/
  issued : List Value := []

/-- What a step may do. -/
abbrev Play (α : Type) := Act Memory Failure α

/-- Use an operation of the library in a step. -/
def operate {α : Type} (x : Act Memory MockError α) : Play α := ExceptT.adapt Failure.mock x

def memory : Play Memory := return (← get).memory

def modifyMemory (f : Memory → Memory) : Play Unit := modify fun w => { w with memory := f w.memory }

def assign (name : String) (v : Value) : Play Unit :=
  modifyMemory fun m => { m with bindings := (name, v) :: m.bindings.filter (·.1 != name) }

def lookup (name : String) : Play Value := do
  match (← memory).bindings.lookup name with
  | some v => return v
  | none => throw (.plain ("unbound variable " ++ name))

/-- The number of a capture slot; slots are numbered as they are first named. -/
def slotNumber (name : String) : Play Nat := do
  let slots := (← memory).slots
  match slots.findIdx? (· == name) with
  | some i => return i
  | none =>
    modifyMemory fun m => { m with slots := m.slots ++ [name] }
    return slots.length

def newCounter : Play Nat := do
  let n := (← memory).counters
  modifyMemory fun m => { m with counters := n + 1 }
  return n

/-- The session of a name. -/
def sessionNamed (name : String) : Play Nat := do
  return ((← memory).sessions.lookup name).getD 0

/-- A new session under a name. -/
def openNamed (name : String) : Play Unit := do
  let i ← operate Act.openSession
  modifyMemory fun m => { m with sessions := (name, i) :: m.sessions.filter (·.1 != name) }

/-- Note a stand-in that a step is given. -/
def issue (v : Value) : Play Unit := modifyMemory fun m => { m with issued := m.issued ++ scalars v }

/-- A block of the session is being recorded, so that what a call gives is a stand-in. -/
def isRecording (session : Nat) : Play Bool := do
  let phase := (← operate (Act.session session)).phase
  return (← memory).running.any (·.session == session) && (phase = .stubbing || phase = .verifying)

end TestDouble.Scenario
