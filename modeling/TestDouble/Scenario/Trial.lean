import TestDouble.Scenario.Step

/-!
# Trials

Single parts of the library tried on values and calls, in a world of their own.
-/

namespace TestDouble.Scenario

/-- A world with one session, in which nothing has happened. -/
def emptyWorld (settings : Settings) : World Memory :=
  { settings
    sessions := [{ generator := .ofSeed settings.seed }]
    memory := { sessions := [("main", 0)] } }

/-- Play in an empty world; what is left of the world tells what was captured and issued. -/
def Play.start {α : Type} (x : Play α) (settings : Settings) : Except Failure α × World Memory :=
  x.run.run (emptyWorld settings)

def probe {α : Type} (p : Probe α) : Play α := operate (Act.onStore (·.probe p))

/-- The capture slots with their contents. -/
def capturedSlots (w : World Memory) : List (String × List Value) :=
  w.memory.slots.zipIdx.map fun s => (s.1, w.store.captured s.2)

/-- Whether a matcher accepts each value. What it captures from the accepted ones, or from all, is kept
afterwards. -/
def tryMatcher (m : Matcher) (values : List Value) (captureAll : Bool) : Play (List Bool) := do
  let accepted ← values.mapM fun v => probe (m.test v)
  (values.zip accepted).forM fun v => do
    if v.2 || captureAll then
      let captures ← probe (m.captures v.1)
      operate (Act.modifyStore (·.keep captures))
  return accepted

/-- Whether each matcher accepts each call. What the matchers capture from the accepted ones is kept. -/
def tryCallMatchers (ms : List CallMatcher) (calls : List Call) : Play (List (List Bool)) := do
  let accepted ← ms.mapM fun m => calls.mapM fun c => probe (m.test c)
  (ms.zip accepted).forM fun m =>
    (calls.zip m.2).forM fun c => do
      if c.2 then
        let captures ← probe (m.1.captures c.1)
        operate (Act.modifyStore (·.keep captures))
  return accepted

/-- The matched calls, the targets and the report of a verification that is given its matchers and calls. -/
def tryVerification (r : Request) (ms : List CallMatcher) (calls : List Call) :
    Play (List Nat × List Nat × Report) := do
  let outcome ← probe (Verification.verify r ms calls)
  return (outcome.matched, Verification.targets ms, .of r outcome ms calls)

/-- The results of answering a call several times. -/
def tryAnswer (a : Answer) (c : Call) (underlying : Option (Underlying Memory)) (times : Nat) :
    Play (List (Except MockError Value)) := do
  let makeCall := Act.makeCall ((← get).depth + 1)
  (List.replicate times ()).mapM fun _ => Act.attempt (Act.respond makeCall c underlying a)

/-- The arguments of a call that are given as host values. -/
def hostArguments (n : Int64) (text : String) (words : List String) : List Value :=
  [HostType.long.toValue n, HostType.str.toValue text, (HostType.list .str).toValue words,
    HostType.unit.toValue (), (HostType.option .bool).toValue (some true),
    (HostType.option .bool).toValue none]

end TestDouble.Scenario
