import TestDouble.Scenario.Operation

/-!
# Steps

A scenario is a list of steps. Besides operations these are calls, whose implementations are lists of steps,
and statements about a block of steps. `Step.play` plays one step, `playBlock` a list up to its first
failure, and `playAll` a whole scenario.
-/

namespace TestDouble.Scenario

/-- What all kinds of steps have in common. -/
structure Label where
  session : String := "main"
  /-- The variable that takes the value of the step. -/
  name : Option String := none
  /-- A failure of the step is a result. -/
  guarded : Bool := false

/-- How the result of a call is read. -/
inductive Reading where
  | value
  | typed (t : HostType)
  | object (className : String)

/-- What an implementation gives after its steps. -/
inductive Ending where
  | value (t : Term)
  | fail (f : FailureTerm)

inductive Step where
  | operation (l : Label) (o : Operation)
  /-- A call, with the steps and the ending of the implementation behind it, if there is one. -/
  | call (l : Label) (target : Term) (method : Method) (args : List Term) (reading : Reading)
      (body : List Step) (ending : Option Ending)
  /-- What the kind of a mock gives for a call. -/
  | fallback (l : Label) (mock : Term) (c : CallTerm) (body : List Step) (ending : Option Ending)
  /-- Play the first list in the passes of these numbers, counted from one, else the second. -/
  | ifPass (l : Label) (passes : List Nat) (body otherwise : List Step)
  | runBlock (l : Label) (traced : Bool) (block : List Step)
  /-- Steps may be played before the answer is given; with no answer, the statement is given up. -/
  | every (l : Label) (traced : Bool) (block meanwhile : List Step) (answer : Option AnswerTerm)
  | verify (l : Label) (traced : Bool) (block : List Step) (request : List RequestTerm)
      (document : Bool)
  | exclude (l : Label) (traced : Bool) (block : List Step)

namespace Step

def label : Step → Label
  | operation l _ => l
  | call l .. => l
  | fallback l .. => l
  | ifPass l .. => l
  | runBlock l .. => l
  | every l .. => l
  | verify l .. => l
  | exclude l .. => l

end Step

/-! ## Results -/

/-- The results of some steps, and the failure that ended them early. -/
abbrev Played := List Result × Option Failure

/-- What a list of steps shows: a failure comes last. -/
def Played.shown (p : Played) : List Result := p.1 ++ (p.2.map Result.failed).toList

def orThrow (p : Played) : Play (List Result) :=
  match p with
  | (rs, none) => return rs
  | (_, some f) => throw f

/-- Keep the value of a step under its name, and turn a failure into a result if the label says so. Only the
stand-ins known by then are masked in the result. -/
def Label.apply (l : Label) (x : Play Result) : Play Result := do
  match ← Act.attempt x with
  | .ok r =>
    if let (some name, some v) := (l.name, r.value?) then assign name v
    return .knowing (← memory).issued.length r
  | .error f => if l.guarded then return .caught f else throw f

/-! ## Blocks -/

/-- The number of the pass that the innermost running block is in. -/
def passNumber : Play Nat := return ((← memory).running.head?.map (·.pass)).getD 0

/-- One pass of the block of the innermost statement in progress. -/
def playPass (session : Nat) (block : Play Played) : Play Unit := do
  let pass := ((← memory).passes.head?.getD []).length + 1
  modifyMemory fun m => { m with running := ⟨session, pass⟩ :: m.running }
  let played ← block
  modifyMemory fun m =>
    { m with
      running := m.running.tail
      passes := m.passes.modifyHead (· ++ [played.shown]) }
  discard (orThrow played)

/-- A statement that fails outside all blocks has its failure as its result. -/
def playStatement (traced : Bool) (x : Play Result) : Play Result := do
  modifyMemory fun m => { m with passes := [] :: m.passes }
  let outcome ← Act.attempt x
  let passes := (← memory).passes.head?.getD []
  modifyMemory fun m => { m with passes := m.passes.tail }
  let trace := if traced then some passes else none
  match outcome with
  | .ok r => return .statement r passes.length trace
  | .error f =>
    if (← memory).running.isEmpty then return .statement (.failed f) passes.length trace else throw f

/-! ## Implementations -/

def Ending.eval : Ending → Play Value
  | .value t => t.eval
  | .fail f => do throw (← f.eval)

/-- The variables of an implementation: all arguments in a list, and each under its number. -/
def argumentVariables (args : List Value) : List (String × Value) :=
  ("args", .list args) :: args.zipIdx.map fun a => ("arg" ++ toString a.2, a.1)

/-- An implementation that plays steps. Afterwards all variables are as they were before. -/
def playUnderlying (body : Play Played) (ending : Ending) : Underlying Memory := fun args => do
  let bindings := (← memory).bindings
  (argumentVariables args).forM fun v => assign v.1 v.2
  let outcome ← Act.attempt do
    let _ ← orThrow (← body)
    ending.eval
  modifyMemory fun m => { m with bindings }
  Act.ofExcept outcome

def Reading.call (r : Reading) (i : Nat) (target : ObjectRef) (method : Method) (args : List Value)
    (underlying : Option (Underlying Memory)) : Play Value :=
  match r with
  | .value => operate (Act.intercept i target method args underlying)
  | .typed t => return t.toValue (← operate (Act.callTyped i t target method args underlying))
  | .object className => return .object (← operate (Act.callObject i target method args className))

/-! ## Playing -/

mutual
def Step.play : Step → Play Result
  | .operation l o => l.apply do o.play (← sessionNamed l.session)
  | .call l target method args reading body ending => l.apply do
    let i ← sessionNamed l.session
    let target ← target.evalObject
    let args ← Term.evalEach args
    let recording ← isRecording i
    let v ← reading.call i target method args (ending.map (playUnderlying (playBlock body)))
    if recording then issue v
    return .value v
  | .fallback l mock c body ending => l.apply do
    let (stub, c) ← mock.evalStubWith c.eval
    let underlying := ending.map (playUnderlying (playBlock body))
    return .value (← operate (Act.fallback stub c underlying))
  | .ifPass l passes body otherwise => l.apply do
    if passes.contains (← passNumber) then return .results (← orThrow (← playBlock body))
    else return .results (← orThrow (← playBlock otherwise))
  | .runBlock l traced block => l.apply do
    let i ← sessionNamed l.session
    playStatement traced do
      operate (Act.runRecordedBlock i (playPass i (playBlock block)))
      return .nothing
  | .every l traced block meanwhile answer => l.apply do
    let i ← sessionNamed l.session
    playStatement traced do
      let pending ← operate (Act.every i (playPass i (playBlock block)))
      let results ← playEach meanwhile
      match answer with
      | none => operate (Act.abandon pending)
      | some answer => do operate (Act.finish pending (← answer.eval))
      return .results results
  | .verify l traced block request document => l.apply do
    let i ← sessionNamed l.session
    let request ← RequestTerm.evalAll request
    playStatement traced do
      return .report (← operate (Act.verify i request (playPass i (playBlock block)))) document
  | .exclude l traced block => l.apply do
    let i ← sessionNamed l.session
    playStatement traced do
      return .count (← operate (Act.excludeRecords i (playPass i (playBlock block))))

/-- Up to the first failure. -/
def playBlock : List Step → Play Played
  | [] => return ([], none)
  | s :: ss => do
    match ← Act.attempt s.play with
    | .error f => return ([], some f)
    | .ok r => do
      let (rs, f) ← playBlock ss
      return (r :: rs, f)

/-- All steps, whether they fail or not. -/
def playEach : List Step → Play (List Result)
  | [] => return []
  | s :: ss => do
    let r ← Act.attempt s.play
    let rs ← playEach ss
    match r with
    | .error f => return .failed f :: rs
    | .ok r => return r :: rs
end

/-- Play a scenario; every step gives its outcome, and the phase of its session afterwards. -/
def playAll : List Step → Play (List (Except Failure Result × Phase))
  | [] => return []
  | s :: ss => do
    let outcome ← Act.attempt s.play
    let i ← sessionNamed s.label.session
    let phase := (← operate (Act.session i)).phase
    return (outcome, phase) :: (← playAll ss)

end TestDouble.Scenario
