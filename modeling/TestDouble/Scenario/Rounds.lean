import TestDouble.Scenario.Term

/-!
# Playing rounds

Rounds outside a statement: the first session records them, and what they give is looked at directly.
-/

namespace TestDouble.Scenario

inductive RoundStep where
  | register (m : MatcherTerm) (s : Shape) (name : Option String)
  | call (c : CallTerm) (name : Option String)

/-- The stand-in that a step is given may be kept in a variable. -/
def RoundStep.play (step : RoundStep) : Play Unit := do
  let (v, name) ← match step with
    | .register m s name => do
      let m ← m.eval
      pure (← operate (Act.registerMatcher 0 m s), name)
    | .call c name => do
      let (target, _, args) ← c.evalParts
      pure (← operate (Act.intercept 0 target c.method args none), name)
  issue v
  if let some name := name then assign name v

def playRound (index : Nat) (hints : Hints) (steps : List RoundStep) : Play Round := do
  operate (Act.startRound 0 index hints)
  steps.forM RoundStep.play
  let round := (← operate (Act.session 0)).round
  operate (Act.modifySession 0 fun s => { s with round := none })
  return (round.map (·.round)).getD {}

/-- Play rounds, given by their numbers and steps. -/
def playRounds (hints : Hints) : List (Nat × List RoundStep) → Play (List Round)
  | [] => return []
  | (index, steps) :: rest => do
    let round ← playRound index hints steps
    return round :: (← playRounds hints rest)

/-- One pass of a block under hints. -/
structure PassTerm where
  /-- A new round starts with this pass. -/
  starts : Bool
  steps : List RoundStep
  /-- How the block fails after its steps. -/
  failure : Option FailureTerm

/-- The round that a pass gave, the hints it ran under, and what became of it. -/
structure Pass where
  round : Round
  hints : Hints
  review : Except MockError Review
  revised : Hints

/-- Play passes, the first of which has this number. -/
def playPasses (h : Hinting) (index : Nat) : List PassTerm → Play (List Pass)
  | [] => return []
  | p :: ps => do
    let h := if p.starts then h.startRound else h
    let round ← playRound index h.hints p.steps
    let outcome ← match p.failure with
      | none => pure (.ok ())
      | some f => pure (.error (← f.eval))
    let (review, revised) := h.review outcome round
    return ⟨round, h.hints, review, revised.hints⟩ :: (← playPasses revised (index + 1) ps)

/-! ## Drawing -/

/-- Whether a drawn value is one that the round may draw, fits its shape, and is new in its round. -/
structure Drawn where
  inBand : Bool
  accepted : Bool
  fresh : Bool

/-- Draw a value for every shape; a shape that is not known has none. -/
def drawEach (seen : List Value) : List Shape → Drawing (List (Option Drawn))
  | [] => return []
  | s :: ss => do
    let round := (← get).1.round
    match ← Generator.signature? s with
    | none => return none :: (← drawEach seen ss)
    | some v =>
      let drawn := ⟨Generator.inBand round s v, s.accepts v, !seen.contains v⟩
      return some drawn :: (← drawEach (v :: seen) ss)

/-- What one round draws for these shapes, and the stand-ins for unknown ones. -/
def drawRound (shapes : List Shape) (round : Nat) : Drawing (List (Option Drawn) × Value × Value) := do
  modify fun (g, nextObject) => (g.startRound round, nextObject)
  let drawn ← drawEach [] shapes
  let placeholder ← Generator.placeholder
  return (drawn, placeholder, ← Generator.signatureObject)

/-- Draw in the rounds of these numbers. -/
def drawRounds (shapes : List Shape) (rounds : List Nat) :
    Play (List (List (Option Drawn) × Value × Value)) := do
  let w ← get
  let (drawn, _, store) :=
    OpenRound.drawing (w.session 0).generator w.store (rounds.mapM (drawRound shapes))
  operate (Act.modifyStore fun _ => store)
  return drawn

end TestDouble.Scenario
