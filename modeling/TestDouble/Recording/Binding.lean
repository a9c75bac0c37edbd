import TestDouble.Recording.Round

/-!
# Binding matchers to arguments

In each round a matcher can only belong where its stand-in value was passed, in a call made after it was
registered. The positions that qualify in every round are its candidates. Matchers whose stand-ins can be
told apart choose first, each the least candidate that overlaps no earlier choice.
-/

namespace TestDouble

/-- An argument of a call, or an element of the list in its vararg slot. -/
structure Address where
  call : Nat
  slot : Nat
  element : Option Nat
  deriving DecidableEq, Repr

namespace Address

/-- A whole list overlaps its elements. -/
def overlaps (a b : Address) : Bool :=
  a.call == b.call && a.slot == b.slot
    && (a.element.isNone || b.element.isNone || a.element == b.element)

end Address

namespace Round

/-- The addresses of one argument, with what is there. -/
def slotAddresses (call : Nat) (varargSlot : Option Nat) (arg : Value × Nat) : List (Address × Value) :=
  let elements := match arg.1 with
    | .list items =>
      if varargSlot = some arg.2 then
        items.zipIdx.map fun item => (⟨call, arg.2, some item.2⟩, item.1)
      else []
    | _ => []
  (⟨call, arg.2, none⟩, arg.1) :: elements

/-- All addresses of the round in increasing order, with what is there. -/
def addresses (r : Round) : List (Address × Value) :=
  r.calls.zipIdx.flatMap fun c =>
    c.1.call.args.zipIdx.flatMap (slotAddresses c.2 c.1.call.method.varargSlot?)

/-- Where a matcher can belong, as far as this round tells. -/
def possible (r : Round) (matcher : Nat) : List Address :=
  match r.matchers[matcher]? with
  | none => []
  | some m =>
    (r.addresses.filter fun a => m.pendingFor ≤ a.1.call && a.2 == m.signature).map (·.1)

end Round

/-- The choices made so far: an address and the position of its matcher. -/
abbrev Bindings := List (Address × Nat)

namespace Bindings

def matcherAt? (b : Bindings) (a : Address) : Option Nat := b.lookup a

def isFree (b : Bindings) (a : Address) : Bool := b.all fun taken => !taken.1.overlaps a

/-- The addresses that are possible in every round. -/
def candidates (rounds : List Round) (matcher : Nat) : List Address :=
  match rounds with
  | [] => []
  | first :: rest =>
    (first.possible matcher).filter fun a => rest.all fun r => (r.possible matcher).contains a

/-- Matchers whose stand-ins can be told apart come first. -/
def choiceOrder (matchers : List RegisteredMatcher) : List Nat :=
  let positions := matchers.zipIdx
  ((positions.filter (·.1.distinguishable)) ++ (positions.filter (!·.1.distinguishable))).map (·.2)

/-- Bind one matcher, or note that it has no address left. -/
def choose (rounds : List Round) (state : Bindings × List Nat) (matcher : Nat) : Bindings × List Nat :=
  match (candidates rounds matcher).find? state.1.isFree with
  | some a => ((a, matcher) :: state.1, state.2)
  | none => (state.1, matcher :: state.2)

/-- All bindings, and the matchers without one. -/
def ofRounds (rounds : List Round) : Bindings × List Nat :=
  (choiceOrder ((rounds.head?.map (·.matchers)).getD [])).foldl (choose rounds) ([], [])

end Bindings

end TestDouble
