import TestDouble.Session.Basic

/-!
# Chains

The link objects of a recorded chain stand for child mocks. A link is replaced, in all later calls, by the
child that the stub of its target answers with.
-/

namespace TestDouble

/-- Link objects and the children that stand for them, the earliest first. -/
abbrev Links := List (Nat × ObjectRef)

namespace Links

def apply (links : Links) (m : CallMatcher) : CallMatcher :=
  links.foldl (fun m l => m.replaceObject l.1 l.2) m

end Links

namespace ResolvedCall

/-- The object that a link of a chain returned. -/
def linkObject? (c : ResolvedCall) : Option ObjectRef :=
  if c.intermediate then c.returned.object? else none

end ResolvedCall

namespace Resolution

/-- Replace links by existing children. Also gives the link objects that no child stands for. -/
def linked (r : Registry) (links : Links) : Resolution → Resolution × List Nat
  | [] => ([], [])
  | c :: cs =>
    let c := { c with matcher := links.apply c.matcher }
    match c.linkObject? with
    | none =>
      let (cs, detached) := linked r links cs
      (c :: cs, detached)
    | some object =>
      match (r.stub? c.matcher.target.id).bind (·.chainChild? c.matcher) with
      | some child =>
        let (cs, detached) := linked r (links ++ [(object.id, child)]) cs
        (c :: cs, detached)
      | none =>
        let (cs, detached) := linked r links cs
        (c :: cs, object.id :: detached)

end Resolution

namespace Act

variable {σ : Type}

/-- The child mock for a link: an existing one, else a new one that the target answers with. -/
def linkChild (stub : Stub) (m : CallMatcher) (object : ObjectRef) : Act σ MockError ObjectRef :=
  match stub.chainChild? m with
  | some child => return child
  | none => do
    let child ← onStore (·.createChild stub object.className)
    modifyStore (·.modify stub.id (·.addAnswer m (.constant (.object child))))
    return child

/-- Calls that are no links get the answer, links get child mocks. -/
def install (answer : Answer) (links : Links) : Resolution → Act σ MockError Unit
  | [] => return
  | c :: cs => do
    let m := links.apply c.matcher
    let target ← stub m.target.id
    if !c.intermediate then
      modifyStore (·.modify target.id (·.addAnswer m answer))
      install answer links cs
    else
      match c.returned.object? with
      | none => install answer links cs
      | some object =>
        let child ← linkChild target m object
        install answer (links ++ [(object.id, child)]) cs

end Act

end TestDouble
