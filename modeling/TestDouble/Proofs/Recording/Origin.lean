import Mathlib.Data.Fintype.EquivFin
import TestDouble.Proofs.Recording.Correlation

/-!
# Where literals come from

An argument to which no matcher is bound becomes a literal, with the value that the last round passed. Whether
the earlier rounds passed it too depends on where the block took it from.
-/

namespace TestDouble

/-! ## Origins -/

section

variable (rounds : List Round) (a : Address)

/-- The block passed this very value in every round. -/
def Written (v : Value) : Prop := ∀ r ∈ rounds, r.valueAt? a = some v

/-- The block passed the stand-in of a matcher, whatever it was. -/
def StandsIn (i : Nat) : Prop :=
  ∀ r ∈ rounds, ∃ m, r.matchers[i]? = some m ∧ r.valueAt? a = some m.signature

/-- The block passed on the result of a call, whatever it was. -/
def PassedOn (j : Nat) : Prop := ∀ r ∈ rounds, ∃ c, r.calls[j]? = some c ∧ r.valueAt? a = some c.returned

end

/-- A block that uses every stand-in once and passes on no results but objects, in rounds that tell the stand-ins
from everything else. -/
structure UsesOnce (rounds : List Round) : Prop where
  origin : ∀ r ∈ rounds, ∀ a v, r.valueAt? a = some v → (a.element = none → r.varargItems? a.call a.slot = none) →
    Written rounds a v ∨ (∃ i, StandsIn rounds a i) ∨
      ∃ j, PassedOn rounds a j ∧ ∀ r ∈ rounds, ∀ c, r.calls[j]? = some c → ∃ x, c.returned = .object x
  once : ∀ (a b : Address) (i : Nat), StandsIn rounds a i → StandsIn rounds b i → a = b
  told : ∀ (a : Address) (i : Nat), (∀ r ∈ rounds, ∃ m v, r.matchers[i]? = some m ∧ r.valueAt? a = some v ∧
    (v == m.signature) = true) → ∃ k, StandsIn rounds a k

/-! ## Literals -/

namespace Round

variable {r : Round} {b : Bindings} {a : Address} {v : Value}

end Round

namespace Resolution

variable {rounds : List Round} {phase : Phase} {res : Resolution} {last : Round}

/-- Every matcher of a resolved block is bound, to an address where its stand-in was passed in every round. -/
theorem exists_bound (h : ofRounds rounds phase = .ok res) (hlast : rounds.getLast? = some last) :
    res = last.resolved (Bindings.ofRounds rounds).1 ∧ ∀ i < last.matchers.length, ∃ a,
      (Bindings.ofRounds rounds).1.matcherAt? a = some i ∧ ∀ r ∈ rounds, ∃ m v, r.matchers[i]? = some m ∧
        r.valueAt? a = some v ∧ (v == m.signature) = true := by
  obtain ⟨hres, place, hputs, -, hpassed, -⟩ := exists_placed h hlast
  refine ⟨hres, fun i hi => ⟨place i, (hputs _ i).mpr ⟨hi, rfl⟩, fun r hr => ?_⟩⟩
  have hm := List.getElem?_eq_getElem ((hpassed r hr).1.symm ▸ hi)
  obtain ⟨-, v, hv, hs⟩ := (hpassed r hr).2 i _ hm
  exact ⟨_, v, hm, hv, hs⟩

/-- Where a stand-in was passed that is used once, its matcher is bound: there are as many bound addresses as
stand-ins, and each of them holds one. -/
theorem UsesOnce.bound (hu : UsesOnce rounds) (h : ofRounds rounds phase = .ok res)
    (hlast : rounds.getLast? = some last) {a : Address} {k : Nat} (ha : StandsIn rounds a k) :
    ∃ i, (Bindings.ofRounds rounds).1.matcherAt? a = some i := by
  obtain ⟨-, hbound⟩ := exists_bound h hlast
  have hmem : last ∈ rounds := List.mem_of_getLast? hlast
  have hlt : ∀ {a k}, StandsIn rounds a k → k < last.matchers.length := fun hs => by
    obtain ⟨m, hm, -⟩ := hs last hmem
    exact (List.getElem?_eq_some_iff.mp hm).1
  choose place hplace hpassed using fun i : Fin last.matchers.length => hbound i i.isLt
  have hstands : ∀ i : Fin last.matchers.length, ∃ k, StandsIn rounds (place i) k := fun i =>
    hu.told (place i) i (hpassed i)
  choose stands hstands using hstands
  have hinj : Function.Injective fun i => (⟨stands i, hlt (hstands i)⟩ : Fin last.matchers.length) := by
    intro i j hij
    have hsame : place i = place j := hu.once _ _ (stands i) (hstands i) (by
      rw [Fin.mk.injEq] at hij
      rw [hij]
      exact hstands j)
    have hi := hplace i
    rw [hsame, hplace j, Option.some.injEq] at hi
    exact Fin.ext hi.symm
  obtain ⟨i, hi⟩ := Finite.injective_iff_surjective.mp hinj ⟨k, hlt ha⟩
  rw [Fin.mk.injEq] at hi
  have hsame : place i = a := hu.once _ _ k (hi ▸ hstands i) ha
  exact ⟨i, hsame ▸ hplace i⟩

end Resolution

end TestDouble
