import Mathlib.Data.Nat.Find
import TestDouble.Proofs.Recording.Placement
import TestDouble.Proofs.Recording.Recorded

/-!
# What becomes of every matcher

A matcher that is bound has its place among the resolved arguments, unless it was passed among trailing
arguments together with a wildcard: the first wildcard stands for all of them, and the others are gone.
-/

namespace TestDouble

namespace Round

/-- A wildcard belongs there. -/
def HasWildcard (r : Round) (place : Placement) (a : Address) : Prop :=
  ∃ k w, r.matchers[k]? = some w ∧ place k = a ∧ w.matcher.isVarargWildcard = true

/-- Wildcard `j` is the first of those among the trailing arguments to which matcher `i` belongs. -/
structure Absorbs (r : Round) (place : Placement) (j i : Nat) : Prop where
  call : (place j).call = (place i).call
  slot : (place j).slot = (place i).slot
  beside : (place i).element.isSome = true
  wildcard : ∃ w, r.matchers[j]? = some w ∧ w.matcher.isVarargWildcard = true
  first : ∃ e, (place j).element = some e ∧
    ∀ e' < e, ¬ r.HasWildcard place ⟨(place j).call, (place j).slot, some e'⟩

variable {r : Round} {place : Placement} {i : Nat}

/-- Where a wildcard belongs to a list of trailing arguments, one of them is the first. -/
theorem exists_absorbs {e : Nat} (hi : (place i).element.isSome = true)
    (h : r.HasWildcard place ⟨(place i).call, (place i).slot, some e⟩) : ∃ j, r.Absorbs place j i := by
  classical
  have hex : ∃ e, r.HasWildcard place ⟨(place i).call, (place i).slot, some e⟩ := ⟨e, h⟩
  obtain ⟨j, w, hw, hp, hwild⟩ := Nat.find_spec hex
  refine ⟨j, by rw [hp], by rw [hp], hi, ⟨w, hw, hwild⟩, Nat.find hex, by rw [hp], fun e' hlt => ?_⟩
  rw [hp]
  exact Nat.find_min hex hlt

/-- No matcher has the list as a whole where another one has an element of it. -/
theorem ne_whole_of_apart (hapart : place.Apart r.matchers.length) (hi : i < r.matchers.length) {k : Nat}
    (hk : k < r.matchers.length) (helement : (place i).element.isSome = true) :
    place k ≠ ⟨(place i).call, (place i).slot, none⟩ := by
  intro hp
  have hne : k ≠ i := by
    rintro rfl
    rw [hp] at helement
    cases helement
  have hover := hapart k i hk hi hne
  simp [hp, Address.overlaps] at hover

end Round

namespace Resolution

/-- The matcher is the one for the whole argument, or for one of the trailing arguments. -/
def OccursAt (res : Resolution) (a : Address) (m : Matcher) : Prop :=
  match a.element with
  | none => res.argAt? a.call a.slot = some m
  | some e => ∃ ms, res.argAt? a.call a.slot = some (.varargs ms) ∧ ms[e]? = some m

variable {rounds : List Round} {phase : Phase} {res : Resolution} {last : Round} {place : Placement} {i j : Nat}
  {m : RegisteredMatcher}

/-- The first wildcard stands for all trailing arguments. -/
theorem Follows.absorbed (h : res.Follows last place) (hapart : place.Apart last.matchers.length)
    (hi : i < last.matchers.length) (ha : last.Absorbs place j i) :
    ∃ w, last.matchers[j]? = some w ∧ w.matcher.isVarargWildcard = true ∧
      res.argAt? (place i).call (place i).slot = some w.matcher := by
  obtain ⟨hcall, hslot, helement, ⟨w, hw, hwild⟩, e, he, hfirst⟩ := ha
  refine ⟨w, hw, hwild, ?_⟩
  rw [← hcall, ← hslot]
  refine h.wildcard j w _ _ e hw (by rw [← he]) hwild (fun k hk => ?_) fun k m e' hm hk hlt => ?_
  · rw [hcall, hslot]
    exact Round.ne_whole_of_apart hapart hi hk helement
  · exact Bool.eq_false_iff.mpr fun hwild => hfirst e' hlt ⟨k, m, hm, hk, hwild⟩

theorem Follows.occursAt (h : res.Follows last place) (hapart : place.Apart last.matchers.length)
    (hpassed : place.Passed last) (hm : last.matchers[i]? = some m) (hfree : ∀ j, ¬ last.Absorbs place j i) :
    res.OccursAt (place i) m.matcher := by
  cases he : (place i).element with
  | none =>
      rw [OccursAt, he]
      exact h.whole i m _ _ hm (by rw [← he])
  | some e =>
      have hi : i < last.matchers.length := (List.getElem?_eq_some_iff.mp hm).1
      have helement : (place i).element.isSome = true := by rw [he]; rfl
      obtain ⟨-, v, hv, -⟩ := hpassed i m hm
      rw [Round.valueAt?, he] at hv
      obtain ⟨items, hitems, -⟩ := Option.bind_eq_some_iff.mp hv
      have hplain : ∀ k w e', last.matchers[k]? = some w → place k = ⟨(place i).call, (place i).slot, some e'⟩ →
          w.matcher.isVarargWildcard = false := by
        refine fun k w e' hw hp => Bool.eq_false_iff.mpr fun hwild => ?_
        obtain ⟨j, hj⟩ := Round.exists_absorbs helement ⟨k, w, hw, hp, hwild⟩
        exact hfree j hj
      obtain ⟨ms, hms, -, hbound, -⟩ := h.trailing _ _ items hitems
        (fun k hk => Round.ne_whole_of_apart hapart hi hk helement) hplain
      rw [OccursAt, he]
      exact ⟨ms, hms, hbound i m e hm (by rw [← he])⟩

/-- Every matcher of a resolved block has an address of its own, where its stand-in was passed in every round.
There the resolved arguments have the matcher itself, or, among trailing arguments with a wildcard, the first
wildcard for all of them. -/
theorem ofRounds_keeps (h : ofRounds rounds phase = .ok res) (hlast : rounds.getLast? = some last) :
    ∃ place : Placement, place.Apart last.matchers.length ∧
      (∀ r ∈ rounds, r.matchers.length = last.matchers.length ∧ place.Passed r) ∧
      ∀ i m, last.matchers[i]? = some m →
        ((∀ j, ¬ last.Absorbs place j i) → res.OccursAt (place i) m.matcher) ∧
        ∀ j, last.Absorbs place j i → ∃ w, last.matchers[j]? = some w ∧ w.matcher.isVarargWildcard = true ∧
          res.argAt? (place i).call (place i).slot = some w.matcher := by
  obtain ⟨-, place, -, hapart, hpassed, hfollows⟩ := exists_placed h hlast
  refine ⟨place, hapart, hpassed, fun i m hm => ⟨?_, fun j hj => ?_⟩⟩
  · exact hfollows.occursAt hapart (hpassed last (List.mem_of_getLast? hlast)).2 hm
  · exact hfollows.absorbed hapart (List.getElem?_eq_some_iff.mp hm).1 hj

theorem ofRounds_keeps_mixed : ∃ res last, ofRounds mixedRounds .stubbing = .ok res ∧
    mixedRounds.getLast? = some last ∧ ∃ place : Placement, place.Apart last.matchers.length ∧
      (∀ r ∈ mixedRounds, place.Passed r) ∧
      ∀ i m, last.matchers[i]? = some m → res.OccursAt (place i) m.matcher := by
  obtain ⟨res, hres⟩ : ∃ res, ofRounds mixedRounds .stubbing = .ok res := ⟨_, rfl⟩
  obtain ⟨last, hlast⟩ : ∃ last, mixedRounds.getLast? = some last := ⟨_, rfl⟩
  have hplain : ∀ r ∈ mixedRounds, ∀ m ∈ r.matchers, m.matcher.isVarargWildcard = false := by decide
  obtain ⟨place, hapart, hpassed, hkept⟩ := ofRounds_keeps hres hlast
  refine ⟨res, last, hres, hlast, place, hapart, fun r hr => (hpassed r hr).2, fun i m hm => ?_⟩
  refine (hkept i m hm).1 fun j hj => ?_
  obtain ⟨w, hw, hwild⟩ := hj.wildcard
  rw [hplain last (List.mem_of_getLast? hlast) w (List.mem_of_getElem? hw)] at hwild
  cases hwild

/-- A block that passes a matcher and a wildcard in one list of trailing arguments. -/
def summedRest : List Round :=
  let sum : Method := { name := "sum", params := [.list .int], returns := .unit, vararg := true }
  let round := fun (index : Nat) (n rest : Int32) =>
    ({ index
       calls := [⟨⟨⟨1, "Summer"⟩, sum, [.list [.int n, .int rest]], index, none⟩, .unit, false⟩]
       matchers := [⟨.eq (.int 7), .int n, true, 0⟩, ⟨.varargAny, .int rest, true, 0⟩] } : Round)
  [round 0 536870912 536870914, round 1 536870916 536870918]

theorem summedRest_recorded : ∀ r ∈ summedRest, r.Recorded := by
  simp only [summedRest, List.mem_cons, List.not_mem_nil, or_false, forall_eq_or_imp, forall_eq]
  constructor
  · exact ⟨_, _, .capture (.register (.register (s := { nextSequence := 0 }) (.start 0 [] _)
      { entropy := fun _ => 0 } (.eq (.int 7)) .int) { entropy := fun _ => 2 } .varargAny .int)
      { entropy := fun _ => 0 } ⟨1, "Summer"⟩ _ _ none, rfl⟩
  · exact ⟨_, _, .capture (.register (.register (s := {}) (.start 1 [] _)
      { entropy := fun _ => 4 } (.eq (.int 7)) .int) { entropy := fun _ => 6 } .varargAny .int)
      { entropy := fun _ => 0 } ⟨1, "Summer"⟩ _ _ none, rfl⟩

theorem mem_of_argAt? {c s : Nat} {m : Matcher} (h : res.argAt? c s = some m) :
    m ∈ res.flatMap (·.matcher.args) := by
  obtain ⟨call, hcall, hm⟩ := Option.bind_eq_some_iff.mp h
  exact List.mem_flatMap.mpr ⟨call, List.mem_of_getElem? hcall, List.mem_of_getElem? hm⟩

/-- Nothing of the other matcher is left. -/
theorem ofRounds_keeps_summedRest : (∀ r ∈ summedRest, r.Recorded) ∧
    ∃ res last m, ofRounds summedRest .stubbing = .ok res ∧ summedRest.getLast? = some last ∧ m ∈ last.matchers ∧
      m.matcher = .eq (.int 7) ∧ res.map (·.matcher.args) = [[.varargAny]] ∧ ∀ a, ¬ res.OccursAt a m.matcher := by
  refine ⟨summedRest_recorded, _, _, ⟨.eq (.int 7), _, true, 0⟩, rfl, rfl, List.mem_cons_self, rfl, rfl, fun a h => ?_⟩
  rw [OccursAt] at h
  split at h
  · cases List.mem_singleton.mp (mem_of_argAt? h)
  · obtain ⟨ms, hms, -⟩ := h
    cases List.mem_singleton.mp (mem_of_argAt? hms)

end Resolution

end TestDouble
