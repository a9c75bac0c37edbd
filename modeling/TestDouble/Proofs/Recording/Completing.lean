import Mathlib.Logic.Equiv.Basic
import TestDouble.Proofs.Recording.Placement
import TestDouble.Proofs.Recording.Recorded
import TestDouble.Proofs.Value.Equality

/-!
# Choices that leave no matcher over

Matchers choose one after another and never take a choice back. If all of them can be placed at all, each may still
take its least free candidate: whoever was to stand there stands in its place instead. Only a list and one of its
elements cannot be exchanged in this way.
-/

namespace TestDouble

/-- There are rounds, and in each of them the address holds the stand-in of this matcher, in a call made after its
registration. -/
def Fits (rounds : List Round) (i : Nat) (a : Address) : Prop :=
  rounds ≠ [] ∧ ∀ r ∈ rounds, ∃ m v, r.matchers[i]? = some m ∧ m.pendingFor ≤ a.call ∧ r.valueAt? a = some v ∧
    (v == m.signature) = true

/-- No list of trailing arguments fits one matcher while an element of it fits another. -/
def Untangled (rounds : List Round) : Prop :=
  ∀ i j c s e, Fits rounds i ⟨c, s, none⟩ → ¬ Fits rounds j ⟨c, s, some e⟩

/-! ## Addresses -/

namespace Address

/-- Overlapping addresses are the same, or one is a list and the other one of its elements. -/
theorem cases_of_overlaps {a b : Address} (h : a.overlaps b = true) :
    a = b ∨ ∃ c s e, a = ⟨c, s, none⟩ ∧ b = ⟨c, s, some e⟩ ∨ a = ⟨c, s, some e⟩ ∧ b = ⟨c, s, none⟩ := by
  obtain ⟨c, s, e⟩ := a
  obtain ⟨c', s', e'⟩ := b
  simp only [overlaps, Bool.and_eq_true, Bool.or_eq_true, beq_iff_eq] at h
  obtain ⟨⟨rfl, rfl⟩, helement⟩ := h
  cases e <;> cases e' <;> grind

theorem Before.call_le {a b : Address} (h : a.Before b) : a.call ≤ b.call := by
  unfold Before at h; omega

end Address

/-! ## Exchanging -/

variable {rounds : List Round} {i j : Nat} {a b : Address}

/-- Where two matchers fit the same address, the one fits wherever the other fits later on. -/
theorem Fits.exchange (hi : Fits rounds i a) (hj : Fits rounds j a) (hlater : Fits rounds j b) (hle : a.call ≤ b.call) :
    Fits rounds i b := by
  refine ⟨hi.1, fun r hr => ?_⟩
  obtain ⟨m, v, hm, hpending, hv, hsame⟩ := hi.2 r hr
  obtain ⟨m', v', hm', -, hv', hsame'⟩ := hj.2 r hr
  obtain ⟨m'', w, hm'', -, hw, hlast⟩ := hlater.2 r hr
  cases hm'.symm.trans hm''
  cases hv.symm.trans hv'
  refine ⟨m, w, hm, Nat.le_trans hpending hle, hw, ?_⟩
  exact PartialEquivBEq.trans hlast (PartialEquivBEq.trans (PartialEquivBEq.symm hsame') hsame)

theorem Untangled.not_overlaps (h : Untangled rounds) (hi : Fits rounds i a) (hj : Fits rounds j b) (hne : a ≠ b) :
    a.overlaps b = false := by
  rw [Bool.eq_false_iff]
  intro hoverlaps
  obtain heq | ⟨c, s, e, ⟨rfl, rfl⟩ | ⟨rfl, rfl⟩⟩ := Address.cases_of_overlaps hoverlaps
  · exact hne heq
  · exact h i j c s e hi hj
  · exact h j i c s e hj hi

/-! ## Stand-ins within stand-ins -/

/-- A list and one of its elements. -/
theorem Round.exists_list_of_valueAt? {r : Round} {c s e : Nat} {v : Value}
    (hv : r.valueAt? ⟨c, s, some e⟩ = some v) : ∃ vs, r.valueAt? ⟨c, s, none⟩ = some (.list vs) ∧ v ∈ vs := by
  obtain ⟨vs, hvs, he⟩ := Option.bind_eq_some_iff.mp hv
  obtain ⟨call, hc, -, hs⟩ := varargItems?_eq_some.mp hvs
  exact ⟨vs, valueAt?_slot.mpr ⟨call, hc, hs⟩, List.mem_of_getElem? he⟩

/-- Nothing is tangled where a round has no stand-in with another one as an element. -/
theorem Untangled.of_signatures {r : Round} (hr : r ∈ rounds) (h : ∀ m ∈ r.matchers, ∀ m' ∈ r.matchers,
    ∀ v ∈ m.signature.elements, (v == m'.signature) = false) : Untangled rounds := by
  intro i j c s e hi hj
  obtain ⟨m, v, hm, -, hv, hsame⟩ := hi.2 r hr
  obtain ⟨m', w, hm', -, hw, hsame'⟩ := hj.2 r hr
  obtain ⟨vs, hvs, hmem⟩ := Round.exists_list_of_valueAt? hw
  cases hvs.symm.trans hv
  obtain ⟨x, hx, hwx⟩ := Value.exists_element_of_beq hsame hmem
  have hdiffer := h m (List.mem_of_getElem? hm) m' (List.mem_of_getElem? hm') x hx
  have hsame : (x == m'.signature) = true := PartialEquivBEq.trans (PartialEquivBEq.symm hwx) hsame'
  rw [hdiffer] at hsame
  cases hsame

namespace Bindings

theorem mem_candidates_iff_fits : a ∈ candidates rounds i ↔ Fits rounds i a := by
  simp only [mem_candidates, Round.mem_possible, Fits]

variable {n : Nat} {done : List Nat} {bound : Bindings} {place : Placement}

/-- A placement of all matchers that goes on from the choices made so far. -/
structure Completes (rounds : List Round) (n : Nat) (place : Placement) (done : List Nat) (bound : Bindings) :
    Prop where
  apart : place.Apart n
  fits : ∀ k < n, Fits rounds k (place k)
  chosen : ∀ p ∈ bound, p.2 ∈ done ∧ place p.2 = p.1

/-- The matcher `i` goes to `a`, and who was to stand there goes to its place. -/
def exchanged (place : Placement) (i : Nat) (a : Address) : Placement := fun k => Equiv.swap a (place i) (place k)

theorem exchanged_self (place : Placement) (i : Nat) (a : Address) : exchanged place i a i = a :=
  Equiv.swap_apply_right _ _

theorem exchanged_displaced {k : Nat} (hk : place k = a) : exchanged place i a k = place i := by
  rw [exchanged, hk, Equiv.swap_apply_left]

theorem exchanged_other {k : Nat} (hk : place k ≠ a) (hi : place k ≠ place i) : exchanged place i a k = place k :=
  Equiv.swap_apply_of_ne_of_ne hk hi

namespace Completes

theorem ne_of_ne (h : Completes rounds n place done bound) {k l : Nat} (hk : k < n) (hl : l < n) (hne : k ≠ l) :
    place k ≠ place l :=
  Address.ne_of_not_overlaps (h.apart k l hk hl hne)

/-- The choices made so far leave a matcher the address that was planned for it. -/
theorem isFree (h : Completes rounds n place done bound) (hdone : ∀ k ∈ done, k < n) (hi : i < n) (hnew : i ∉ done) :
    bound.isFree (place i) = true := by
  refine isFree_iff.mpr fun p hp => ?_
  obtain ⟨hk, hplace⟩ := h.chosen p hp
  rw [← hplace]
  exact h.apart p.2 i (hdone _ hk) hi fun heq => hnew (heq ▸ hk)

/-- A free address where a matcher fits no later than planned can be given to it. -/
theorem exchange (h : Completes rounds n place done bound) (huntangled : Untangled rounds) (hdone : ∀ k ∈ done, k < n)
    (hi : i < n) (hnew : i ∉ done) (ha : Fits rounds i a) (hfree : bound.isFree a = true)
    (hle : a.call ≤ (place i).call) : Completes rounds n (exchanged place i a) (i :: done) ((a, i) :: bound) where
  apart := by
    -- Nobody else overlaps `a`, unless it is to stand exactly there and is displaced.
    have hself : ∀ k < n, k ≠ i → a.overlaps (exchanged place i a k) = false := by
      intro k hk hne
      by_cases hka : place k = a
      · rw [exchanged_displaced hka, ← hka]
        exact h.apart k i hk hi hne
      · rw [exchanged_other hka (h.ne_of_ne hk hi hne)]
        exact huntangled.not_overlaps ha (h.fits k hk) (Ne.symm hka)
    intro k l hk hl hne
    by_cases hki : k = i
    · subst hki
      rw [exchanged_self]
      exact hself l hl (Ne.symm hne)
    by_cases hli : l = i
    · subst hli
      rw [exchanged_self, Address.overlaps_comm]
      exact hself k hk hne
    by_cases hka : place k = a
    · have hla : place l ≠ a := fun heq => h.ne_of_ne hk hl hne (hka.trans heq.symm)
      rw [exchanged_displaced hka, exchanged_other hla (h.ne_of_ne hl hi hli)]
      exact h.apart i l hi hl (Ne.symm hli)
    by_cases hla : place l = a
    · rw [exchanged_displaced hla, exchanged_other hka (h.ne_of_ne hk hi hki)]
      exact h.apart k i hk hi hki
    · rw [exchanged_other hka (h.ne_of_ne hk hi hki), exchanged_other hla (h.ne_of_ne hl hi hli)]
      exact h.apart k l hk hl hne
  fits k hk := by
    by_cases hki : k = i
    · subst hki
      rwa [exchanged_self]
    by_cases hka : place k = a
    · rw [exchanged_displaced hka]
      exact Fits.exchange (hka ▸ h.fits k hk) ha (h.fits i hi) hle
    · rw [exchanged_other hka (h.ne_of_ne hk hi hki)]
      exact h.fits k hk
  chosen p hp := by
    rcases List.mem_cons.mp hp with rfl | hp
    · exact ⟨List.mem_cons_self, exchanged_self place i a⟩
    · obtain ⟨hk, hplace⟩ := h.chosen p hp
      refine ⟨List.mem_cons_of_mem i hk, ?_⟩
      have hne : place p.2 ≠ a := hplace ▸ Address.ne_of_not_overlaps (isFree_iff.mp hfree p hp)
      rw [exchanged_other hne (h.ne_of_ne (hdone _ hk) hi fun heq => hnew (heq ▸ hk)), hplace]

/-- The least free candidate is no later than any other one that is free. -/
theorem exists_find? (h : Completes rounds n place done bound) (hdone : ∀ k ∈ done, k < n)
    (hi : i < n) (hnew : i ∉ done) : ∃ a, (candidates rounds i).find? bound.isFree = some a ∧
      Fits rounds i a ∧ bound.isFree a = true ∧ a.call ≤ (place i).call := by
  have hplanned : place i ∈ candidates rounds i := mem_candidates_iff_fits.mpr (h.fits i hi)
  have hfree := h.isFree hdone hi hnew
  obtain ⟨a, hfind⟩ := Option.isSome_iff_exists.mp (List.find?_isSome.mpr ⟨place i, hplanned, hfree⟩)
  obtain ⟨hfreea, before, after, hsplit, hbefore⟩ := List.find?_eq_some_iff_append.mp hfind
  refine ⟨a, hfind, mem_candidates_iff_fits.mp (List.mem_of_find?_eq_some hfind), hfreea, ?_⟩
  have hsorted := candidates_sorted rounds i
  rw [hsplit] at hplanned hsorted
  rcases List.mem_append.mp hplanned with hmem | hmem
  · have htaken := hbefore _ hmem
    rw [hfree] at htaken
    cases htaken
  · rcases List.mem_cons.mp hmem with heq | hmem
    · exact heq ▸ Nat.le_refl _
    · exact ((List.pairwise_cons.mp (List.pairwise_append.mp hsorted).2.1).1 _ hmem).call_le

/-- A matcher that can still be placed is bound, and the others can still be placed then. -/
theorem choose (h : Completes rounds n place done bound) (huntangled : Untangled rounds)
    (hdone : ∀ k ∈ done, k < n) (hi : i < n) (hnew : i ∉ done) : ∃ place' bound',
      Bindings.choose rounds (bound, []) i = (bound', []) ∧ Completes rounds n place' (i :: done) bound' := by
  obtain ⟨a, hfind, ha, hfree, hle⟩ := h.exists_find? hdone hi hnew
  refine ⟨exchanged place i a, (a, i) :: bound, ?_, h.exchange huntangled hdone hi hnew ha hfree hle⟩
  rw [Bindings.choose, hfind]

theorem foldl_choose (h : Completes rounds n place done bound) (huntangled : Untangled rounds)
    (hdone : ∀ k ∈ done, k < n) {left : List Nat} (hleft : ∀ k ∈ left, k < n) (hnew : (left ++ done).Nodup) :
    ∃ bound', left.foldl (Bindings.choose rounds) (bound, []) = (bound', []) := by
  induction left generalizing place done bound with
  | nil => exact ⟨bound, rfl⟩
  | cons i left ih =>
      obtain ⟨hfresh, hrest⟩ := List.nodup_cons.mp hnew
      have hi : i < n := hleft i List.mem_cons_self
      obtain ⟨place', bound', hchoose, hnext⟩ :=
        h.choose huntangled hdone hi fun hmem => hfresh (List.mem_append_right left hmem)
      rw [List.foldl_cons, hchoose]
      refine ih hnext (List.forall_mem_cons.mpr ⟨hi, hdone⟩) (fun k hk => hleft k (List.mem_cons_of_mem i hk)) ?_
      exact (List.perm_middle.nodup_iff).mpr hnew

end Completes

/-- If all matchers can be placed, none is left over. -/
theorem exists_ofRounds (hapart : ∀ r ∈ rounds, place.Apart r.matchers.length) (hpassed : ∀ r ∈ rounds, place.Passed r)
    (hcount : ∀ r ∈ rounds, ∀ r' ∈ rounds, r.matchers.length = r'.matchers.length) (huntangled : Untangled rounds) :
    ∃ bound, ofRounds rounds = (bound, []) := by
  cases rounds with
  | nil => exact ⟨[], rfl⟩
  | cons first rest =>
      have hfirst : first ∈ first :: rest := List.mem_cons_self
      have hfits : ∀ k < first.matchers.length, Fits (first :: rest) k (place k) := by
        refine fun k hk => ⟨List.cons_ne_nil first rest, fun r hr => ?_⟩
        have hk : k < r.matchers.length := hcount first hfirst r hr ▸ hk
        obtain ⟨hpending, v, hv, hsame⟩ := hpassed r hr k r.matchers[k] (List.getElem?_eq_getElem hk)
        exact ⟨r.matchers[k], v, List.getElem?_eq_getElem hk, hpending, hv, hsame⟩
      have hperm := choiceOrder_perm first.matchers
      have hstart : Completes (first :: rest) first.matchers.length place [] [] :=
        ⟨hapart first hfirst, hfits, fun p hp => absurd hp List.not_mem_nil⟩
      refine hstart.foldl_choose huntangled (fun k hk => absurd hk List.not_mem_nil)
        (fun k hk => List.mem_range.mp (hperm.mem_iff.mp hk)) ?_
      rw [List.append_nil]
      exact hperm.nodup_iff.mpr List.nodup_range

end Bindings

namespace Resolution

/-- A block whose rounds agree is resolved if all of its matchers can be placed. -/
theorem ofRounds_complete {phase : Phase} {place : Placement} (hagree : ∀ r ∈ rounds, ∀ r' ∈ rounds, r.Agrees r')
    (hplace : ∀ r ∈ rounds, place.Apart r.matchers.length ∧ place.Passed r) (huntangled : Untangled rounds) :
    ∃ res, ofRounds rounds phase = .ok res := by
  have hcount : ∀ r ∈ rounds, ∀ r' ∈ rounds, r.matchers.length = r'.matchers.length :=
    fun r hr r' hr' => (hagree r' hr' r hr).length_matchers
  obtain ⟨bound, hbound⟩ := Bindings.exists_ofRounds (fun r hr => (hplace r hr).1) (fun r hr => (hplace r hr).2)
    hcount huntangled
  cases rounds with
  | nil => exact ⟨[], rfl⟩
  | cons first rest =>
      have hfirst : ∀ r ∈ rest, first.Agrees r := fun r hr =>
        hagree first List.mem_cons_self r (List.mem_cons_of_mem first hr)
      exact ⟨_, ofRounds_cons.mpr ⟨hfirst, bound, hbound, rfl⟩⟩

/-- Rounds of a block with two flags that are passed in the other order, and a number among trailing arguments. -/
def crossedRounds : List Round :=
  let method : Method := { name := "m", params := [.bool, .bool, .list .int], returns := .unit, vararg := true }
  let round := fun (index : Nat) (flag : Bool) (n : Int32) =>
    let args : List Value := [.bool flag, .bool flag, .list [.int 1, .int n]]
    ({ index
       calls := [⟨⟨⟨1, "Switch"⟩, method, args, index, none⟩, .unit, false⟩]
       matchers := [⟨.any, .bool flag, false, 0⟩, ⟨.notNull, .bool flag, false, 0⟩, ⟨.any, .int n, true, 0⟩] } : Round)
  [round 0 true 536870912, round 1 false 536870913]

/-- The second flag stands before the first one. -/
def crossedPlacement : Placement
  | 0 => ⟨0, 1, none⟩
  | 1 => ⟨0, 0, none⟩
  | _ => ⟨0, 2, some 1⟩

theorem ofRounds_complete_crossed : (∀ r ∈ crossedRounds, ∀ r' ∈ crossedRounds, r.Agrees r') ∧
    (∀ r ∈ crossedRounds, crossedPlacement.Apart r.matchers.length ∧ crossedPlacement.Passed r) ∧
    Untangled crossedRounds ∧ ∃ res, ofRounds crossedRounds .stubbing = .ok res := by
  have hagree : ∀ r ∈ crossedRounds, ∀ r' ∈ crossedRounds, r.Agrees r' := by decide
  have hplace : ∀ r ∈ crossedRounds, crossedPlacement.Apart r.matchers.length ∧ crossedPlacement.Passed r := by decide
  have huntangled : Untangled crossedRounds := .of_signatures List.mem_cons_self (by decide)
  exact ⟨hagree, hplace, huntangled, ofRounds_complete hagree hplace huntangled⟩

/-- Rounds of a block that passes a flag among trailing arguments, and a list with a flag as a whole. -/
def listedFlags : List Round :=
  let each : Method := { name := "set_each", params := [.list .bool], returns := .unit, vararg := true }
  let all : Method := { name := "set_all", params := [.list .bool], returns := .unit }
  let round := fun (index : Nat) (flag : Bool) =>
    let args : List Value := [.list [.bool flag]]
    ({ index
       calls := [⟨⟨⟨1, "Switch"⟩, each, args, 2 * index, none⟩, .unit, false⟩,
         ⟨⟨⟨1, "Switch"⟩, all, args, 2 * index + 1, none⟩, .unit, false⟩]
       matchers := [⟨.any, .bool flag, false, 0⟩, ⟨.any, .list [.bool flag], true, 0⟩] } : Round)
  [round 0 true, round 1 false]

theorem listedFlags_recorded : ∀ r ∈ listedFlags, r.Recorded := by
  simp only [listedFlags, List.mem_cons, List.not_mem_nil, or_false, forall_eq_or_imp, forall_eq]
  constructor
  · let g : Generator := { entropy := fun _ => 0, round := 0 }
    exact ⟨_, _, .capture (.capture (.register (.register (s := { nextSequence := 0 }) (.start 0 [] _)
      g .any .bool) g .any (.list .bool)) { g with issued := [.list [.bool true]] } ⟨1, "Switch"⟩ _ _ none)
      { g with issued := [.list [.bool true]] } ⟨1, "Switch"⟩ _ _ none, rfl⟩
  · let g : Generator := { entropy := fun _ => 0, round := 1 }
    exact ⟨_, _, .capture (.capture (.register (.register (s := { nextSequence := 2 }) (.start 1 [] _)
      g .any .bool) g .any (.list .bool)) { g with issued := [.list [.bool false]] } ⟨1, "Switch"⟩ _ _ none)
      { g with issued := [.list [.bool false]] } ⟨1, "Switch"⟩ _ _ none, rfl⟩

/-- The list takes the trailing arguments, as they are what it stands for too, and leaves none for the flag. -/
theorem ofRounds_complete_listedFlags : (∀ r ∈ listedFlags, r.Recorded) ∧
    (∀ r ∈ listedFlags, ∀ r' ∈ listedFlags, r.Agrees r') ∧
    (∃ place : Placement, ∀ r ∈ listedFlags, place.Apart r.matchers.length ∧ place.Passed r) ∧
    ofRounds listedFlags .stubbing = .error (.unresolvedMatcher ["any()"]) :=
  ⟨listedFlags_recorded, by decide, ⟨fun | 0 => ⟨0, 0, some 0⟩ | _ => ⟨1, 0, none⟩, by decide⟩, rfl⟩

end Resolution

end TestDouble
