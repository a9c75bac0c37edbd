import Mathlib.Data.List.Nodup
import Mathlib.Data.List.Pairwise
import Mathlib.Tactic.Choose
import TestDouble.Proofs.Recording.Address

/-!
# Choosing addresses

Matchers are bound one after another, each to the least free candidate. `Bindings.Chosen` is what every step
of this choice keeps.
-/

namespace TestDouble

/-- An address for every registered matcher, by its position. -/
abbrev Placement := Nat → Address

namespace Placement

/-- No two of the first `n` matchers share an address, and none stands inside the list of another. -/
def Apart (place : Placement) (n : Nat) : Prop :=
  ∀ i j, i < n → j < n → i ≠ j → (place i).overlaps (place j) = false

/-- Every matcher of the round has its stand-in at its address, in a call made after its registration. -/
def Passed (place : Placement) (r : Round) : Prop :=
  ∀ i m, r.matchers[i]? = some m →
    m.pendingFor ≤ (place i).call ∧ ∃ v, r.valueAt? (place i) = some v ∧ v == m.signature

instance (place : Placement) (n : Nat) : Decidable (place.Apart n) :=
  decidable_of_iff (∀ i < n, ∀ j < n, i ≠ j → (place i).overlaps (place j) = false)
    ⟨fun h i j hi hj => h i hi j hj, fun h i hi j hj => h i j hi hj⟩

theorem passed_iff {place : Placement} {r : Round} : place.Passed r ↔ ∀ p ∈ r.matchers.zipIdx,
    p.1.pendingFor ≤ (place p.2).call ∧ (r.valueAt? (place p.2)).any (· == p.1.signature) = true := by
  simp only [Passed, Prod.forall, List.mk_mem_zipIdx_iff_getElem?, Option.any_eq_true]
  exact ⟨fun h m i hm => h i m hm, fun h i m hm => h m i hm⟩

instance (place : Placement) (r : Round) : Decidable (place.Passed r) := decidable_of_iff _ passed_iff.symm

end Placement

namespace Bindings

variable {rounds : List Round}

/-! ## Candidates -/

theorem mem_candidates {i : Nat} {a : Address} :
    a ∈ candidates rounds i ↔ rounds ≠ [] ∧ ∀ r ∈ rounds, a ∈ r.possible i := by
  cases rounds with
  | nil => simp [candidates]
  | cons first rest => simp [candidates]

theorem candidates_sorted (rounds : List Round) (i : Nat) : (candidates rounds i).Pairwise Address.Before := by
  cases rounds with
  | nil => exact .nil
  | cons first rest => exact (first.possible_sorted i).filter _

theorem choiceOrder_perm (ms : List RegisteredMatcher) : (choiceOrder ms).Perm (List.range ms.length) := by
  have h := (List.filter_append_perm (fun p : RegisteredMatcher × Nat => p.1.distinguishable) ms.zipIdx).map
    Prod.snd
  rwa [List.zipIdx_map_snd, ← List.range_eq_range'] at h

/-- Among matchers that can be told apart, and among the others, the first registered comes first. -/
theorem choiceOrder_sorted (ms : List RegisteredMatcher) : (choiceOrder ms).Pairwise fun i j =>
    ms[i]?.map (·.distinguishable) = ms[j]?.map (·.distinguishable) → i < j := by
  unfold choiceOrder
  simp only [List.map_append, List.pairwise_append, List.pairwise_map, List.mem_map, List.mem_filter]
  refine ⟨((Round.pairwise_zipIdx ms).filter _).imp ?_, ((Round.pairwise_zipIdx ms).filter _).imp ?_, ?_⟩
  · intro _ _ h _; exact h
  · intro _ _ h _; exact h
  · rintro _ ⟨⟨m, i⟩, ⟨hm, hd⟩, rfl⟩ _ ⟨⟨m', j⟩, ⟨hm', hd'⟩, rfl⟩ h
    rw [List.mk_mem_zipIdx_iff_getElem?] at hm hm'
    simp_all

/-! ## Lookup -/

/-- No two choices overlap. -/
def Apart (b : Bindings) : Prop := b.Pairwise fun p q => p.1.overlaps q.1 = false

theorem Apart.not_overlaps {b : Bindings} (h : b.Apart) {p q : Address × Nat} (hp : p ∈ b) (hq : q ∈ b)
    (hne : p ≠ q) : p.1.overlaps q.1 = false := by
  have : Std.Symm fun p q : Address × Nat => p.1.overlaps q.1 = false :=
    ⟨fun p q hpq => by rwa [Address.overlaps_comm]⟩
  exact List.Pairwise.forall h hp hq hne

theorem isFree_iff {b : Bindings} {a : Address} : b.isFree a = true ↔ ∀ p ∈ b, p.1.overlaps a = false := by
  simp [isFree]

theorem Apart.matcherAt?_eq_some_iff {b : Bindings} (h : b.Apart) {a : Address} {i : Nat} :
    b.matcherAt? a = some i ↔ (a, i) ∈ b := by
  induction b with
  | nil => simp [matcherAt?]
  | cons p b ih =>
      obtain ⟨a', j⟩ := p
      obtain ⟨hp, hb⟩ := List.pairwise_cons.mp h
      rw [matcherAt?, List.lookup_cons, List.mem_cons, Prod.mk.injEq]
      by_cases ha : a = a'
      · subst ha
        have hn : (a, i) ∉ b := fun hm => Address.ne_of_not_overlaps (hp _ hm) rfl
        simp [hn, eq_comm]
      · simp only [beq_eq_false_iff_ne.mpr ha, ha, false_and, false_or]
        exact ih hb

/-! ## The choice -/

/-- What the choice has reached after the matchers in `done`. -/
structure Chosen (rounds : List Round) (done : List Nat) (state : Bindings × List Nat) : Prop where
  candidate : ∀ p ∈ state.1, p.1 ∈ candidates rounds p.2
  apart : state.1.Apart
  covered : (state.1.map (·.2) ++ state.2).Perm done

theorem Chosen.start : Chosen rounds [] ([], []) := ⟨by simp, .nil, .nil⟩

theorem Chosen.choose {done : List Nat} {state : Bindings × List Nat} (h : Chosen rounds done state) (i : Nat) :
    Chosen rounds (i :: done) (choose rounds state i) := by
  obtain ⟨b, unresolved⟩ := state
  unfold Bindings.choose
  cases hf : (candidates rounds i).find? b.isFree with
  | none => exact ⟨h.candidate, h.apart, List.perm_middle.trans (h.covered.cons i)⟩
  | some a =>
      have ha : a ∈ candidates rounds i := List.mem_of_find?_eq_some hf
      have hfree : ∀ p ∈ b, p.1.overlaps a = false := isFree_iff.mp (List.find?_some hf)
      refine ⟨fun p hp => ?_, List.pairwise_cons.mpr ⟨fun p hp => ?_, h.apart⟩, h.covered.cons i⟩
      · rcases List.mem_cons.mp hp with rfl | hp
        · exact ha
        · exact h.candidate p hp
      · rw [Address.overlaps_comm]; exact hfree p hp

theorem Chosen.foldl {done : List Nat} {state : Bindings × List Nat} (h : Chosen rounds done state)
    (rest : List Nat) : Chosen rounds (rest.reverse ++ done) (rest.foldl (Bindings.choose rounds) state) := by
  induction rest generalizing done state with
  | nil => exact h
  | cons i rest ih => simpa using ih (h.choose i)

theorem Chosen.ofRounds (first : Round) (rest : List Round) :
    Chosen (first :: rest) (choiceOrder first.matchers).reverse (Bindings.ofRounds (first :: rest)) := by
  have h := (Chosen.start : Chosen (first :: rest) [] ([], [])).foldl (choiceOrder first.matchers)
  simpa using! h

/-- The bindings put exactly the first `n` matchers at their places. -/
def Puts (b : Bindings) (place : Placement) (n : Nat) : Prop :=
  ∀ a i, b.matcherAt? a = some i ↔ i < n ∧ place i = a

/-- A choice that leaves no matcher over gives every matcher one of its candidates. -/
theorem exists_placement {n : Nat} {b : Bindings} {done : List Nat} (h : Chosen rounds done (b, []))
    (hn : done.Perm (List.range n)) :
    ∃ place : Placement, b.Puts place n ∧ place.Apart n ∧ ∀ i < n, place i ∈ candidates rounds i := by
  have hp : (b.map (·.2)).Perm (List.range n) := by simpa using h.covered.trans hn
  have hex : ∀ i, ∃ a, i < n → (a, i) ∈ b := by
    intro i
    by_cases hi : i < n
    · obtain ⟨⟨a, j⟩, hab, rfl⟩ := List.mem_map.mp (hp.mem_iff.mpr (List.mem_range.mpr hi))
      exact ⟨a, fun _ => hab⟩
    · exact ⟨⟨0, 0, none⟩, fun h => absurd h hi⟩
  choose place hplace using hex
  -- A matcher is bound once, so the address found for it is the one it is bound to.
  have honce : ∀ p ∈ b, ∀ q ∈ b, p.2 = q.2 → p = q :=
    fun p hp' q hq => List.inj_on_of_nodup_map (hp.nodup_iff.mpr List.nodup_range) hp' hq
  refine ⟨place, fun a i => ?_, fun i j hi hj hij => ?_, fun i hi => h.candidate _ (hplace i hi)⟩
  · rw [h.apart.matcherAt?_eq_some_iff]
    constructor
    · intro hm
      have hi : i < n := List.mem_range.mp (hp.mem_iff.mp (List.mem_map_of_mem hm))
      exact ⟨hi, congrArg Prod.fst (honce _ (hplace i hi) _ hm rfl)⟩
    · rintro ⟨hi, rfl⟩
      exact hplace i hi
  · have hne : (place i, i) ≠ (place j, j) := fun he => hij (congrArg Prod.snd he)
    exact h.apart.not_overlaps (hplace i hi) (hplace j hj) hne

end Bindings

end TestDouble
