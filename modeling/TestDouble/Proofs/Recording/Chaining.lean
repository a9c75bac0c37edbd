import TestDouble.Proofs.Recording.Correlation

/-!
# Chains

A call of a resolved block is linked to the earlier call that returned its target, and it is a link itself if a
later call uses the object that it returned. Going through the calls once finds both, with a table of what has been
returned so far: where a call uses an object of the table, the call that returned it is marked.
-/

namespace TestDouble

/-- The object is what the call is made on, or one of its arguments. -/
def CapturedCall.Uses (c : CapturedCall) (id : Nat) : Prop :=
  c.call.target.id = id ∨ ∃ x, .object x ∈ c.call.args ∧ x.id = id

namespace Round

variable {r : Round} {b : Bindings} {j k id : Nat}

/-! ## Which calls are links -/

/-- Call `k` returned this object. -/
def Returns (r : Round) (k id : Nat) : Prop :=
  ∃ c x, r.calls[k]? = some c ∧ c.returned.object? = some x ∧ x.id = id

/-- A later call uses the object, and call `k` is the last one before it that has returned the object. -/
def Hands (r : Round) (k id : Nat) : Prop :=
  ∃ (j : Nat) (d : CapturedCall), r.calls[j]? = some d ∧ d.Uses id ∧ latestReturning? (r.calls.take j) id = some k

theorem returns_of_latestReturning? (h : latestReturning? (r.calls.take j) id = some k) : k < j ∧ r.Returns k id := by
  obtain ⟨⟨c, k⟩, hp, rfl⟩ := Option.map_eq_some_iff.mp h
  have hmem := List.mem_zipIdx_iff_getElem?.mp (List.mem_reverse.mp (List.mem_of_find?_eq_some hp))
  rw [List.getElem?_take, Option.ite_none_right_eq_some] at hmem
  have hreturned := List.find?_some hp
  obtain ⟨x, hx, hid⟩ := (Option.any_eq_true _ _).mp hreturned
  exact ⟨hmem.1, c, x, hmem.2, hx, beq_iff_eq.mp hid⟩

theorem Recorded.latestReturning?_iff (h : r.Recorded) :
    latestReturning? (r.calls.take j) id = some k ↔ k < j ∧ r.Returns k id :=
  ⟨returns_of_latestReturning?, fun ⟨hlt, _, _, hc, hx, hid⟩ => h.latestReturning?_eq_some hlt hc hx hid⟩

theorem mem_feeding {d : CapturedCall} :
    k ∈ r.feeding (d, j) ↔ ∃ id, d.Uses id ∧ latestReturning? (r.calls.take j) id = some k := by
  simp only [feeding, List.mem_filterMap, List.mem_cons, CapturedCall.Uses]
  constructor
  · rintro ⟨o, rfl | ⟨v, hv, ho⟩, hk⟩
    · exact ⟨_, .inl rfl, hk⟩
    · cases v <;> cases ho
      exact ⟨o.id, .inr ⟨o, hv, rfl⟩, hk⟩
  · rintro ⟨_, rfl | ⟨o, ho, rfl⟩, hk⟩
    · exact ⟨_, .inl rfl, hk⟩
    · exact ⟨o, .inr ⟨_, ho, rfl⟩, hk⟩

theorem mem_intermediates : k ∈ r.intermediates ↔ ∃ id, r.Hands k id := by
  simp only [intermediates, List.mem_flatMap, Prod.exists, List.mk_mem_zipIdx_iff_getElem?, mem_feeding, Hands]
  constructor
  · rintro ⟨d, j, hd, id, huses, hk⟩
    exact ⟨id, j, d, hd, huses, hk⟩
  · rintro ⟨id, j, d, hd, huses, hk⟩
    exact ⟨d, j, hd, id, huses, hk⟩

theorem Hands.returns (h : r.Hands k id) : r.Returns k id := by
  obtain ⟨j, d, -, -, hk⟩ := h
  exact (returns_of_latestReturning? hk).2

theorem Hands.lt (h : r.Hands k id) : k + 1 < r.calls.length := by
  obtain ⟨j, d, hd, -, hk⟩ := h
  have hj := (List.getElem?_eq_some_iff.mp hd).1
  exact Nat.lt_of_le_of_lt (returns_of_latestReturning? hk).1 hj

/-- No other call returned the object, so all later calls that use it have it from this one. -/
theorem Recorded.hands_iff (h : r.Recorded) :
    r.Hands k id ↔ r.Returns k id ∧ ∃ j d, k < j ∧ r.calls[j]? = some d ∧ d.Uses id := by
  simp only [Hands, h.latestReturning?_iff]
  constructor
  · rintro ⟨j, d, hd, huses, hlt, hreturns⟩
    exact ⟨hreturns, j, d, hlt, hd, huses⟩
  · rintro ⟨hreturns, j, d, hlt, hd, huses⟩
    exact ⟨j, d, hd, huses, hlt, hreturns⟩

/-! ## One pass over the calls -/

/-- What is known after some calls. -/
structure Sweep where
  /-- The objects that were returned, each with its call, the latest one first. -/
  sources : List (Nat × Nat) := []
  resolved : Resolution := []

namespace Sweep

/-- Note that a later call uses the result of call `k`, if there is such a call. -/
def mark? (res : Resolution) (k : Nat) : Option Resolution :=
  if k < res.length then some (res.modify k fun c => { c with intermediate := true }) else none

def feeding (s : Sweep) (c : CapturedCall) : List Nat :=
  (c.call.target :: c.call.args.filterMap Value.object?).filterMap fun o => s.sources.lookup o.id

/-- Resolve one more call, with the matchers of the round in their places. -/
def next? (r : Round) (b : Bindings) (s : Sweep) (c : CapturedCall × Nat) : Option Sweep := do
  let marked ← (s.feeding c.1).foldlM mark? s.resolved
  return {
    sources := (c.1.returned.object?.map fun o => (o.id, c.2)).toList ++ s.sources
    resolved := marked ++ [⟨r.callMatcher b c, c.1.returned, s.sources.lookup c.1.call.target.id, false⟩] }

end Sweep

/-- Resolve the calls one after another. There is no result if a call is to be marked that is not there. -/
def sweep? (r : Round) (b : Bindings) : Option Resolution :=
  (r.calls.zipIdx.foldlM (Sweep.next? r b) {}).map (·.resolved)

namespace Sweep

/-- The same calls, with their results used by these calls as well. -/
def marked (res : Resolution) (ks : List Nat) : Resolution :=
  res.mapIdx fun k c => { c with intermediate := c.intermediate || ks.contains k }

@[simp] theorem length_marked (res : Resolution) (ks : List Nat) : (marked res ks).length = res.length :=
  List.length_mapIdx

theorem foldlM_mark? {ks : List Nat} {res : Resolution} (h : ∀ k ∈ ks, k < res.length) :
    ks.foldlM mark? res = some (marked res ks) := by
  induction ks generalizing res with
  | nil => exact congrArg some (List.ext_getElem? fun k => by simp [marked, List.getElem?_mapIdx])
  | cons k ks ih =>
      obtain ⟨hk, hks⟩ := List.forall_mem_cons.mp h
      rw [List.foldlM_cons, mark?, if_pos hk, Option.bind_eq_bind, Option.bind_some, ih (by simpa using hks)]
      congr 1
      refine List.ext_getElem? fun j => ?_
      simp only [marked, List.getElem?_mapIdx, List.getElem?_modify]
      cases res[j]? with
      | none => rfl
      | some c => by_cases hj : k = j <;> simp [hj, eq_comm]

end Sweep

/-! ## One call more -/

theorem latestReturning?_concat (cs : List CapturedCall) (c : CapturedCall) (id : Nat) :
    latestReturning? (cs ++ [c]) id =
      if c.returned.object?.any (·.id == id) then some cs.length else latestReturning? cs id := by
  simp only [latestReturning?, List.zipIdx_append, List.reverse_append, List.zipIdx_singleton, List.reverse_singleton,
    List.singleton_append, List.find?_cons, Nat.zero_add]
  split <;> rename_i h <;> simp [h]

theorem feeding_concat (cs : List CapturedCall) (c d : CapturedCall) (hk : k ≤ cs.length) :
    { r with calls := cs ++ [c] }.feeding (d, k) = { r with calls := cs }.feeding (d, k) := by
  simp only [feeding, List.take_append_of_le_length hk]

theorem intermediates_concat (cs : List CapturedCall) (c : CapturedCall) :
    { r with calls := cs ++ [c] }.intermediates =
      { r with calls := cs }.intermediates ++ { r with calls := cs }.feeding (c, cs.length) := by
  simp only [intermediates, List.zipIdx_append, List.flatMap_append, List.zipIdx_singleton, List.flatMap_singleton,
    Nat.zero_add, feeding_concat cs c c (Nat.le_refl _)]
  congr 1
  refine List.flatMap_congr fun p hp => ?_
  have hlt := (List.getElem?_eq_some_iff.mp (List.mem_zipIdx_iff_getElem?.mp hp)).1
  exact feeding_concat cs c p.1 (Nat.le_of_lt hlt)

/-- A further call marks the calls whose results it uses, and is not marked itself. -/
theorem resolved_concat (r : Round) (b : Bindings) (cs : List CapturedCall) (c : CapturedCall) :
    { r with calls := cs ++ [c] }.resolved b =
      Sweep.marked ({ r with calls := cs }.resolved b) ({ r with calls := cs }.feeding (c, cs.length)) ++
        [⟨r.callMatcher b (c, cs.length), c.returned, latestReturning? cs c.call.target.id, false⟩] := by
  refine List.ext_getElem? fun k => ?_
  have hlength : (Sweep.marked ({ r with calls := cs }.resolved b)
      ({ r with calls := cs }.feeding (c, cs.length))).length = cs.length := by simp
  -- Earlier calls look back on the same calls as before, and no call comes after the new one to use it.
  rcases Nat.lt_trichotomy k cs.length with hk | rfl | hk
  · rw [List.getElem?_append_left (Nat.lt_of_lt_of_eq hk hlength.symm), Sweep.marked, List.getElem?_mapIdx,
      resolved_getElem?, resolved_getElem?, List.getElem?_append_left hk,
      List.take_append_of_le_length (Nat.le_of_lt hk), intermediates_concat, List.getElem?_eq_getElem hk]
    simp only [Option.map_some, List.contains_append]
    rfl
  · have hlast : cs.length ∉ { r with calls := cs ++ [c] }.intermediates := by
      intro hmem
      obtain ⟨id, hands⟩ := mem_intermediates.mp hmem
      have hlt := hands.lt
      rw [List.length_append, List.length_singleton] at hlt
      exact Nat.lt_irrefl _ hlt
    rw [List.getElem?_append_right (Nat.le_of_eq hlength), hlength, Nat.sub_self, resolved_getElem?,
      List.getElem?_concat_length, List.take_left, Option.map_some, List.contains_eq_mem, decide_eq_false hlast]
    rfl
  · have hout : (cs ++ [c]).length ≤ k := by rwa [List.length_append, List.length_singleton]
    rw [List.getElem?_eq_none, List.getElem?_eq_none]
    · rwa [List.length_append, hlength]
    · rwa [length_resolved]

namespace Sweep

structure Covers (s : Sweep) (r : Round) (b : Bindings) : Prop where
  sources : ∀ id, s.sources.lookup id = latestReturning? r.calls id
  resolved : s.resolved = r.resolved b

variable {s : Sweep} {cs : List CapturedCall}

theorem Covers.feeding_eq (h : s.Covers { r with calls := cs } b) (c : CapturedCall) :
    s.feeding c = { r with calls := cs }.feeding (c, cs.length) := by
  simp only [feeding, Round.feeding, h.sources, List.take_length]

/-- A call only marks calls that are there. -/
theorem Covers.next (h : s.Covers { r with calls := cs } b) (c : CapturedCall) :
    ∃ s', next? r b s (c, cs.length) = some s' ∧ s'.Covers { r with calls := cs ++ [c] } b := by
  have hlt : ∀ k ∈ s.feeding c, k < s.resolved.length := by
    intro k hk
    rw [h.feeding_eq, mem_feeding] at hk
    obtain ⟨id, -, hk⟩ := hk
    rw [h.resolved, length_resolved]
    exact (returns_of_latestReturning? hk).1
  refine ⟨_, by rw [next?, foldlM_mark? hlt]; rfl, fun id => ?_, ?_⟩
  · simp only [latestReturning?_concat]
    cases c.returned.object? with
    | none => exact h.sources id
    | some o =>
        simp only [Option.map_some, Option.toList_some, List.singleton_append, List.lookup_cons, Option.any_some,
          h.sources, Bool.beq_comm]
        cases id == o.id <;> rfl
  · dsimp only
    rw [resolved_concat, h.resolved, h.feeding_eq, h.sources]

theorem Covers.foldlM (h : s.Covers { r with calls := cs } b) (left : List CapturedCall) :
    ∃ s', (left.zipIdx cs.length).foldlM (next? r b) s = some s' ∧ s'.Covers { r with calls := cs ++ left } b := by
  induction left generalizing s cs with
  | nil => exact ⟨s, rfl, by rwa [List.append_nil]⟩
  | cons c left ih =>
      obtain ⟨s', hnext, hs'⟩ := h.next c
      obtain ⟨s'', hrest, hs''⟩ := ih hs'
      refine ⟨s'', ?_, by rwa [List.append_assoc] at hs''⟩
      rw [List.zipIdx_cons, List.foldlM_cons, hnext]
      rwa [List.length_append] at hrest

end Sweep

/-- One pass resolves a round. -/
theorem sweep?_eq (r : Round) (b : Bindings) : r.sweep? b = some (r.resolved b) := by
  have hstart : ({} : Sweep).Covers { r with calls := [] } b := ⟨fun _ => rfl, rfl⟩
  obtain ⟨s, hs, hcovers⟩ := hstart.foldlM r.calls
  have hs : r.calls.zipIdx.foldlM (Sweep.next? r b) {} = some s := hs
  rw [sweep?, hs, Option.map_some, hcovers.resolved]
  rfl

end Round

/-! ## Resolved blocks -/

namespace Resolution

/-- The resolved calls are those of the round. Each is linked to the earlier call that returned its target, and is a
link itself where a later call uses the object that it returned. -/
structure Chained (res : Resolution) (r : Round) : Prop where
  calls : res.map (fun c => (c.matcher.target, c.matcher.method, c.matcher.args.length, c.returned)) =
    r.calls.map fun c => (c.call.target, c.call.method, c.call.args.length, c.returned)
  parent : ∀ j c, res[j]? = some c → ∀ i, c.chainParent = some i ↔ i < j ∧ r.Returns i c.matcher.target.id
  link : ∀ i c, res[i]? = some c →
    (c.intermediate = true ↔ ∃ id, r.Returns i id ∧ ∃ j d, i < j ∧ r.calls[j]? = some d ∧ d.Uses id)

variable {rounds : List Round} {phase : Phase} {res : Resolution} {r : Round}

theorem Chained.of_recorded (h : r.Recorded) (b : Bindings) : (r.resolved b).Chained r where
  calls := r.resolved_calls b
  parent j c hc i := by
    rw [Round.resolved_getElem?] at hc
    obtain ⟨d, -, rfl⟩ := Option.map_eq_some_iff.mp hc
    exact h.latestReturning?_iff
  link i c hc := by
    rw [Round.resolved_getElem?] at hc
    obtain ⟨d, -, rfl⟩ := Option.map_eq_some_iff.mp hc
    simp only [List.contains_iff_mem, Round.mem_intermediates, h.hands_iff]

theorem Chained.length_eq (h : res.Chained r) : res.length = r.calls.length := by
  simpa using congrArg List.length h.calls

theorem Chained.last (h : res.Chained r) {c : ResolvedCall} (hc : res.getLast? = some c) : c.intermediate = false := by
  rw [List.getLast?_eq_getElem?] at hc
  refine Bool.eq_false_iff.mpr fun hlink => ?_
  obtain ⟨id, -, j, d, hlt, hd, -⟩ := (h.link _ c hc).mp hlink
  have hj := (List.getElem?_eq_some_iff.mp hd).1
  have hlength := h.length_eq
  omega

theorem Chained.topLevel_ne_nil (h : res.Chained r) (hne : res ≠ []) : res.topLevel ≠ [] := by
  have hlast := h.last (List.getLast?_eq_some_getLast hne)
  refine List.ne_nil_of_mem (a := res.getLast hne) (List.mem_filter.mpr ⟨List.getLast_mem hne, ?_⟩)
  rw [hlast]
  rfl

/-- A resolved block has the calls of its last round, linked as objects went from one call to another. One pass finds
the links, every call and every matcher that is looked up is there, and the last call is always at the top level. -/
theorem ofRounds_chained {last : Round} (h : ofRounds rounds phase = .ok res) (hlast : rounds.getLast? = some last)
    (hrecorded : last.Recorded) :
    res.Chained last ∧ last.sweep? (Bindings.ofRounds rounds).1 = some res ∧
      (∀ a i, (Bindings.ofRounds rounds).1.matcherAt? a = some i → i < last.matchers.length) ∧
      (∀ c, res.getLast? = some c → c.intermediate = false) ∧ (res ≠ [] → res.topLevel ≠ []) := by
  obtain ⟨rfl, place, hputs, -⟩ := exists_placed h hlast
  have hchained := Chained.of_recorded hrecorded (Bindings.ofRounds rounds).1
  exact ⟨hchained, last.sweep?_eq _, fun a i hi => ((hputs a i).mp hi).1, fun c hc => hchained.last hc,
    hchained.topLevel_ne_nil⟩

/-- A round of a block that passes on the child of a mock together with a number, and then makes a call on it. -/
def plantedRound (index id : Nat) : Round :=
  let child : Method := { name := "child", params := [], returns := .object "Tree" }
  let plant : Method := { name := "plant", params := [.object "Tree", .int], returns := .unit }
  let water : Method := { name := "water", params := [], returns := .unit }
  { index
    calls := [⟨⟨⟨1, "Tree"⟩, child, [], 3 * index, none⟩, .object ⟨id, "Tree"⟩, false⟩,
      ⟨⟨⟨2, "Garden"⟩, plant, [.object ⟨id, "Tree"⟩, .int 536870912], 3 * index + 1, none⟩, .unit, false⟩,
      ⟨⟨⟨id, "Tree"⟩, water, [], 3 * index + 2, none⟩, .unit, false⟩]
    matchers := [⟨.any, .int 536870912, true, 1⟩] }

def plantedRounds : List Round := [plantedRound 0 3, plantedRound 1 4]

theorem plantedRound_recorded (index id : Nat) : (plantedRound index id).Recorded := by
  have hchild := OpenRound.Recorded.capture (s := { nextObject := id, nextSequence := 3 * index }) (.start index [] _)
    { entropy := fun _ => 0 } ⟨1, "Tree"⟩ { name := "child", params := [], returns := .object "Tree" } [] none
  have hany := OpenRound.Recorded.register (s := { nextObject := id + 1 }) hchild { entropy := fun _ => 0 } .any .int
  have hplant := OpenRound.Recorded.capture (s := { nextObject := id + 1, nextSequence := 3 * index + 1 }) hany
    { entropy := fun _ => 0 } ⟨2, "Garden"⟩ { name := "plant", params := [.object "Tree", .int], returns := .unit }
    [.object ⟨id, "Tree"⟩, .int 536870912] none
  have hwater := OpenRound.Recorded.capture (s := { nextObject := id + 1, nextSequence := 3 * index + 2 }) hplant
    { entropy := fun _ => 0 } ⟨id, "Tree"⟩ { name := "water", params := [], returns := .unit } [] none
  exact ⟨_, _, hwater, rfl⟩

theorem ofRounds_chained_planted : ∃ res last, ofRounds plantedRounds .stubbing = .ok res ∧
    plantedRounds.getLast? = some last ∧ last.Recorded ∧ res.Chained last ∧
    last.sweep? (Bindings.ofRounds plantedRounds).1 = some res ∧
    (Bindings.ofRounds plantedRounds).1.matcherAt? ⟨1, 1, none⟩ = some 0 ∧ 0 < last.matchers.length ∧
    res.map (·.chainParent) = [none, none, some 0] ∧ res.map (·.intermediate) = [true, false, false] ∧
    res.topLevel ≠ [] := by
  obtain ⟨res, hres⟩ : ∃ res, ofRounds plantedRounds .stubbing = .ok res := ⟨_, rfl⟩
  have hlast : plantedRounds.getLast? = some (plantedRound 1 4) := rfl
  have hrecorded := plantedRound_recorded 1 4
  obtain ⟨hchained, hsweep, hbound, -, htop⟩ := ofRounds_chained hres hlast hrecorded
  have hmatcher : (Bindings.ofRounds plantedRounds).1.matcherAt? ⟨1, 1, none⟩ = some 0 := by decide
  have hparents : res.map (·.chainParent) = [none, none, some 0] := by cases hres; rfl
  have hlinks : res.map (·.intermediate) = [true, false, false] := by cases hres; rfl
  have hne : res ≠ [] := by
    rintro rfl
    cases hparents
  exact ⟨res, plantedRound 1 4, hres, hlast, hrecorded, hchained, hsweep, hmatcher, hbound _ _ hmatcher, hparents,
    hlinks, htop hne⟩

end Resolution

end TestDouble
