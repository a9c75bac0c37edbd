import TestDouble.Proofs.Recording.Placement
import TestDouble.Proofs.Recording.Recorded

/-!
# Completeness of binding

When a block passes every stand-in at one place and the rounds tell the places apart, every matcher is bound to
the place where it was written: the choice never gives it the place of another.
-/

namespace TestDouble

namespace Round

/-- Call `j` is made on this object, or on what this earlier call returned. -/
def TargetIs (r : Round) (j : Nat) : Role → Prop
  | .fixed id => ∃ c, r.calls[j]? = some c ∧ c.call.target.id = id ∧
      ∀ i < j, ∀ d x, r.calls[i]? = some d → d.returned.object? = some x → x.id ≠ id
  | .returnedBy i => i < j ∧ ∃ c d x, r.calls[j]? = some c ∧ r.calls[i]? = some d ∧
      d.returned.object? = some x ∧ x.id = c.call.target.id

/-- Two matchers of the round were given equal stand-ins. -/
def SameSignature (r : Round) (i j : Nat) : Prop :=
  ∀ m m', r.matchers[i]? = some m → r.matchers[j]? = some m' → (m.signature == m'.signature) = true

end Round

/-- The rounds of a block whose matchers stand at known places. -/
structure Correlated (rounds : List Round) (n : Nat) (place : Placement) : Prop where
  recorded : ∀ r ∈ rounds, r.Recorded
  methods : ∀ r ∈ rounds, ∀ r' ∈ rounds, r.calls.map (·.call.method) = r'.calls.map (·.call.method)
  targets : ∀ r ∈ rounds, ∀ j < r.calls.length, ∃ role, ∀ r' ∈ rounds, r'.TargetIs j role
  count : ∀ r ∈ rounds, r.matchers.length = n
  matchers : ∀ r ∈ rounds, ∀ r' ∈ rounds, r.matchers.map (·.matcher.text) = r'.matchers.map (·.matcher.text)
  passed : ∀ r ∈ rounds, place.Passed r
  apart : place.Apart n
  /-- A wildcard is the only one of its trailing arguments. -/
  alone : ∀ r ∈ rounds, ∀ i m c s e, r.matchers[i]? = some m → m.matcher.isVarargWildcard = true →
    place i = ⟨c, s, some e⟩ → ∃ v, r.varargItems? c s = some [v]
  /-- Where no matcher stands, some round tells that this one does not. -/
  told : ∀ i < n, ∀ a, (∀ j < n, place j ≠ a) → ∃ r ∈ rounds, ∀ m v, r.matchers[i]? = some m →
    r.valueAt? a = some v → (v == m.signature) = false
  /-- Matchers that no round tells apart stand in the order of their registration. -/
  ordered : ∀ i j, i < j → j < n → (∀ r ∈ rounds, r.SameSignature i j) → (place i).Before (place j)

/-! ## Targets -/

namespace Round

theorem latestReturning?_eq_none {r : Round} {j id : Nat} : latestReturning? (r.calls.take j) id = none ↔
    ∀ i < j, ∀ d x, r.calls[i]? = some d → d.returned.object? = some x → x.id ≠ id := by
  simp only [latestReturning?, Option.map_eq_none_iff, List.find?_eq_none, List.mem_reverse, Prod.forall,
    List.mk_mem_zipIdx_iff_getElem?, Option.any_eq_true, beq_iff_eq, not_exists, not_and]
  constructor
  · intro h i hi d x hd hx
    exact h d i (by rwa [List.getElem?_take_of_lt hi]) x hx
  · intro h d i hd x hx
    rw [List.getElem?_take, Option.ite_none_right_eq_some] at hd
    exact h i hd.1 d x hd.2 hx

/-- An object that was returned comes from the one call that returned it. -/
theorem Recorded.latestReturning?_eq_some {r : Round} (h : r.Recorded) {j i id : Nat} (hlt : i < j)
    {d : CapturedCall} {x : ObjectRef} (hd : r.calls[i]? = some d) (hx : d.returned.object? = some x)
    (hid : x.id = id) : latestReturning? (r.calls.take j) id = some i := by
  cases hl : latestReturning? (r.calls.take j) id with
  | none => exact absurd hid (latestReturning?_eq_none.mp hl i hlt d x hd hx)
  | some k =>
      obtain ⟨⟨e, k'⟩, hfind, rfl⟩ := Option.map_eq_some_iff.mp hl
      have hmem := List.mem_reverse.mp (List.mem_of_find?_eq_some hfind)
      rw [List.mk_mem_zipIdx_iff_getElem?, List.getElem?_take, Option.ite_none_right_eq_some] at hmem
      have hfound := List.find?_some hfind
      simp only [Option.any_eq_true, beq_iff_eq] at hfound
      obtain ⟨y, hy, hyid⟩ := hfound
      rw [h.returned_once hmem.2 hd hy hx (hyid.trans hid.symm)]

/-- The role of a target is what the calls before it say. -/
theorem Recorded.roles_getElem? {r : Round} (h : r.Recorded) {j : Nat} {role : Role} (hr : r.TargetIs j role) :
    r.roles[j]? = some role := by
  simp only [roles, List.getElem?_map, List.getElem?_zipIdx, Nat.zero_add]
  cases role with
  | fixed id =>
      obtain ⟨c, hc, rfl, hnone⟩ := hr
      simp [hc, latestReturning?_eq_none.mpr hnone]
  | returnedBy i =>
      obtain ⟨hlt, c, d, x, hc, hd, hx, hid⟩ := hr
      simp [hc, h.latestReturning?_eq_some hlt hd hx hid]

/-- Rounds whose targets come from the same places have the same roles. -/
theorem Recorded.roles_eq {r r' : Round} (h : r.Recorded) (h' : r'.Recorded) (hlen : r.calls.length = r'.calls.length)
    (hroles : ∀ j < r.calls.length, ∃ role, r.TargetIs j role ∧ r'.TargetIs j role) : r.roles = r'.roles := by
  refine List.ext_getElem? fun j => ?_
  by_cases hj : j < r.calls.length
  · obtain ⟨role, hr, hr'⟩ := hroles j hj
    rw [h.roles_getElem? hr, h'.roles_getElem? hr']
  · rw [List.getElem?_eq_none, List.getElem?_eq_none] <;> simp [Round.roles] <;> omega

end Round

namespace Correlated

variable {rounds : List Round} {n : Nat} {place : Placement}

theorem agrees (h : Correlated rounds n place) {first r : Round} (hf : first ∈ rounds) (hr : r ∈ rounds) :
    first.Agrees r where
  methods := h.methods r hr first hf
  matchers := h.matchers r hr first hf
  roles := by
    have hlen : r.calls.length = first.calls.length := by
      simpa using congrArg List.length (h.methods r hr first hf)
    refine (h.recorded r hr).roles_eq (h.recorded first hf) hlen fun j hj => ?_
    obtain ⟨role, hrole⟩ := h.targets r hr j hj
    exact ⟨role, hrole r hr, hrole first hf⟩

/-! ## Candidates -/

theorem exists_matcher (h : Correlated rounds n place) {r : Round} (hr : r ∈ rounds) {i : Nat} (hi : i < n) :
    ∃ m, r.matchers[i]? = some m := by
  rw [← h.count r hr] at hi
  exact ⟨r.matchers[i], List.getElem?_eq_getElem hi⟩

theorem place_mem_candidates (h : Correlated rounds n place) (hne : rounds ≠ []) {i : Nat} (hi : i < n) :
    place i ∈ Bindings.candidates rounds i := by
  refine Bindings.mem_candidates.mpr ⟨hne, fun r hr => ?_⟩
  obtain ⟨m, hm⟩ := h.exists_matcher hr hi
  obtain ⟨hp, v, hv, hs⟩ := h.passed r hr i m hm
  exact Round.mem_possible.mpr ⟨m, v, hm, hp, hv, hs⟩

/-- A matcher can only be taken for one whose stand-ins agree with its own. -/
theorem candidate_is_place (h : Correlated rounds n place) {i : Nat} (hi : i < n) {a : Address}
    (ha : a ∈ Bindings.candidates rounds i) : ∃ j < n, place j = a ∧ ∀ r ∈ rounds, r.SameSignature i j := by
  have hcand := (Bindings.mem_candidates.mp ha).2
  by_cases hown : ∃ j < n, place j = a
  · obtain ⟨j, hj, rfl⟩ := hown
    refine ⟨j, hj, rfl, fun r hr m m' hm hm' => ?_⟩
    obtain ⟨m₀, v, hm₀, -, hv, hs⟩ := Round.mem_possible.mp (hcand r hr)
    cases hm.symm.trans hm₀
    obtain ⟨-, w, hw, hs'⟩ := h.passed r hr j m' hm'
    cases hv.symm.trans hw
    exact PartialEquivBEq.trans (PartialEquivBEq.symm hs) hs'
  · obtain ⟨r, hr, htold⟩ := h.told i hi a fun j hj he => hown ⟨j, hj, he⟩
    obtain ⟨m, v, hm, -, hv, hs⟩ := Round.mem_possible.mp (hcand r hr)
    rw [htold m v hm hv] at hs
    cases hs

/-! ## The choice -/

/-- Equal values are of the same kind. -/
theorem distinguishable_of_same (h : Correlated rounds n place) {r : Round} (hr : r ∈ rounds) {i j : Nat}
    (hj : j < n) (hij : r.SameSignature i j) (hi : i < n) :
    r.matchers[i]?.map (·.distinguishable) = r.matchers[j]?.map (·.distinguishable) := by
  obtain ⟨m, hm⟩ := h.exists_matcher hr hi
  obtain ⟨m', hm'⟩ := h.exists_matcher hr hj
  rw [hm, hm', Option.map_some, Option.map_some, (h.recorded r hr).distinguishable hm,
    (h.recorded r hr).distinguishable hm', Value.isDistinguishable_of_beq (hij _ _ hm hm')]

/-- The matchers in `done`, bound to their places one after another. -/
def bound (place : Placement) (done : List Nat) : Bindings := (done.map fun k => (place k, k)).reverse

theorem mem_bound {done : List Nat} {p : Address × Nat} : p ∈ bound place done ↔ p.2 ∈ done ∧ place p.2 = p.1 := by
  obtain ⟨a, i⟩ := p
  simp only [bound, List.mem_reverse, List.mem_map, Prod.mk.injEq]
  constructor
  · rintro ⟨k, hk, rfl, rfl⟩
    exact ⟨hk, rfl⟩
  · rintro ⟨hi, rfl⟩
    exact ⟨i, hi, rfl, rfl⟩

/-- When those before it are at their places, the first free candidate of a matcher is its own place. -/
theorem find?_candidates {first : Round} {rest : List Round} (h : Correlated (first :: rest) n place)
    {done left : List Nat} {i : Nat} (horder : Bindings.choiceOrder first.matchers = done ++ i :: left) :
    (Bindings.candidates (first :: rest) i).find? (bound place done).isFree = some (place i) := by
  have hfirst : first ∈ first :: rest := List.mem_cons_self
  have hperm : (done ++ i :: left).Perm (List.range n) := by
    rw [← horder, ← h.count first hfirst]; exact Bindings.choiceOrder_perm _
  have hlt : ∀ {k}, k ∈ done ++ i :: left ↔ k < n := fun {k} => by rw [hperm.mem_iff, List.mem_range]
  have hsorted := Bindings.choiceOrder_sorted first.matchers
  have hnodup : (done ++ i :: left).Nodup := hperm.nodup_iff.mpr List.nodup_range
  have hi : i < n := hlt.mp (by simp)
  obtain ⟨before, after, hsplit⟩ := List.append_of_mem (h.place_mem_candidates (List.cons_ne_nil _ _) hi)
  have hcands := Bindings.candidates_sorted (first :: rest) i
  rw [List.find?_eq_some_iff_append]
  refine ⟨Bindings.isFree_iff.mpr fun p hp => ?_, before, after, hsplit, fun a ha => ?_⟩
  · obtain ⟨hk, hpk⟩ := mem_bound.mp hp
    rw [← hpk]
    refine h.apart p.2 i (hlt.mp (List.mem_append_left _ hk)) hi ?_
    rintro rfl
    exact (List.nodup_append.mp hnodup).2.2 _ hk _ List.mem_cons_self rfl
  -- An earlier candidate is the place of a matcher that cannot be told from this one, and came before it.
  · obtain ⟨j, hj, rfl, hsame⟩ := h.candidate_is_place hi (hsplit ▸ List.mem_append_left _ ha)
    rw [hsplit] at hcands
    have hbefore : (place j).Before (place i) :=
      (List.pairwise_append.mp hcands).2.2 _ ha _ List.mem_cons_self
    have hji : ¬ i < j := fun hij => (h.ordered i j hij hj hsame).asymm hbefore
    have hkind := h.distinguishable_of_same hfirst hj (hsame first hfirst) hi
    have hdone : j ∈ done := by
      rcases List.mem_append.mp (hlt.mpr hj) with hd | hl
      · exact hd
      · rcases List.mem_cons.mp hl with rfl | hl
        · exact absurd hbefore hbefore.asymm
        · rw [horder] at hsorted
          exact absurd ((List.pairwise_cons.mp (List.pairwise_append.mp hsorted).2.1).1 j hl hkind) hji
    have htaken : (bound place done).isFree (place j) = false := by
      rw [Bool.eq_false_iff]
      intro hfree
      have := Bindings.isFree_iff.mp hfree (place j, j) (mem_bound.mpr ⟨hdone, rfl⟩)
      rw [Address.overlaps_self] at this
      cases this
    rw [htaken]; rfl

theorem foldl_choose {first : Round} {rest : List Round} (h : Correlated (first :: rest) n place)
    (done left : List Nat) (horder : Bindings.choiceOrder first.matchers = done ++ left) :
    left.foldl (Bindings.choose (first :: rest)) (bound place done, []) =
      (bound place (Bindings.choiceOrder first.matchers), []) := by
  induction left generalizing done with
  | nil => rw [horder, List.append_nil]; rfl
  | cons i left ih =>
      have hstep : Bindings.choose (first :: rest) (bound place done, []) i = (bound place (done ++ [i]), []) := by
        rw [Bindings.choose, h.find?_candidates horder]
        simp [bound]
      rw [List.foldl_cons, hstep]
      exact ih (done ++ [i]) (by rw [horder]; simp)

/-- Every matcher is bound, and to its own place. -/
theorem bindings {first : Round} {rest : List Round} (h : Correlated (first :: rest) n place) :
    ∃ b, Bindings.ofRounds (first :: rest) = (b, []) ∧ b.Puts place n := by
  refine ⟨_, h.foldl_choose [] _ rfl, fun a i => ?_⟩
  have hperm := Bindings.choiceOrder_perm first.matchers
  rw [h.count first List.mem_cons_self] at hperm
  have hlt : ∀ {k}, k ∈ Bindings.choiceOrder first.matchers ↔ k < n := fun {k} => by
    rw [hperm.mem_iff, List.mem_range]
  have hapart : (bound place (Bindings.choiceOrder first.matchers)).Apart := by
    refine List.pairwise_reverse.mpr (List.pairwise_map.mpr ?_)
    refine (hperm.nodup_iff.mpr List.nodup_range).imp_of_mem fun {k l} hk hl hkl => ?_
    exact h.apart l k (hlt.mp hl) (hlt.mp hk) (Ne.symm hkl)
  rw [hapart.matcherAt?_eq_some_iff, mem_bound, hlt]

/-! ## Trailing arguments -/

theorem no_whole (h : Correlated rounds n place) {i c s e : Nat} (hi : i < n) (hp : place i = ⟨c, s, some e⟩) :
    ∀ k < n, place k ≠ ⟨c, s, none⟩ := by
  intro k hk hw
  have hki : k ≠ i := by rintro rfl; rw [hp] at hw; cases hw
  have := h.apart k i hk hi hki
  simp [hp, hw, Address.overlaps] at this

/-- Beside a wildcard there are no other trailing arguments. -/
theorem only_element (h : Correlated rounds n place) {r : Round} (hr : r ∈ rounds) {i c s e e' : Nat}
    {m : RegisteredMatcher} {v : Value} (hm : r.matchers[i]? = some m) (hw : m.matcher.isVarargWildcard = true)
    (hp : place i = ⟨c, s, some e⟩) (hv : r.valueAt? ⟨c, s, some e'⟩ = some v) : e' = e := by
  obtain ⟨w, hitems⟩ := h.alone r hr i m c s e hm hw hp
  obtain ⟨-, u, hu, -⟩ := h.passed r hr i m hm
  simp only [Round.valueAt?, hp, hitems, Option.bind_some] at hu hv
  have := (List.getElem?_eq_some_iff.mp hu).1
  have := (List.getElem?_eq_some_iff.mp hv).1
  simp only [List.length_singleton] at *
  omega

end Correlated

namespace Resolution

/-- The matcher that decides about an address. A wildcard decides about all trailing arguments. -/
def matcherAt? (res : Resolution) (a : Address) : Option Matcher :=
  match a.element, res.argAt? a.call a.slot with
  | some e, some (.varargs ms) => ms[e]?
  | _, m => m

/-- Every matcher decides about its own place, and literals decide about all others. -/
structure Mirrors (res : Resolution) (r : Round) (place : Placement) : Prop extends res.Follows r place where
  matcher : ∀ i m, r.matchers[i]? = some m → res.matcherAt? (place i) = some m.matcher
  other : ∀ a v, r.valueAt? a = some v → (∀ i < r.matchers.length, (place i).overlaps a = false) →
    (a.element = none → r.varargItems? a.call a.slot = none) → res.matcherAt? a = some (.eq v)

theorem matcherAt?_wildcard {res : Resolution} {c s e : Nat} {m : Matcher} (h : res.argAt? c s = some m)
    (hm : m.isVarargWildcard = true) : res.matcherAt? ⟨c, s, some e⟩ = some m := by
  unfold matcherAt?
  rw [h]
  cases m with
  | varargs ms => cases hm
  | _ => rfl

theorem matcherAt?_element {res : Resolution} {c s e : Nat} {ms : List Matcher}
    (h : res.argAt? c s = some (.varargs ms)) : res.matcherAt? ⟨c, s, some e⟩ = ms[e]? := by
  unfold matcherAt?
  rw [h]

theorem Follows.mirrors {rounds : List Round} {n : Nat} {place : Placement} {res : Resolution} {r : Round}
    (hf : res.Follows r place) (h : Correlated rounds n place) (hr : r ∈ rounds) : res.Mirrors r place where
  toFollows := hf
  matcher i m hm := by
    have hi : i < n := h.count r hr ▸ (List.getElem?_eq_some_iff.mp hm).1
    obtain ⟨-, v, hv, -⟩ := h.passed r hr i m hm
    rcases hp : place i with ⟨c, s, e⟩
    cases e with
    | none => exact hf.whole i m c s hm hp
    | some e =>
        have hnone := h.no_whole hi hp
        rw [← h.count r hr] at hnone
        by_cases hw : m.matcher.isVarargWildcard = true
        · refine matcherAt?_wildcard (hf.wildcard i m c s e hm hp hw hnone fun i' m' e' hm' hp' hlt => ?_) hw
          rw [Bool.eq_false_iff]
          intro hw'
          rw [hp] at hv
          have := h.only_element hr hm' hw' hp' hv
          omega
        · rw [hp] at hv
          obtain ⟨items, hl, -⟩ := Option.bind_eq_some_iff.mp hv
          obtain ⟨ms, hat, -, hms, -⟩ := hf.trailing c s items hl hnone fun i' m' e' hm' hp' => by
            rw [Bool.eq_false_iff]
            intro hw'
            cases h.only_element hr hm' hw' hp' hv
            have hi' : i' < n := h.count r hr ▸ (List.getElem?_eq_some_iff.mp hm').1
            by_cases hii : i' = i
            · cases hii
              cases hm.symm.trans hm'
              exact hw hw'
            · exact Address.ne_of_not_overlaps (h.apart i' i hi' hi hii) (hp'.trans hp.symm)
          rw [matcherAt?_element hat]
          exact hms i m e hm hp
  other a v hv hfree hlist := by
    obtain ⟨c, s, e⟩ := a
    cases e with
    | none => exact hf.literal c s v hv (hlist rfl) fun i hi => Address.ne_of_not_overlaps (hfree i hi)
    | some e =>
        obtain ⟨items, hl, he⟩ := Option.bind_eq_some_iff.mp hv
        have hnone : ∀ i < r.matchers.length, place i ≠ ⟨c, s, none⟩ := fun i hi hp => by
          have := hfree i hi
          simp [hp, Address.overlaps] at this
        obtain ⟨ms, hat, -, -, hms⟩ := hf.trailing c s items hl hnone fun i' m' e' hm' hp' => by
          rw [Bool.eq_false_iff]
          intro hw'
          cases h.only_element hr hm' hw' hp' hv
          exact Address.ne_of_not_overlaps (hfree i' (List.getElem?_eq_some_iff.mp hm').1) hp'
        rw [matcherAt?_element hat]
        exact hms e v he fun i hi => Address.ne_of_not_overlaps (hfree i hi)

theorem ofRounds_follows {first : Round} {rest : List Round} {n : Nat} {place : Placement}
    (h : Correlated (first :: rest) n place) (phase : Phase) :
    ∃ b, ofRounds (first :: rest) phase = .ok (((first :: rest).getLast (List.cons_ne_nil _ _)).resolved b) ∧
      (((first :: rest).getLast (List.cons_ne_nil _ _)).resolved b).Follows
        ((first :: rest).getLast (List.cons_ne_nil _ _)) place := by
  obtain ⟨b, hb, hputs⟩ := h.bindings
  have hagree : ∀ r ∈ rest, first.Agrees r := fun r hr =>
    h.agrees List.mem_cons_self (List.mem_cons_of_mem _ hr)
  refine ⟨b, ofRounds_cons.mpr ⟨hagree, b, hb, rfl⟩, ?_⟩
  have hmem := List.getLast_mem (List.cons_ne_nil first rest)
  refine Round.resolved_follows (h.count _ hmem ▸ hputs) fun i m hm => ?_
  obtain ⟨-, v, hv, -⟩ := h.passed _ hmem i m hm
  exact ⟨v, hv⟩

/-- A block whose matchers stand at known places is resolved, with every matcher in its own place. -/
theorem ofRounds_correlated {rounds : List Round} {n : Nat} {place : Placement} (h : Correlated rounds n place)
    (phase : Phase) : ∃ res, ofRounds rounds phase = .ok res ∧
      ∀ last, rounds.getLast? = some last → res.Mirrors last place := by
  cases rounds with
  | nil => exact ⟨[], rfl, by simp⟩
  | cons first rest =>
      obtain ⟨b, hres, hfollows⟩ := ofRounds_follows h phase
      refine ⟨_, hres, fun last hl => ?_⟩
      cases (List.getLast?_eq_some_getLast (List.cons_ne_nil first rest)).symm.trans hl
      exact hfollows.mirrors h (List.getLast_mem (List.cons_ne_nil first rest))

/-- Where the matchers of `mixedRounds` stand. -/
def mixedPlace : Placement
  | 0 => ⟨0, 1, none⟩
  | _ => ⟨0, 2, some 1⟩

theorem mixedRounds_correlated : Correlated mixedRounds 2 mixedPlace where
  recorded := by
    have hstep : ∀ index : Nat, ∀ s : Store, OpenRound.Recorded (.start index []) s.nextObject :=
      fun index s => .start index [] _
    simp only [mixedRounds, List.mem_cons, List.not_mem_nil, or_false, forall_eq_or_imp, forall_eq]
    constructor
    · exact ⟨_, _, .capture (.register (.register (hstep 0 { nextSequence := 0 })
        { entropy := fun _ => 0 } .any .bool) { entropy := fun _ => 0 } .notNull .int)
        { entropy := fun _ => 0 } ⟨1, "Switch"⟩ _ _ none, rfl⟩
    · exact ⟨_, _, .capture (.register (.register (hstep 1 {})
        { entropy := id, round := 1 } .any .bool) { entropy := id, round := 1 } .notNull .int)
        { entropy := id, round := 1 } ⟨1, "Switch"⟩ _ _ none, rfl⟩
  methods := by decide
  targets r hr j hj := by
    have hlen : ∀ r ∈ mixedRounds, r.calls.length = 1 := by decide
    obtain rfl : j = 0 := by have := hlen r hr; omega
    refine ⟨.fixed 1, ?_⟩
    simp only [mixedRounds, List.mem_cons, List.not_mem_nil, or_false, forall_eq_or_imp, forall_eq]
    exact ⟨⟨_, rfl, rfl, fun i hi => absurd hi (Nat.not_lt_zero i)⟩,
      ⟨_, rfl, rfl, fun i hi => absurd hi (Nat.not_lt_zero i)⟩⟩
  count := by decide
  matchers := by decide
  passed := by
    simp only [mixedRounds, List.mem_cons, List.not_mem_nil, or_false, forall_eq_or_imp, forall_eq]
    constructor <;>
    · rintro (_ | _ | i) m hm <;> cases hm
      · exact ⟨Nat.zero_le _, _, rfl, rfl⟩
      · exact ⟨Nat.zero_le _, _, rfl, rfl⟩
  apart i j hi hj hij := by
    obtain ⟨rfl, rfl⟩ | ⟨rfl, rfl⟩ : i = 0 ∧ j = 1 ∨ i = 1 ∧ j = 0 := by omega
    · rfl
    · rfl
  alone := by
    simp only [mixedRounds, List.mem_cons, List.not_mem_nil, or_false, forall_eq_or_imp, forall_eq]
    constructor <;>
    · rintro (_ | _ | i) m c s e hm hw <;> cases hm <;> cases hw
  told i hi a ha := by
    -- The second round alone tells: no other argument equals a stand-in there.
    obtain ⟨r, hr, hall⟩ : ∃ r ∈ mixedRounds, ∀ p ∈ r.addresses, p.1 = mixedPlace 0 ∨ p.1 = mixedPlace 1 ∨
        ∀ m ∈ r.matchers, (p.2 == m.signature) = false :=
      ⟨_, List.mem_cons_of_mem _ List.mem_cons_self, by decide⟩
    refine ⟨r, hr, fun m v hm hv => ?_⟩
    rcases hall (a, v) (Round.mem_addresses.mpr hv) with h | h | h
    · exact absurd h.symm (ha 0 (by decide))
    · exact absurd h.symm (ha 1 (by decide))
    · exact h m (List.mem_of_getElem? hm)
  ordered i j hij hj _ := by
    obtain ⟨rfl, rfl⟩ : i = 0 ∧ j = 1 := by omega
    exact .inr ⟨rfl, .inl (by decide)⟩

theorem ofRounds_correlated_mixed : Correlated mixedRounds 2 mixedPlace ∧
    ∃ res, ofRounds mixedRounds .stubbing = .ok res ∧
      ∀ last, mixedRounds.getLast? = some last → res.Mirrors last mixedPlace :=
  ⟨mixedRounds_correlated, ofRounds_correlated mixedRounds_correlated .stubbing⟩

end Resolution

end TestDouble
