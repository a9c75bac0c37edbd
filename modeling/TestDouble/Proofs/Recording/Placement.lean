import TestDouble.Proofs.Recording.Choice
import TestDouble.Recording.Resolution

/-!
# Soundness of binding

A block that is resolved has an address for every registered matcher: the stand-ins were there in every
round, the addresses do not overlap, and the resolved arguments are those matchers, and literals elsewhere.
-/

namespace TestDouble

namespace Resolution

/-- The matcher for an argument of a resolved call. -/
def argAt? (res : Resolution) (call slot : Nat) : Option Matcher :=
  res[call]?.bind (·.matcher.args[slot]?)

/-- The resolved calls are those of the round, with the matchers at their addresses and literals elsewhere. -/
structure Follows (res : Resolution) (r : Round) (place : Placement) : Prop where
  calls : res.map (fun c => (c.matcher.target, c.matcher.method, c.matcher.args.length, c.returned)) =
    r.calls.map fun c => (c.call.target, c.call.method, c.call.args.length, c.returned)
  /-- A matcher for a whole argument. -/
  whole : ∀ i m c s, r.matchers[i]? = some m → place i = ⟨c, s, none⟩ → res.argAt? c s = some m.matcher
  /-- An argument that is no list of trailing arguments. -/
  literal : ∀ c s v, r.valueAt? ⟨c, s, none⟩ = some v → r.varargItems? c s = none →
    (∀ i < r.matchers.length, place i ≠ ⟨c, s, none⟩) → res.argAt? c s = some (.eq v)
  /-- Trailing arguments of which none is a wildcard. -/
  trailing : ∀ c s items, r.varargItems? c s = some items →
    (∀ i < r.matchers.length, place i ≠ ⟨c, s, none⟩) →
    (∀ i m e, r.matchers[i]? = some m → place i = ⟨c, s, some e⟩ → m.matcher.isVarargWildcard = false) →
    ∃ ms, res.argAt? c s = some (.varargs ms) ∧ ms.length = items.length ∧
      (∀ i m e, r.matchers[i]? = some m → place i = ⟨c, s, some e⟩ → ms[e]? = some m.matcher) ∧
      ∀ e v, items[e]? = some v → (∀ i < r.matchers.length, place i ≠ ⟨c, s, some e⟩) →
        ms[e]? = some (.eq v)
  /-- The first wildcard among trailing arguments stands for all of them. -/
  wildcard : ∀ i m c s e, r.matchers[i]? = some m → place i = ⟨c, s, some e⟩ →
    m.matcher.isVarargWildcard = true → (∀ i < r.matchers.length, place i ≠ ⟨c, s, none⟩) →
    (∀ i' m' e', r.matchers[i']? = some m' → place i' = ⟨c, s, some e'⟩ → e' < e →
      m'.matcher.isVarargWildcard = false) → res.argAt? c s = some m.matcher

end Resolution

namespace Round

variable {r : Round} {b : Bindings} {place : Placement}

theorem boundMatcher?_of_puts (h : b.Puts place r.matchers.length) {i : Nat} {m : RegisteredMatcher}
    (hm : r.matchers[i]? = some m) : r.boundMatcher? b (place i) = some m.matcher := by
  have hi : b.matcherAt? (place i) = some i := (h _ i).mpr ⟨(List.getElem?_eq_some_iff.mp hm).1, rfl⟩
  simp [boundMatcher?, hi, hm]

theorem boundMatcher?_eq_none (h : b.Puts place r.matchers.length) {a : Address}
    (ha : ∀ i < r.matchers.length, place i ≠ a) : r.boundMatcher? b a = none := by
  cases hb : b.matcherAt? a with
  | none => simp [boundMatcher?, hb]
  | some i =>
      obtain ⟨hi, hp⟩ := (h a i).mp hb
      exact absurd hp (ha i hi)

theorem resolved_getElem? (r : Round) (b : Bindings) (k : Nat) : (r.resolved b)[k]? = r.calls[k]?.map fun c =>
    { matcher := r.callMatcher b (c, k), returned := c.returned
      chainParent := latestReturning? (r.calls.take k) c.call.target.id
      intermediate := r.intermediates.contains k } := by
  simp only [resolved, List.getElem?_map, List.getElem?_zipIdx, Option.map_map, Nat.zero_add]
  rfl

@[simp] theorem length_resolved (r : Round) (b : Bindings) : (r.resolved b).length = r.calls.length := by
  rw [resolved, List.length_map, List.length_zipIdx]

theorem resolved_calls (r : Round) (b : Bindings) :
    (r.resolved b).map (fun c => (c.matcher.target, c.matcher.method, c.matcher.args.length, c.returned)) =
      r.calls.map fun c => (c.call.target, c.call.method, c.call.args.length, c.returned) := by
  apply List.ext_getElem?
  intro i
  simp only [List.getElem?_map, resolved_getElem?, callMatcher]
  cases r.calls[i]? <;> simp

theorem argAt?_resolved (c s : Nat) : (r.resolved b).argAt? c s =
    r.calls[c]?.bind fun call => call.call.args[s]?.map fun v =>
      r.argMatcher b c call.call.method.varargSlot? (v, s) := by
  simp only [Resolution.argAt?, resolved, callMatcher, List.getElem?_map, List.getElem?_zipIdx, Nat.zero_add]
  cases r.calls[c]? with
  | none => rfl
  | some call => cases h : call.call.args[s]? <;> simp [h]

theorem valueAt?_slot {c s : Nat} {v : Value} : r.valueAt? ⟨c, s, none⟩ = some v ↔
    ∃ call, r.calls[c]? = some call ∧ call.call.args[s]? = some v := by
  simp [valueAt?, Option.bind_eq_some_iff]

theorem varargItems?_eq_some {c s : Nat} {items : List Value} : r.varargItems? c s = some items ↔
    ∃ call, r.calls[c]? = some call ∧ call.call.method.varargSlot? = some s ∧
      call.call.args[s]? = some (.list items) := by
  simp only [varargItems?]
  grind

/-- The matchers for the trailing arguments of a call, one by one. -/
def elementMatchers (r : Round) (b : Bindings) (c s : Nat) (items : List Value) : List Matcher :=
  items.zipIdx.map fun item => (r.boundMatcher? b ⟨c, s, some item.2⟩).getD (.eq item.1)

theorem elementMatchers_getElem? (c s : Nat) (items : List Value) (e : Nat) :
    (r.elementMatchers b c s items)[e]? =
      items[e]?.map fun v => (r.boundMatcher? b ⟨c, s, some e⟩).getD (.eq v) := by
  simp only [elementMatchers, List.getElem?_map, List.getElem?_zipIdx, Nat.zero_add, Option.map_map]
  rfl

theorem argAt?_of_literal (c s : Nat) {v : Value} (hv : r.valueAt? ⟨c, s, none⟩ = some v)
    (hl : r.varargItems? c s = none) (hb : r.boundMatcher? b ⟨c, s, none⟩ = none) :
    (r.resolved b).argAt? c s = some (.eq v) := by
  obtain ⟨call, hc, hs⟩ := valueAt?_slot.mp hv
  have hn : ∀ items, v = .list items → call.call.method.varargSlot? ≠ some s := by
    rintro items rfl h
    rw [varargItems?_eq_some.mpr ⟨call, hc, h, hs⟩] at hl
    cases hl
  rw [argAt?_resolved, hc, Option.bind_some, hs, Option.map_some, argMatcher, hb]
  cases v with
  | list items => simp [hn items rfl]
  | _ => rfl

theorem argAt?_of_trailing (c s : Nat) {items : List Value} (hl : r.varargItems? c s = some items)
    (hb : r.boundMatcher? b ⟨c, s, none⟩ = none) : (r.resolved b).argAt? c s =
      some (((r.elementMatchers b c s items).find? Matcher.isVarargWildcard).getD
        (.varargs (r.elementMatchers b c s items))) := by
  obtain ⟨call, hc, hv, hs⟩ := varargItems?_eq_some.mp hl
  rw [argAt?_resolved, hc, Option.bind_some, hs, Option.map_some, argMatcher, hb]
  simp [hv, elementMatchers]

/-- The wildcards among the trailing arguments are those that were bound there. -/
theorem elementMatchers_wildcard (h : b.Puts place r.matchers.length) {c s e : Nat} {items : List Value} {w : Matcher}
    (hw : (r.elementMatchers b c s items)[e]? = some w) (hwild : w.isVarargWildcard = true) :
    ∃ i m, r.matchers[i]? = some m ∧ place i = ⟨c, s, some e⟩ ∧ m.matcher = w := by
  rw [elementMatchers_getElem?] at hw
  obtain ⟨v, hv, rfl⟩ := Option.map_eq_some_iff.mp hw
  cases hb : b.matcherAt? ⟨c, s, some e⟩ with
  | none => simp [boundMatcher?, hb, Matcher.isVarargWildcard] at hwild
  | some i =>
      obtain ⟨hi, hp⟩ := (h _ i).mp hb
      refine ⟨i, r.matchers[i], List.getElem?_eq_getElem hi, hp, ?_⟩
      simp [boundMatcher?, hb, List.getElem?_eq_getElem hi]

/-- A wildcard is found first where no earlier trailing argument is one. -/
theorem find?_elementMatchers (h : b.Puts place r.matchers.length) {i c s e : Nat} {m : RegisteredMatcher}
    {items : List Value} (hm : r.matchers[i]? = some m) (hp : place i = ⟨c, s, some e⟩) (he : e < items.length)
    (hwild : m.matcher.isVarargWildcard = true)
    (hfirst : ∀ i' m' e', r.matchers[i']? = some m' → place i' = ⟨c, s, some e'⟩ → e' < e →
      m'.matcher.isVarargWildcard = false) :
    (r.elementMatchers b c s items).find? Matcher.isVarargWildcard = some m.matcher := by
  have hget : (r.elementMatchers b c s items)[e]? = some m.matcher := by
    rw [elementMatchers_getElem?, List.getElem?_eq_getElem he, ← hp, boundMatcher?_of_puts h hm]; rfl
  obtain ⟨hlt, hget⟩ := List.getElem?_eq_some_iff.mp hget
  rw [List.find?_eq_some_iff_getElem]
  refine ⟨hwild, e, hlt, hget, fun k hk => ?_⟩
  have hklt : k < (r.elementMatchers b c s items).length := Nat.lt_trans hk hlt
  by_contra hw
  have hw' : (r.elementMatchers b c s items)[k].isVarargWildcard = true := by simpa using hw
  obtain ⟨i', m', hm', hp', heq⟩ :=
    elementMatchers_wildcard h (List.getElem?_eq_getElem hklt) hw'
  rw [← heq, hfirst i' m' k hm' hp' hk] at hw'
  cases hw'

/-- The arguments of a resolved round are what its bindings say. -/
theorem resolved_follows (h : b.Puts place r.matchers.length)
    (hv : ∀ i m, r.matchers[i]? = some m → ∃ v, r.valueAt? (place i) = some v) :
    (r.resolved b).Follows r place where
  calls := r.resolved_calls b
  whole i m c s hm hp := by
    obtain ⟨v, hat⟩ := hv i m hm
    obtain ⟨call, hc, hs⟩ := valueAt?_slot.mp (hp ▸ hat)
    rw [argAt?_resolved, hc, Option.bind_some, hs, Option.map_some, argMatcher, ← hp, boundMatcher?_of_puts h hm]
  literal c s v hat hl hfree := argAt?_of_literal c s hat hl (boundMatcher?_eq_none h hfree)
  trailing c s items hl hfree hplain := by
    have hnone : (r.elementMatchers b c s items).find? Matcher.isVarargWildcard = none := by
      rw [List.find?_eq_none]
      intro w hw hwild
      obtain ⟨e, he⟩ := List.getElem?_of_mem hw
      obtain ⟨i, m, hm, hp, rfl⟩ := elementMatchers_wildcard h he hwild
      rw [hplain i m e hm hp] at hwild
      cases hwild
    refine ⟨r.elementMatchers b c s items, ?_, by simp [elementMatchers], ?_, ?_⟩
    · rw [argAt?_of_trailing c s hl (boundMatcher?_eq_none h hfree), hnone]; rfl
    · intro i m e hm hp
      obtain ⟨v, hat⟩ := hv i m hm
      simp only [valueAt?, hp, hl, Option.bind_some] at hat
      rw [elementMatchers_getElem?, hat, ← hp, boundMatcher?_of_puts h hm]; rfl
    · intro e v he hfree'
      rw [elementMatchers_getElem?, he, boundMatcher?_eq_none h hfree']; rfl
  wildcard i m c s e hm hp hwild hfree hfirst := by
    obtain ⟨v, hat⟩ := hv i m hm
    simp only [valueAt?, hp] at hat
    obtain ⟨items, hl, he⟩ := Option.bind_eq_some_iff.mp hat
    have hlt : e < items.length := (List.getElem?_eq_some_iff.mp he).1
    rw [argAt?_of_trailing c s hl (boundMatcher?_eq_none h hfree),
      find?_elementMatchers h hm hp hlt hwild hfirst]
    rfl

/-! ## Consistent rounds -/

/-- Rounds that make the same calls on the same targets and register the same matchers. -/
structure Agrees (first r : Round) : Prop where
  methods : r.calls.map (·.call.method) = first.calls.map (·.call.method)
  matchers : r.matchers.map (·.matcher.text) = first.matchers.map (·.matcher.text)
  roles : r.roles = first.roles

theorem firstDifference?_eq_none {α β : Type} [BEq β] [LawfulBEq β] {f : α → β} {as bs : List α}
    (hlen : bs.length = as.length) : firstDifference? f as bs = none ↔ bs.map f = as.map f := by
  simp only [firstDifference?, List.find?_eq_none, bne_iff_ne, ne_eq, not_not]
  constructor
  · intro h
    refine List.ext_getElem (by simpa using hlen) fun i hb ha => ?_
    simp only [List.length_map] at ha hb
    have hz : (as.zip bs)[i]? = some (as[i], bs[i]) :=
      List.getElem?_zip_eq_some.mpr ⟨List.getElem?_eq_getElem ha, List.getElem?_eq_getElem hb⟩
    simpa using (h ((as[i], bs[i]), i) (List.mk_mem_zipIdx_iff_getElem?.mpr hz)).symm
  · rintro h ⟨⟨a, b⟩, i⟩ hp
    obtain ⟨ha, hb⟩ := List.getElem?_zip_eq_some.mp (List.mk_mem_zipIdx_iff_getElem?.mp hp)
    have hi := congrArg (·[i]?) h
    simpa [ha, hb] using hi.symm

/-- A difference is reported exactly where there is one. -/
theorem inconsistency?_eq_none {first r : Round} : first.inconsistency? r = none ↔ first.Agrees r := by
  unfold inconsistency?
  by_cases hc : r.calls.length = first.calls.length
  · by_cases hm : r.matchers.length = first.matchers.length
    · have hmethods := firstDifference?_eq_none (f := fun c : CapturedCall => c.call.method) hc
      have htexts := firstDifference?_eq_none (f := fun m : RegisteredMatcher => m.matcher.text) hm
      cases hd : firstDifference? (fun c : CapturedCall => c.call.method) first.calls r.calls with
      | some d =>
          rw [hd] at hmethods
          simp only [hc, hm, ne_eq, not_true_eq_false, ↓reduceIte, reduceCtorEq, false_iff]
          exact fun h => absurd (hmethods.mpr h.methods) (by simp)
      | none =>
          cases ht : firstDifference? (fun m : RegisteredMatcher => m.matcher.text) first.matchers r.matchers with
          | some d =>
              rw [ht] at htexts
              simp only [hc, hm, ne_eq, not_true_eq_false, ↓reduceIte, reduceCtorEq, false_iff]
              exact fun h => absurd (htexts.mpr h.matchers) (by simp)
          | none =>
              simp only [hc, hm, ne_eq, not_true_eq_false, ↓reduceIte]
              by_cases hr : r.roles = first.roles
              · simpa [hr] using ⟨hmethods.mp hd, htexts.mp ht, hr⟩
              · simpa [hr] using fun h : first.Agrees r => hr h.roles
    · simpa [hc, hm] using fun h : first.Agrees r => hm (by simpa using congrArg List.length h.matchers)
  · simpa [hc] using fun h : first.Agrees r => hc (by simpa using congrArg List.length h.methods)

instance (first r : Round) : Decidable (first.Agrees r) :=
  decidable_of_iff ((first.inconsistency? r).isNone = true) (Option.isNone_iff_eq_none.trans inconsistency?_eq_none)

theorem Agrees.length_matchers {first r : Round} (h : first.Agrees r) :
    r.matchers.length = first.matchers.length := by simpa using congrArg List.length h.matchers

end Round

namespace Resolution

theorem ofRounds_cons {first : Round} {rest : List Round} {phase : Phase} {res : Resolution} :
    ofRounds (first :: rest) phase = .ok res ↔ (∀ r ∈ rest, first.Agrees r) ∧
      ∃ b, Bindings.ofRounds (first :: rest) = (b, []) ∧
        res = ((first :: rest).getLast (List.cons_ne_nil _ _)).resolved b := by
  have hlast := List.getLast?_eq_some_getLast (List.cons_ne_nil first rest)
  have hnone : rest.findSome? first.inconsistency? = none ↔ ∀ r ∈ rest, first.Agrees r := by
    simp only [List.findSome?_eq_none_iff, Round.inconsistency?_eq_none]
  simp only [ofRounds, List.head?_cons, hlast, List.tail_cons]
  cases hf : rest.findSome? first.inconsistency? with
  | some reason =>
      have hn : ¬ ∀ r ∈ rest, first.Agrees r := fun h => by rw [hnone.mpr h] at hf; cases hf
      simp [hn]
  | none =>
      have hy : (∀ r ∈ rest, first.Agrees r) = True := eq_true (hnone.mp hf)
      cases Bindings.ofRounds (first :: rest) with
      | mk b unresolved => cases unresolved <;> simp [hy, eq_comm]

/-- Without matchers there is nothing to bind. -/
theorem ofRounds_of_no_matchers {first : Round} {rest : List Round} (hagree : ∀ r ∈ rest, first.Agrees r)
    (hnone : first.matchers = []) (phase : Phase) : ofRounds (first :: rest) phase =
      .ok (((first :: rest).getLast (List.cons_ne_nil first rest)).resolved []) := by
  have hbindings : Bindings.ofRounds (first :: rest) = ([], []) := by
    simp [Bindings.ofRounds, hnone, Bindings.choiceOrder]
  exact ofRounds_cons.mpr ⟨hagree, [], hbindings, rfl⟩

/-- Where a block is resolved, the bindings are a placement of its matchers, and the resolved calls follow it. -/
theorem exists_placed {rounds : List Round} {phase : Phase} {res : Resolution} {last : Round}
    (h : ofRounds rounds phase = .ok res) (hlast : rounds.getLast? = some last) :
    res = last.resolved (Bindings.ofRounds rounds).1 ∧ ∃ place : Placement,
      (Bindings.ofRounds rounds).1.Puts place last.matchers.length ∧ place.Apart last.matchers.length ∧
      (∀ r ∈ rounds, r.matchers.length = last.matchers.length ∧ place.Passed r) ∧ res.Follows last place := by
  cases rounds with
  | nil => cases hlast
  | cons first rest =>
      obtain ⟨hagree, b, hb, rfl⟩ := ofRounds_cons.mp h
      cases (List.getLast?_eq_some_getLast (List.cons_ne_nil first rest)).symm.trans hlast
      have hlen : ∀ r ∈ first :: rest, r.matchers.length = first.matchers.length := fun r hr =>
        (List.mem_cons.mp hr).elim (by rintro rfl; rfl) fun hr => (hagree r hr).length_matchers
      have hchosen := Bindings.Chosen.ofRounds first rest
      rw [hb] at hchosen ⊢
      obtain ⟨place, hputs, hapart, hcand⟩ := Bindings.exists_placement hchosen
        ((List.reverse_perm _).trans (Bindings.choiceOrder_perm _))
      have hpassed : ∀ r ∈ first :: rest, place.Passed r := by
        intro r hr i m hm
        have hi : i < first.matchers.length := hlen r hr ▸ (List.getElem?_eq_some_iff.mp hm).1
        obtain ⟨m', v, hm', hp, hv, hs⟩ :=
          Round.mem_possible.mp ((Bindings.mem_candidates.mp (hcand i hi)).2 r hr)
        cases hm.symm.trans hm'
        exact ⟨hp, v, hv, hs⟩
      have hmem := List.getLast_mem (List.cons_ne_nil first rest)
      have hlast := hlen _ hmem
      refine ⟨rfl, place, hlast ▸ hputs, hlast ▸ hapart, fun r hr => ⟨(hlen r hr).trans hlast.symm, hpassed r hr⟩, ?_⟩
      refine Round.resolved_follows (hlast ▸ hputs) fun i m hm => ?_
      obtain ⟨-, v, hv, -⟩ := hpassed _ hmem i m hm
      exact ⟨v, hv⟩

/-- Whatever a block did, when it is resolved every registered matcher has an address of its own. -/
theorem ofRounds_places {rounds : List Round} {phase : Phase} {res : Resolution}
    (h : ofRounds rounds phase = .ok res) : ∃ place : Placement,
      (∀ r ∈ rounds, place.Apart r.matchers.length ∧ place.Passed r) ∧
      ∀ last, rounds.getLast? = some last → res.Follows last place := by
  cases rounds with
  | nil => exact ⟨fun _ => ⟨0, 0, none⟩, by simp, by simp⟩
  | cons first rest =>
      obtain ⟨hagree, b, hb, rfl⟩ := ofRounds_cons.mp h
      have hlen : ∀ r ∈ first :: rest, r.matchers.length = first.matchers.length := fun r hr =>
        (List.mem_cons.mp hr).elim (by rintro rfl; rfl) fun hr => (hagree r hr).length_matchers
      have hchosen := Bindings.Chosen.ofRounds first rest
      rw [hb] at hchosen
      obtain ⟨place, hputs, hapart, hcand⟩ := Bindings.exists_placement hchosen
        ((List.reverse_perm _).trans (Bindings.choiceOrder_perm _))
      have hpassed : ∀ r ∈ first :: rest, place.Passed r := by
        intro r hr i m hm
        have hi : i < first.matchers.length := hlen r hr ▸ (List.getElem?_eq_some_iff.mp hm).1
        obtain ⟨m', v, hm', hp, hv, hs⟩ :=
          Round.mem_possible.mp ((Bindings.mem_candidates.mp (hcand i hi)).2 r hr)
        cases hm.symm.trans hm'
        exact ⟨hp, v, hv, hs⟩
      refine ⟨place, fun r hr => ⟨hlen r hr ▸ hapart, hpassed r hr⟩, fun last hl => ?_⟩
      cases (List.getLast?_eq_some_getLast (List.cons_ne_nil first rest)).symm.trans hl
      have hmem := List.getLast_mem (List.cons_ne_nil first rest)
      refine Round.resolved_follows (hlen _ hmem ▸ hputs) fun i m hm => ?_
      obtain ⟨-, v, hv, -⟩ := hpassed _ hmem i m hm
      exact ⟨v, hv⟩

/-- Two rounds of a call with a flag that equals its stand-in once, and a list that ends in a stand-in. -/
def mixedRounds : List Round :=
  let method : Method := { name := "m", params := [.bool, .bool, .list .int], returns := .unit, vararg := true }
  let round := fun (index : Nat) (flag : Bool) (n : Int32) =>
    let args : List Value := [.bool true, .bool flag, .list [.int 1, .int n]]
    ({ index
       calls := [⟨⟨⟨1, "Switch"⟩, method, args, index, none⟩, .unit, false⟩]
       matchers := [⟨.any, .bool flag, false, 0⟩, ⟨.notNull, .int n, true, 0⟩] } : Round)
  [round 0 true 536870912, round 1 false 536870913]

theorem ofRounds_places_mixed : ∃ res, ofRounds mixedRounds .stubbing = .ok res ∧ ∃ place : Placement,
    (∀ r ∈ mixedRounds, place.Apart r.matchers.length ∧ place.Passed r) ∧
      ∀ last, mixedRounds.getLast? = some last → res.Follows last place := by
  obtain ⟨res, h⟩ : ∃ res, ofRounds mixedRounds .stubbing = .ok res := ⟨_, rfl⟩
  exact ⟨res, h, ofRounds_places h⟩

end Resolution

end TestDouble
