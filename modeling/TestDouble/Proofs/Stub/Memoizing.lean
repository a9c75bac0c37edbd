import TestDouble.Proofs.Recording.Hinting
import TestDouble.Proofs.Session.Installing
import TestDouble.Proofs.Stub.Searching
import TestDouble.Proofs.Verification.Exact

/-!
# Children that are remembered

A relaxed mock creates a child for a call that differs from all before it, with an entry that gives the child to
every call that is the same. Its table can be told from the calls made so far: one entry for each that differs from
all before it, which counts the calls that are the same.
-/

namespace TestDouble

/-! ## The first of each kind -/

namespace Round

variable {α : Type} {same : α → α → Bool}

/-- A later element is kept if it differs from all before it. -/
theorem distinctBy_concat (as : List α) (a : α) :
    distinctBy same (as ++ [a]) = distinctBy same as ++ if as.any (same · a) then [] else [a] := by
  induction as with
  | nil => rfl
  | cons b as ih =>
      rw [List.cons_append, distinctBy, distinctBy, ih, List.filter_append, List.any_cons, List.cons_append]
      cases hb : same b a <;> cases as.any (same · a) <;> simp [hb]

theorem mem_of_mem_distinctBy {a : α} : {as : List α} → a ∈ distinctBy same as → a ∈ as
  | _ :: _, h => by
      rcases List.mem_cons.mp h with rfl | h
      · exact List.mem_cons_self
      · exact List.mem_cons_of_mem _ (mem_of_mem_distinctBy (List.mem_filter.mp h).1)

/-- What is kept differs. -/
theorem pairwise_distinctBy : (as : List α) → (distinctBy same as).Pairwise fun a b => same a b = false
  | [] => .nil
  | a :: as => by
      refine .cons (fun b hb => ?_) ((pairwise_distinctBy as).filter _)
      simpa using (List.mem_filter.mp hb).2

/-- Every kind is kept. -/
theorem exists_mem_distinctBy (htrans : ∀ {a b c}, same a b = true → same b c = true → same a c = true) {a : α} :
    {as : List α} → as.any (same · a) = true → ∃ b ∈ distinctBy same as, same b a = true
  | b :: as, h => by
      rw [List.any_cons, Bool.or_eq_true] at h
      rcases h with h | h
      · exact ⟨b, List.mem_cons_self, h⟩
      · obtain ⟨c, hc, hca⟩ := exists_mem_distinctBy htrans h
        cases hbc : same b c with
        | true => exact ⟨b, List.mem_cons_self, htrans hbc hca⟩
        | false => exact ⟨c, List.mem_cons_of_mem b (List.mem_filter.mpr ⟨hc, by rw [hbc]; rfl⟩), hca⟩

theorem map_distinctBy {β : Type} {same' : β → β → Bool} {f : α → β} (hf : ∀ a b, same' (f a) (f b) = same a b)
    (as : List α) : (distinctBy same as).map f = distinctBy same' (as.map f) := by
  induction as with
  | nil => rfl
  | cons a as ih =>
      rw [distinctBy, List.map_cons, List.map_cons, distinctBy, ← ih, List.filter_map]
      exact congrArg (fun p => f a :: ((distinctBy same as).filter p).map f) (funext fun b => by simp [hf])

end Round

theorem Call.sameAs_symm {c d : Call} (h : c.sameAs d = true) : d.sameAs c = true := by
  simp only [sameAs, Bool.and_eq_true, ObjectRef.beq_iff, beq_iff_eq, ← Value.list_beq] at h ⊢
  exact ⟨⟨h.1.1.symm, h.1.2.symm⟩, PartialEquivBEq.symm h.2⟩

theorem CallMatcher.exact_repeats {c d : Call} (h : c.Repeats d) : exact c = exact d := by
  rw [exact, exact, h.target, h.method, h.args]

/-! ## Calls and their children -/

/-- The calls made on a mock, each with the child that it returned, the oldest first. -/
abbrev Handouts := List (Call × ObjectRef)

namespace Handouts

/-- The calls that differ from all before them. -/
def firsts (made : Handouts) : Handouts := Round.distinctBy (fun p q => p.1.sameAs q.1) made

/-- An entry for every first call, which counts the calls that are the same. -/
def table (made : Handouts) : List Entry :=
  made.firsts.zipIdx.map fun m =>
    ⟨m.2, .exact m.1.1, .constant (.object m.1.2), made.countP fun p => m.1.1.sameAs p.1⟩

variable {made : Handouts} {c : Call} {o : ObjectRef}

theorem mem_of_mem_table {e : Entry} (he : e ∈ made.table) : ∃ p ∈ made, e.matcher = .exact p.1 := by
  obtain ⟨m, hm, rfl⟩ := List.mem_map.mp he
  exact ⟨m.1, Round.mem_of_mem_distinctBy (List.fst_mem_of_mem_zipIdx hm), rfl⟩

theorem exists_mem_table {p : Call × ObjectRef} (hp : p ∈ made.firsts) : ∃ e ∈ made.table, e.matcher = .exact p.1 := by
  obtain ⟨j, hj⟩ := List.mem_iff_getElem?.mp hp
  exact ⟨_, List.mem_map_of_mem (a := (p, j)) (List.mem_zipIdx_iff_getElem?.mpr hj), rfl⟩

theorem id_lt_of_mem_table {e : Entry} (he : e ∈ made.table) : e.id < made.firsts.length := by
  obtain ⟨m, hm, rfl⟩ := List.mem_map.mp he
  exact List.snd_lt_of_mem_zipIdx hm

theorem firsts_repeated {p : Call × ObjectRef} (hp : p ∈ made) (hsame : p.1.sameAs c = true) (o : ObjectRef) :
    firsts (made ++ [(c, o)]) = made.firsts := by
  have hany : made.any (fun p => p.1.sameAs c) = true := List.any_eq_true.mpr ⟨p, hp, hsame⟩
  rw [firsts, Round.distinctBy_concat, if_pos hany, List.append_nil, firsts]

theorem pairwise_firsts (made : Handouts) : made.firsts.Pairwise fun p q => p.1.sameAs q.1 = false :=
  Round.pairwise_distinctBy made

/-- Every call is the same as a first one. -/
theorem exists_first {p : Call × ObjectRef} (hp : p ∈ made) (hsame : p.1.sameAs c = true) :
    ∃ q ∈ made.firsts, q.1.sameAs c = true := by
  let same (p q : Call × ObjectRef) : Bool := p.1.sameAs q.1
  have htrans {p q r} (hpq : same p q = true) (hqr : same q r = true) : same p r = true := Call.sameAs_trans hpq hqr
  have hany : made.any (same · (c, p.2)) = true := List.any_eq_true.mpr ⟨p, hp, hsame⟩
  exact Round.exists_mem_distinctBy @htrans hany

/-- The entries do not depend on the children. -/
theorem map_table (made : Handouts) : made.table.map (fun e => (e.matcher, e.hits)) =
    (Round.distinctBy Call.sameAs (made.map (·.1))).map fun c =>
      (CallMatcher.exact c, (made.map (·.1)).countP c.sameAs) := by
  have hfirsts : made.firsts.map (·.1) = Round.distinctBy Call.sameAs (made.map (·.1)) :=
    Round.map_distinctBy (fun _ _ => rfl) made
  rw [← hfirsts, table, List.map_map, List.map_map, ← List.zipIdx_map_fst 0 made.firsts, List.map_map,
    List.zipIdx_map_fst]
  refine List.map_congr_left fun m _ => ?_
  simp only [Function.comp_apply, List.countP_map]
  rfl

/-- Two first calls are not the same as one call. -/
theorem eq_of_sameAs {m m' : (Call × ObjectRef) × Nat} (hm : m ∈ made.firsts.zipIdx) (hm' : m' ∈ made.firsts.zipIdx)
    (hsame : m.1.1.sameAs c = true) (hsame' : m'.1.1.sameAs c = true) : m' = m := by
  obtain ⟨hj, hmj⟩ := List.getElem?_eq_some_iff.mp (List.mem_zipIdx_iff_getElem?.mp hm)
  obtain ⟨hj', hmj'⟩ := List.getElem?_eq_some_iff.mp (List.mem_zipIdx_iff_getElem?.mp hm')
  have hapart := List.pairwise_iff_getElem.mp made.pairwise_firsts
  rcases Nat.lt_trichotomy m'.2 m.2 with hlt | heq | hlt
  · have hne := hapart _ _ hj' hj hlt
    rw [hmj', hmj, Call.sameAs_trans hsame' (Call.sameAs_symm hsame)] at hne
    cases hne
  · refine Prod.ext ?_ heq
    simp only [← hmj, ← hmj', heq]
  · have hne := hapart _ _ hj hj' hlt
    rw [hmj', hmj, Call.sameAs_trans hsame (Call.sameAs_symm hsame')] at hne
    cases hne

/-- A call that is the same as a first call is counted by its entry. -/
theorem table_repeated {m : (Call × ObjectRef) × Nat} (hm : m ∈ made.firsts.zipIdx) (hsame : m.1.1.sameAs c = true)
    (o : ObjectRef) : table (made ++ [(c, o)]) =
      made.table.map fun e => if e.id == m.2 then { e with hits := e.hits + 1 } else e := by
  rw [table, firsts_repeated (Round.mem_of_mem_distinctBy (List.fst_mem_of_mem_zipIdx hm)) hsame, table, List.map_map]
  refine List.map_congr_left fun m' hm' => ?_
  rw [Function.comp_apply, List.countP_append, List.countP_singleton]
  by_cases h : m'.1.1.sameAs c = true
  · have heq := congrArg Prod.snd (eq_of_sameAs hm hm' hsame h)
    rw [if_pos h, if_pos (beq_iff_eq.mpr heq)]
  · have hne : m'.2 ≠ m.2 := fun heq => h (by
      rw [List.mem_zipIdx_iff_getElem?] at hm hm'
      rwa [Option.some.inj (hm'.symm.trans (heq ▸ hm))])
    rw [if_neg h, if_neg (by simpa using hne)]
    rfl

theorem firsts_new (hnew : ∀ p ∈ made, p.1.sameAs c = false) (o : ObjectRef) :
    firsts (made ++ [(c, o)]) = made.firsts ++ [(c, o)] := by
  have hany : made.any (fun p => p.1.sameAs c) = false := by
    rw [List.any_eq_false]
    exact fun p hp => Bool.eq_false_iff.mp (hnew p hp)
  rw [firsts, Round.distinctBy_concat, hany]
  rfl

/-- A call that differs from all before it gets an entry, which counts it. -/
theorem table_new (hnew : ∀ p ∈ made, p.1.sameAs c = false) (hself : c.sameAs c = true) (o : ObjectRef) :
    table (made ++ [(c, o)]) = made.table ++ [⟨made.firsts.length, .exact c, .constant (.object o), 1⟩] := by
  have hother : made.countP (fun p => c.sameAs p.1) = 0 :=
    List.countP_eq_zero.mpr fun p hp h => Bool.eq_false_iff.mp (hnew p hp) (Call.sameAs_symm h)
  rw [table, firsts_new hnew, List.zipIdx_append, List.map_append, table]
  refine congrArg₂ (· ++ ·) (List.map_congr_left fun m hm => ?_) ?_
  · have hm := hnew m.1 (Round.mem_of_mem_distinctBy (List.fst_mem_of_mem_zipIdx hm))
    rw [List.countP_append, List.countP_singleton, hm]
    rfl
  · simp [List.countP_append, hother, hself]

/-- These two return the same child exactly if they are the same. -/
structure Agree (p q : Call × ObjectRef) : Prop where
  same : p.1.sameAs q.1 = true → p.2 = q.2
  apart : p.2.id = q.2.id → p.1.sameAs q.1 = true

theorem Agree.symm {p q : Call × ObjectRef} (h : Agree p q) : Agree q p :=
  ⟨fun hsame => (h.same (Call.sameAs_symm hsame)).symm, fun hid => Call.sameAs_symm (h.apart hid.symm)⟩

/-- Exactly the calls that are the same return the same child. -/
structure Shared (made : Handouts) : Prop where
  comparable : ∀ p ∈ made, p.1.Comparable
  agree : ∀ p ∈ made, ∀ q ∈ made, Agree p q

theorem Shared.concat (h : made.Shared) (hc : c.Comparable) (hagree : ∀ p ∈ made, Agree p (c, o)) :
    Shared (made ++ [(c, o)]) where
  comparable := List.forall_mem_append.mpr ⟨h.comparable, List.forall_mem_singleton.mpr hc⟩
  agree := List.forall_mem_append.mpr
    ⟨fun p hp => List.forall_mem_append.mpr ⟨h.agree p hp, List.forall_mem_singleton.mpr (hagree p hp)⟩,
      List.forall_mem_singleton.mpr (List.forall_mem_append.mpr
        ⟨fun p hp => (hagree p hp).symm, List.forall_mem_singleton.mpr ⟨fun _ => rfl, fun _ => hc.sameAs_self⟩⟩)⟩

/-- A call that is the same as an earlier one returns the child of that. -/
theorem Shared.repeated (h : made.Shared) (hc : c.Comparable) {p : Call × ObjectRef} (hp : p ∈ made)
    (hsame : p.1.sameAs c = true) : Shared (made ++ [(c, p.2)]) :=
  h.concat hc fun q hq =>
    ⟨fun hqc => (h.agree q hq p hp).same (Call.sameAs_trans hqc (Call.sameAs_symm hsame)),
      fun hid => Call.sameAs_trans ((h.agree q hq p hp).apart hid) hsame⟩

/-- Any other call returns a child of its own. -/
theorem Shared.new (h : made.Shared) (hc : c.Comparable) (hnew : ∀ p ∈ made, p.1.sameAs c = false)
    (ho : ∀ p ∈ made, p.2.id ≠ o.id) : Shared (made ++ [(c, o)]) :=
  h.concat hc fun q hq => ⟨fun hqc => absurd hqc (Bool.eq_false_iff.mp (hnew q hq)), fun hid => absurd hid (ho q hq)⟩

end Handouts

/-! ## Resolving a call without effects -/

namespace Store

variable {s : Store} {mock : Nat} {stub : Stub}

/-- Matchers that only look at the values leave everything as it is. -/
theorem tested_pure (hstub : s.registry.stub? mock = some stub)
    (hp : ∀ e ∈ stub.entries, Matcher.PureEach e.matcher.args) (c : Call) : ∃ found,
      s.tested mock c = (found, s) ∧ found.map (·.2) = stub.candidates.find? (·.matcher.admits c) := by
  obtain ⟨found, hfound, hnewest⟩ := Probe.findIdx?_eq fun (e : Entry) (he : e ∈ stub.candidates) =>
    CallMatcher.test_eq_admits (hp e (List.mem_reverse.mp he)) c
  refine ⟨found, ?_, hnewest⟩
  rw [tested, hstub, Option.map_some, Option.getD_some, hfound]
  rfl

/-- The newest entry that accepts the call serves it. -/
theorem resolve_pure (hstub : s.registry.stub? mock = some stub) (hsound : stub.Sound)
    (hp : ∀ e ∈ stub.entries, Matcher.PureEach e.matcher.args) (c : Call) (log : Bool) :
    s.resolve mock c log = match stub.candidates.find? (·.matcher.admits c) with
      | none => (none, s.noted mock c log)
      | some e =>
        (some (e.answer.select e.hits), ((s.noted mock c log).modify mock (·.hit e.id)).keep (e.matcher.kept c)) := by
  obtain ⟨x, hx, hxsound, hentries, -⟩ := stub?_noted hstub hsound c log
  obtain ⟨found, htested, hnewest⟩ := tested_pure hx (hentries ▸ hp) c
  have hresolve : s.resolve mock c log = (s.noted mock c log).selectAnswer mock c
      ((((s.noted mock c log).registry.stub? mock).map (·.entries.length)).getD 0 + 1) := rfl
  rw [Stub.candidates, hentries, ← Stub.candidates] at hnewest
  rw [hresolve, selectAnswer_succ, htested, ← hnewest]
  cases found with
  | none => rfl
  | some f =>
      have hmem : f.2 ∈ x.entries := mem_of_tested hx (congrArg Prod.fst htested)
      have hentry : ((s.noted mock c log).registry.stub? mock).bind (·.entryOf? f.2.id) = some f.2 := by
        rw [hx, Option.bind_some, hxsound.entryOf? hmem]
      have hkept := CallMatcher.captures_eq_kept (hp f.2 (hentries ▸ hmem)) c
      dsimp only [Option.map_some]
      rw [hentry]
      dsimp only
      rw [hkept]
      rfl

end Store

/-! ## What a relaxed mock remembers -/

/-- A relaxed mock with nothing but the entries and the children of these calls. -/
structure Stub.Remembers (x : Stub) (made : Handouts) : Prop where
  kind : x.kind = .relaxed
  entries : x.entries = made.table
  nextEntry : x.nextEntry = made.firsts.length
  children : x.children = made.firsts.map (·.2.id)

namespace Stub.Remembers

variable {x : Stub} {made : Handouts} {c d : Call}

theorem pureEach (h : x.Remembers made) {e : Entry} (he : e ∈ x.entries) : Matcher.PureEach e.matcher.args := by
  obtain ⟨p, -, hm⟩ := Handouts.mem_of_mem_table (h.entries ▸ he)
  rw [hm]
  exact Matcher.pureEach_eq p.1.args

/-- Logging a call is not remembered. -/
theorem addCall (h : x.Remembers made) (d : Call) : (x.addCall d).Remembers made :=
  ⟨h.kind, h.entries, h.nextEntry, h.children⟩

/-- The entry that accepts the call is that of the first call that is the same. -/
theorem exists_first (h : x.Remembers made) {e : Entry} (he : x.candidates.find? (·.matcher.admits c) = some e) :
    ∃ m ∈ made.firsts.zipIdx, m.1.1.sameAs c = true ∧ e.id = m.2 ∧ e.answer = .constant (.object m.1.2) := by
  have hmem := List.mem_reverse.mp (List.mem_of_find?_eq_some he)
  rw [h.entries] at hmem
  obtain ⟨m, hm, rfl⟩ := List.mem_map.mp hmem
  have hadmits := List.find?_some he
  rw [CallMatcher.admits_exact] at hadmits
  exact ⟨m, hm, hadmits, rfl, rfl⟩

/-- A call that no entry accepts is new. -/
theorem new_of_find? (h : x.Remembers made) (hnone : x.candidates.find? (·.matcher.admits c) = none) :
    ∀ p ∈ made, p.1.sameAs c = false := by
  intro p hp
  rw [Bool.eq_false_iff]
  intro hsame
  obtain ⟨q, hq, hqc⟩ := Handouts.exists_first hp hsame
  obtain ⟨e, he, hm⟩ := Handouts.exists_mem_table hq
  refine List.find?_eq_none.mp hnone e (List.mem_reverse.mpr (h.entries ▸ he)) ?_
  rwa [hm, CallMatcher.admits_exact]

/-- Every entry has served a call. -/
theorem unused (h : x.Remembers made) (hshared : made.Shared) : x.unused = [] := by
  rw [Stub.unused, List.map_eq_nil_iff, List.filter_eq_nil_iff, h.entries]
  intro e he hzero
  obtain ⟨m, hm, rfl⟩ := List.mem_map.mp he
  have hmem : m.1 ∈ made := Round.mem_of_mem_distinctBy (List.fst_mem_of_mem_zipIdx hm)
  have hcount := List.countP_eq_zero.mp (beq_iff_eq.mp hzero) m.1 hmem
  exact hcount (hshared.comparable m.1 hmem).sameAs_self

/-- Every child is tracked once. -/
theorem count_children (h : x.Remembers made) (hshared : made.Shared) {p : Call × ObjectRef} (hp : p ∈ made) :
    x.children.count p.2.id = 1 := by
  obtain ⟨q, hq, hqp⟩ := Handouts.exists_first hp (hshared.comparable p hp).sameAs_self
  have hqmem : q ∈ made := Round.mem_of_mem_distinctBy hq
  have hnodup : (made.firsts.map (·.2.id)).Nodup := by
    rw [List.Nodup, List.pairwise_map]
    refine made.pairwise_firsts.imp_of_mem fun {a b} ha hb hne hid => Bool.eq_false_iff.mp hne ?_
    exact (hshared.agree a (Round.mem_of_mem_distinctBy ha) b (Round.mem_of_mem_distinctBy hb)).apart hid
  rw [h.children, ← (hshared.agree q hqmem p hp).same hqp]
  exact List.count_eq_one_of_mem hnodup (List.mem_map_of_mem hq)

/-- No entry answers with a child under the text of a call that reads like none of these. -/
theorem chainChild?_eq_none (h : x.Remembers made)
    (hshape : ∀ p ∈ made, (CallMatcher.exact p.1).sameShape (.exact c) = false) : x.chainChild? (.exact c) = none := by
  rw [chainChild?, List.findSome?_eq_none_iff]
  intro e he
  obtain ⟨p, hp, hm⟩ := Handouts.mem_of_mem_table (h.entries ▸ List.mem_reverse.mp he)
  rw [hm, hshape p hp]
  split <;> rfl

/-- The entry that accepts the call counts it. -/
theorem hit (h : x.Remembers made) {m : (Call × ObjectRef) × Nat} (hm : m ∈ made.firsts.zipIdx)
    (hsame : m.1.1.sameAs c = true) : (x.hit m.2).Remembers (made ++ [(c, m.1.2)]) where
  kind := h.kind
  entries := by rw [Handouts.table_repeated hm hsame, Stub.hit, h.entries]
  nextEntry := by
    rw [Handouts.firsts_repeated (Round.mem_of_mem_distinctBy (List.fst_mem_of_mem_zipIdx hm)) hsame]
    exact h.nextEntry
  children := by
    rw [Handouts.firsts_repeated (Round.mem_of_mem_distinctBy (List.fst_mem_of_mem_zipIdx hm)) hsame]
    exact h.children

/-- A new child is tracked, and its entry has served the call for which it was created. -/
theorem adopt (h : x.Remembers made) (hnew : ∀ p ∈ made, p.1.sameAs c = false) (hself : c.sameAs c = true)
    {o : ObjectRef} (ho : ∀ p ∈ made, p.2.id ≠ o.id) :
    (((x.adopt o.id).addAnswer (.exact c) (.constant (.object o))).hit x.nextEntry).Remembers (made ++ [(c, o)]) := by
  have hchildren : x.children.contains o.id = false := by
    rw [h.children, Bool.eq_false_iff, Ne, List.contains_iff_mem, List.mem_map]
    rintro ⟨p, hp, hid⟩
    exact ho p (Round.mem_of_mem_distinctBy hp) hid
  have hadopt : x.adopt o.id = { x with children := x.children ++ [o.id] } := by
    rw [Stub.adopt, hchildren]
    rfl
  have hothers : ∀ e ∈ x.entries, (if e.id == x.nextEntry then { e with hits := e.hits + 1 } else e) = e := by
    intro e he
    have hlt := Handouts.id_lt_of_mem_table (h.entries ▸ he)
    rw [if_neg (by simpa [h.nextEntry] using Nat.ne_of_lt hlt)]
  rw [hadopt]
  refine ⟨h.kind, ?_, ?_, ?_⟩
  · rw [Handouts.table_new hnew hself, ← h.entries, ← h.nextEntry]
    simp only [Stub.hit, addAnswer, List.map_append, List.map_congr_left hothers, List.map_id', List.map_cons,
      List.map_nil, beq_self_eq_true, ↓reduceIte, Nat.zero_add]
  · rw [Handouts.firsts_new hnew, List.length_append, ← h.nextEntry]
    rfl
  · rw [Handouts.firsts_new hnew, List.map_append, ← h.children]
    rfl

end Stub.Remembers

/-- A call on the mock has returned a registered relaxed child of it, of the class that the method declares. -/
structure Store.Handed (s : Store) (mock : ObjectRef) (p : Call × ObjectRef) : Prop where
  target : p.1.target = mock
  returns : p.1.method.returns = .object p.2.className
  other : p.2.id ≠ mock.id
  child : ∃ y, s.registry.stub? p.2.id = some y ∧ y.object = p.2 ∧ y.kind = .relaxed ∧ y.parent = some mock.id

/-- These are the calls on a mock so far, and what it remembers. -/
structure Store.Remembers (s : Store) (mock : ObjectRef) (made : Handouts) : Prop where
  sound : s.Sound
  stub : ∃ x, s.registry.stub? mock.id = some x ∧ x.Remembers made
  shared : made.Shared
  handed : ∀ p ∈ made, s.Handed mock p

/-- A call on a relaxed mock returns a child: an entry answers with it, or it is created where no entry accepts the
call. -/
inductive Store.HandsOut (s : Store) (mock : Nat) (c : Call) (className : String) (log : Bool) (o : ObjectRef) :
    Store → Prop where
  | known {s' : Store} (h : s.resolve mock c log = (some (.constant (.object o)), s')) :
      HandsOut s mock c className log o s'
  | created {s₁ s' : Store} {x : Stub} (h : s.resolve mock c log = (none, s₁)) (hx : s₁.registry.stub? mock = some x)
      (hkind : x.kind = .relaxed) (hchild : s₁.relaxedChild x c className = (o, s')) :
      HandsOut s mock c className log o s'

namespace Store

variable {s : Store} {mock : Nat} {x : Stub} {c : Call}

/-- A new child of this mock, and an entry that answers the call with it. -/
def adoptFor (s : Store) (x : Stub) (c : Call) (className : String) : Store :=
  (s.createChild x className).2.modify x.id
    (·.addAnswer (.exact c) (.constant (.object ⟨s.nextObject, className⟩)))

theorem relaxedChild_of_none (hnone : x.chainChild? (.exact c) = none) (className : String) :
    s.relaxedChild x c className =
      (⟨s.nextObject, className⟩, ((s.adoptFor x c className).resolve x.id c false).2) := by
  rw [relaxedChild, hnone]
  rfl

theorem stub?_adoptFor (hx : s.registry.stub? mock = some x) (c : Call) (className : String) :
    (s.adoptFor x c className).registry.stub? mock = some ((x.adopt s.nextObject).addAnswer (.exact c)
      (.constant (.object ⟨s.nextObject, className⟩))) := by
  cases Registry.id_of_stub? hx
  exact stub?_modify (stub?_createChild_self hx className) fun _ => rfl

end Store

namespace Store.Remembers

variable {s : Store} {mock : ObjectRef} {made : Handouts} {c d : Call} {x : Stub} {className : String}

/-- Only the registry counts. -/
theorem of_registry (h : s.Remembers mock made) {s' : Store} (hs : s'.registry = s.registry)
    (hnext : s.nextObject ≤ s'.nextObject) : s'.Remembers mock made where
  sound := h.sound.of_subset (fun _ hx => hs ▸ hx) hnext
  stub := hs ▸ h.stub
  shared := h.shared
  handed p hp := ⟨(h.handed p hp).target, (h.handed p hp).returns, (h.handed p hp).other, hs ▸ (h.handed p hp).child⟩

/-- Nothing but the mock itself has changed. -/
theorem modify (h : s.Remembers mock made) {f : Stub → Stub} (hid : ∀ x, (f x).id = x.id)
    (hsound : ∀ x : Stub, x.Sound → (f x).Sound) {made' : Handouts}
    (hf : ∀ x : Stub, x.Remembers made → (f x).Remembers made') (hshared : made'.Shared)
    (hhanded : ∀ p ∈ made', s.Handed mock p) : (s.modify mock.id f).Remembers mock made' where
  sound := h.sound.modify mock.id hid hsound
  stub := by
    obtain ⟨x, hx, hrem⟩ := h.stub
    exact ⟨f x, stub?_modify hx hid, hf x hrem⟩
  shared := hshared
  handed p hp := by
    obtain ⟨htarget, hreturns, hother, y, hy, hchild⟩ := hhanded p hp
    exact ⟨htarget, hreturns, hother, y, (Registry.stub?_modify_of_ne hid hother).trans hy, hchild⟩

theorem noted (h : s.Remembers mock made) (d : Call) (log : Bool) : (s.noted mock.id d log).Remembers mock made := by
  cases log with
  | false => exact h
  | true =>
      exact h.modify (f := (·.addCall d)) (fun _ => rfl) (fun _ hx => ⟨hx.nodup, hx.below⟩) (fun _ hx => hx.addCall d)
        h.shared h.handed

/-- A call that is the same as an earlier one gets the child of that. -/
theorem hit (h : s.Remembers mock made) {m : (Call × ObjectRef) × Nat} (hm : m ∈ made.firsts.zipIdx)
    (hsame : m.1.1.sameAs c = true) (htarget : c.target = mock) (hc : c.Comparable) :
    (s.modify mock.id (·.hit m.2)).Remembers mock (made ++ [(c, m.1.2)]) := by
  have hmem : m.1 ∈ made := Round.mem_of_mem_distinctBy (List.fst_mem_of_mem_zipIdx hm)
  obtain ⟨-, hreturns, hother, hchild⟩ := h.handed m.1 hmem
  have hmethod : m.1.1.method = c.method := by
    simp only [Call.sameAs, Bool.and_eq_true, beq_iff_eq] at hsame
    exact hsame.1.2
  exact h.modify (f := (·.hit m.2)) (fun _ => rfl) (fun _ hx => hx.hit _) (fun _ hx => hx.hit hm hsame)
    (h.shared.repeated hc hmem hsame) (List.forall_mem_append.mpr
      ⟨h.handed, List.forall_mem_singleton.mpr ⟨htarget, hmethod ▸ hreturns, hother, hchild⟩⟩)

/-- New identities are not those of the children. -/
theorem ne_nextObject (h : s.Remembers mock made) : ∀ p ∈ made, p.2.id ≠ s.nextObject := by
  intro p hp
  obtain ⟨-, -, -, y, hy, -⟩ := h.handed p hp
  exact Nat.ne_of_lt (h.sound.lt_nextObject hy)

/-- The child of a call that differs from all before it, once its entry has counted the call. -/
theorem adoptFor (h : s.Remembers mock made) (hx : s.registry.stub? mock.id = some x)
    (hnew : ∀ p ∈ made, p.1.sameAs c = false) (htarget : c.target = mock)
    (hreturns : c.method.returns = .object className) (hc : c.Comparable) :
    ((s.adoptFor x c className).modify mock.id (·.hit x.nextEntry)).Remembers mock
      (made ++ [(c, ⟨s.nextObject, className⟩)]) := by
  obtain ⟨x', hx', hrem⟩ := h.stub
  cases Option.some.inj (hx'.symm.trans hx)
  have hsound : (s.adoptFor x c className).Sound := (h.sound.createChild x className).addAnswer _ _ _
  have hparent : x.id = mock.id := Registry.id_of_stub? hx
  have hothers : ∀ id, id ≠ mock.id → ((s.adoptFor x c className).modify mock.id (·.hit x.nextEntry)).registry.stub? id =
      (s.createChild x className).2.registry.stub? id := by
    intro id hne
    rw [Store.modify, Registry.stub?_modify_of_ne (f := (·.hit x.nextEntry)) (fun _ => rfl) hne]
    exact Registry.stub?_modify_of_ne (fun y => Stub.id_addAnswer y _ _) (hparent ▸ hne)
  refine ⟨hsound.modify mock.id (fun _ => rfl) fun _ hy => hy.hit _, ?_, ?_, ?_⟩
  · exact ⟨_, Store.stub?_modify (stub?_adoptFor hx c className) fun _ => rfl,
      hrem.adopt (o := ⟨s.nextObject, className⟩) hnew hc.sameAs_self h.ne_nextObject⟩
  · exact h.shared.new hc hnew h.ne_nextObject
  · refine List.forall_mem_append.mpr ⟨fun p hp => ?_, List.forall_mem_singleton.mpr ?_⟩
    · obtain ⟨htarget, hreturns, hother, y, hy, hchild⟩ := h.handed p hp
      refine ⟨htarget, hreturns, hother, y, ?_, hchild⟩
      rw [hothers _ hother, stub?_createChild_of_ne s x className (hparent ▸ hother), hy, Option.some_or]
    · have hother : s.nextObject ≠ mock.id := Nat.ne_of_gt (h.sound.lt_nextObject hx)
      refine ⟨htarget, hreturns, hother,
        { object := ⟨s.nextObject, className⟩, kind := x.kind.forChild, parent := some x.id }, ?_, rfl, ?_,
        congrArg some hparent⟩
      · rw [hothers _ hother, stub?_createChild_of_ne s x className (hparent ▸ hother),
          h.sound.stub?_eq_none (Nat.le_refl _), Option.none_or, if_pos (beq_self_eq_true s.nextObject)]
      · exact congrArg MockKind.forChild hrem.kind

/-- A call that differs from all before it, and reads like none of them, gets a child of its own. -/
theorem relaxedChild (h : s.Remembers mock made) (hx : s.registry.stub? mock.id = some x)
    (hnew : ∀ p ∈ made, p.1.sameAs c = false)
    (hshape : ∀ p ∈ made, (CallMatcher.exact p.1).sameShape (.exact c) = false) (hd : d.Repeats c)
    (htarget : c.target = mock) (hreturns : c.method.returns = .object className) (hc : c.Comparable) : ∃ s',
      s.relaxedChild x d className = (⟨s.nextObject, className⟩, s') ∧
      s'.Remembers mock (made ++ [(c, ⟨s.nextObject, className⟩)]) := by
  obtain ⟨x', hx', hrem⟩ := h.stub
  cases Option.some.inj (hx'.symm.trans hx)
  have hexact : CallMatcher.exact d = .exact c := CallMatcher.exact_repeats hd
  have hfound := stub?_adoptFor hx d className
  have hsound : (s.adoptFor x d className).Sound := (h.sound.createChild x className).addAnswer _ _ _
  let newest : Entry := ⟨(x.adopt s.nextObject).nextEntry, .exact d, .constant (.object ⟨s.nextObject, className⟩), 0⟩
  let y := (x.adopt s.nextObject).addAnswer (.exact d) (.constant (.object ⟨s.nextObject, className⟩))
  have hpure : ∀ e ∈ y.entries, Matcher.PureEach e.matcher.args := by
    change ∀ e ∈ (x.adopt s.nextObject).entries ++ [newest], _
    rw [Stub.entries_adopt]
    exact List.forall_mem_append.mpr
      ⟨fun e he => hrem.pureEach he, List.forall_mem_singleton.mpr (Matcher.pureEach_eq d.args)⟩
  have hserves : y.candidates.find? (·.matcher.admits d) = some newest := by
    rw [Stub.candidates_addAnswer]
    refine List.find?_cons_of_pos ?_
    rw [CallMatcher.admits_exact, Call.sameAs_repeats hd hd, hc.sameAs_self]
  rw [relaxedChild_of_none (hexact ▸ hrem.chainChild?_eq_none hshape), Registry.id_of_stub? hx,
    resolve_pure hfound (hsound.stub hfound) hpure, hserves]
  refine ⟨_, rfl, ?_⟩
  have hcounted := h.adoptFor hx hnew htarget hreturns hc
  rw [← Stub.nextEntry_adopt x s.nextObject, Store.adoptFor, ← hexact] at hcounted
  exact hcounted.of_registry rfl (Nat.le_refl _)

/-- A call on the mock returns a child, and is remembered with it. -/
theorem exists_handsOut (h : s.Remembers mock made) (hd : d.Repeats c) (htarget : c.target = mock)
    (hreturns : c.method.returns = .object className) (hc : c.Comparable)
    (hshape : ∀ p ∈ made, (CallMatcher.exact p.1).sameShape (.exact c) = true → p.1.sameAs c = true) (log : Bool) :
    ∃ o s', s.HandsOut mock.id d className log o s' ∧ s'.Remembers mock (made ++ [(c, o)]) := by
  obtain ⟨x, hx, hrem⟩ := h.stub
  have hsame : ∀ b : Call, b.sameAs d = b.sameAs c := fun _ => Call.sameAs_repeats ⟨rfl, rfl, rfl⟩ hd
  have hnoted := h.noted d log
  have hresolve := resolve_pure hx (h.sound.stub hx) (fun e he => hrem.pureEach he) d log
  cases hfound : x.candidates.find? (·.matcher.admits d) with
  | none =>
      rw [hfound] at hresolve
      have hnew : ∀ p ∈ made, p.1.sameAs c = false := fun p hp => hsame p.1 ▸ hrem.new_of_find? hfound p hp
      obtain ⟨x₁, hx₁, hrem₁⟩ := hnoted.stub
      obtain ⟨s', hchild, hafter⟩ := hnoted.relaxedChild hx₁ hnew
        (fun p hp => Bool.eq_false_iff.mpr fun hs => Bool.eq_false_iff.mp (hnew p hp) (hshape p hp hs)) hd htarget
        hreturns hc
      exact ⟨_, s', .created hresolve hx₁ hrem₁.kind hchild, hafter⟩
  | some e =>
      rw [hfound] at hresolve
      obtain ⟨m, hm, hmd, hid, hanswer⟩ := hrem.exists_first hfound
      dsimp only at hresolve
      rw [hanswer, hid] at hresolve
      exact ⟨m.1.2, _, .known hresolve,
        (hnoted.hit hm (hsame m.1.1 ▸ hmd) htarget hc).of_registry rfl (Nat.le_refl _)⟩

/-! ## A new mock -/

theorem create {s : Store} (h : s.Sound) (className : String) :
    (s.create className .relaxed).2.Remembers (s.create className .relaxed).1 [] where
  sound := h.create className .relaxed
  stub := by
    refine ⟨{ object := ⟨s.nextObject, className⟩, kind := .relaxed }, ?_, rfl, rfl, rfl, rfl⟩
    change (s.registry.insert _).stub? s.nextObject = _
    rw [Registry.stub?_insert, h.stub?_eq_none (Nat.le_refl _), Option.none_or, if_pos]
    exact beq_self_eq_true s.nextObject
  shared := ⟨nofun, nofun⟩
  handed := nofun

end Store.Remembers

end TestDouble
