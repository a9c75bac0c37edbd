import TestDouble.Proofs.Session.Linked
import TestDouble.Proofs.Session.Tracing

/-!
# What an answer leaves behind

The calls of a recorded block are installed one after another. Each adds its entry to the mock it is made on, or, as a
link that a child stands for already, none. So the entries of a mock at the end are those it had, followed by those of
the calls that were placed on it.
-/

namespace TestDouble

/-! ## Mocks that remain -/

/-- The same mock, perhaps with more children. -/
structure Stub.Remains (s s' : Stub) : Prop where
  object : s'.object = s.object
  kind : s'.kind = s.kind
  parent : s'.parent = s.parent
  children : s.children ⊆ s'.children

theorem Stub.Remains.refl (s : Stub) : s.Remains s := ⟨rfl, rfl, rfl, List.Subset.refl _⟩

theorem Stub.Remains.adopt (s : Stub) (child : Nat) : s.Remains (s.adopt child) := by
  unfold Stub.adopt
  split
  · exact .refl s
  · exact ⟨rfl, rfl, rfl, List.subset_append_left _ _⟩

theorem Stub.mem_children_adopt (s : Stub) (child : Nat) : child ∈ (s.adopt child).children := by
  unfold Stub.adopt
  split
  · rename_i h
    exact List.contains_iff_mem.mp h
  · exact List.mem_append_right _ (List.mem_singleton_self child)

/-- All mocks are still there. -/
def Store.Remains (s s' : Store) : Prop :=
  ∀ id stub, s.registry.stub? id = some stub → ∃ stub', s'.registry.stub? id = some stub' ∧ stub.Remains stub'

namespace Store

variable {s s' s'' : Store} {id mock : Nat} {stub parent : Stub} {className : String}

theorem Remains.refl (s : Store) : s.Remains s := fun _ stub h => ⟨stub, h, .refl stub⟩

theorem Remains.trans (h : s.Remains s') (h' : s'.Remains s'') : s.Remains s'' := fun id stub hstub => by
  obtain ⟨x, hx, hr⟩ := h id stub hstub
  obtain ⟨y, hy, hr'⟩ := h' id x hx
  exact ⟨y, hy, hr'.object.trans hr.object, hr'.kind.trans hr.kind, hr'.parent.trans hr.parent,
    List.Subset.trans hr.children hr'.children⟩

theorem modify_remains (s : Store) (mock : Nat) {f : Stub → Stub} (hf : ∀ x : Stub, x.Remains (f x)) :
    s.Remains (s.modify mock f) := by
  have hid : ∀ x, (f x).id = x.id := fun x => congrArg ObjectRef.id (hf x).object
  intro id stub hstub
  by_cases h : id = mock
  · subst h
    exact ⟨f stub, Store.stub?_modify hstub hid, hf stub⟩
  · exact ⟨stub, (Registry.stub?_modify_of_ne hid h).trans hstub, .refl stub⟩

theorem addAnswer_remains (s : Store) (mock : Nat) (m : CallMatcher) (a : Answer) :
    s.Remains (s.modify mock (·.addAnswer m a)) :=
  s.modify_remains mock fun _ => ⟨rfl, rfl, rfl, List.Subset.refl _⟩

theorem createChild_remains (s : Store) (parent : Stub) (className : String) :
    s.Remains (s.createChild parent className).2 := by
  let child : Stub := { object := ⟨s.nextObject, className⟩, kind := parent.kind.forChild, parent := some parent.id }
  have hinsert : s.Remains { s with registry := s.registry.insert child, nextObject := s.nextObject + 1 } :=
    fun id stub hstub => ⟨stub, by rw [Registry.stub?_insert, hstub, Option.some_or], .refl stub⟩
  exact hinsert.trans (modify_remains _ parent.id fun x => .adopt x s.nextObject)

/-- The new child is there, and its parent tracks it. -/
theorem stubs_createChild (hparent : s.registry.stub? mock = some parent)
    (hfresh : s.registry.stub? s.nextObject = none) (className : String) : ∃ x child,
      (s.createChild parent className).2.registry.stub? mock = some x ∧ x.entries = parent.entries ∧
        x.kind = parent.kind ∧ s.nextObject ∈ x.children ∧
      (s.createChild parent className).2.registry.stub? s.nextObject = some child ∧
        child.object = ⟨s.nextObject, className⟩ ∧ child.kind = parent.kind.forChild ∧ child.parent = some mock := by
  have hid : parent.id = mock := Registry.id_of_stub? hparent
  have hne : s.nextObject ≠ mock := by
    rintro rfl
    cases hfresh.symm.trans hparent
  have hadopt : ∀ x : Stub, (x.adopt s.nextObject).id = x.id := fun x => Stub.id_adopt x _
  rw [createChild, hid]
  dsimp only [freshObject]
  refine ⟨parent.adopt s.nextObject,
    { object := ⟨s.nextObject, className⟩, kind := parent.kind.forChild, parent := some mock }, ?_⟩
  refine ⟨?_, Stub.entries_adopt parent _, (Stub.Remains.adopt parent _).kind, parent.mem_children_adopt _, ?_, rfl,
    rfl, rfl⟩
  · rw [Registry.stub?_modify hadopt, Registry.stub?_insert, hparent, Option.some_or, Option.map_some]
  · rw [Registry.stub?_modify_of_ne hadopt hne, Registry.stub?_insert, hfresh, Option.none_or]
    exact if_pos (beq_self_eq_true s.nextObject)

/-! ## Entries -/

/-- The entries of a mock; none if it is not registered. -/
def entriesOf (s : Store) (mock : Nat) : List Entry := ((s.registry.stub? mock).map Stub.entries).getD []

theorem entriesOf_of_stub (h : s.registry.stub? mock = some stub) : s.entriesOf mock = stub.entries := by
  rw [entriesOf, h, Option.map_some, Option.getD_some]

theorem entriesOf_addAnswer (h : s.registry.stub? id = some stub) (m : CallMatcher) (a : Answer) (mock : Nat) :
    (s.modify id (·.addAnswer m a)).entriesOf mock =
      s.entriesOf mock ++ if id = mock then [⟨stub.nextEntry, m, a, 0⟩] else [] := by
  by_cases hid : id = mock
  · subst hid
    rw [if_pos rfl, entriesOf_of_stub h, entriesOf_of_stub (stub?_modify h fun x => Stub.id_addAnswer x m a)]
    rfl
  · rw [if_neg hid, List.append_nil, entriesOf, modify,
      Registry.stub?_modify_of_ne (fun x => Stub.id_addAnswer x m a) (Ne.symm hid), entriesOf]

theorem entriesOf_createChild (s : Store) (parent : Stub) (className : String) (mock : Nat) :
    (s.createChild parent className).2.entriesOf mock = s.entriesOf mock := by
  cases hstub : s.registry.stub? mock with
  | some stub =>
      obtain ⟨x, hx, hentries⟩ := s.stub?_createChild hstub parent className
      rw [entriesOf_of_stub hx, entriesOf_of_stub hstub, hentries]
  | none =>
      have hnil : s.entriesOf mock = [] := by rw [entriesOf, hstub]; rfl
      rw [hnil]
      cases hchild : (s.createChild parent className).2.registry.stub? mock with
      | none => rw [entriesOf, hchild]; rfl
      | some x =>
          refine (entriesOf_of_stub hchild).trans (List.eq_nil_iff_forall_not_mem.mpr fun e he => ?_)
          obtain ⟨old, hold, -⟩ := mem_entries_createChild hchild he
          cases hstub.symm.trans hold

end Store

/-! ## Placed calls -/

/-- Where a call of a block has been installed, and what for it. -/
structure Placed where
  call : ResolvedCall
  /-- The call with the links before it replaced. -/
  matcher : CallMatcher
  /-- The answer of its entry, if it has one. -/
  answer? : Option Answer
  /-- What stands for a link. -/
  child? : Option ObjectRef

namespace Placed

variable {mock : Nat} {ps before after : List Placed} {p : Placed} {old new : List Entry}

/-- The object that was recorded, and what stands for it. -/
def link? (p : Placed) : Option (Nat × ObjectRef) :=
  p.child?.bind fun child => p.call.linkObject?.map fun x => (x.id, child)

/-- A child that was made for the call. -/
def created? (p : Placed) : Option ObjectRef := if p.answer?.isSome then p.child? else none

/-- The entry of the call, if it is one of this mock. -/
def entryOn? (mock : Nat) (p : Placed) : Option (CallMatcher × Answer) :=
  if p.matcher.target.id = mock then p.answer?.map (p.matcher, ·) else none

def links (ps : List Placed) : Links := ps.filterMap link?

/-- Entries are as before, with new ones at the end: those of these calls, which have served no call yet. -/
def Added (mock : Nat) (ps : List Placed) (old new : List Entry) : Prop :=
  ∃ fresh, new = old ++ fresh ∧ fresh.map (fun e => (e.matcher, e.answer)) = ps.filterMap (entryOn? mock) ∧
    ∀ e ∈ fresh, e.hits = 0

theorem Added.nil (mock : Nat) (old : List Entry) : Added mock [] old old :=
  ⟨[], (List.append_nil old).symm, rfl, nofun⟩

theorem Added.skip (h : Added mock ps old new) (hp : p.entryOn? mock = none) : Added mock (ps ++ [p]) old new := by
  obtain ⟨fresh, hnew, hfresh, hits⟩ := h
  refine ⟨fresh, hnew, ?_, hits⟩
  rw [List.filterMap_append, List.filterMap_cons_none hp, List.filterMap_nil, List.append_nil, hfresh]

theorem Added.push (h : Added mock ps old new) {m : CallMatcher} {a : Answer} (hp : p.entryOn? mock = some (m, a))
    (k : Nat) : Added mock (ps ++ [p]) old (new ++ [⟨k, m, a, 0⟩]) := by
  obtain ⟨fresh, rfl, hfresh, hits⟩ := h
  refine ⟨fresh ++ [⟨k, m, a, 0⟩], List.append_assoc _ _ _, ?_, fun e he => ?_⟩
  · rw [List.map_append, hfresh, List.filterMap_append, List.filterMap_cons_some hp]
    rfl
  · rcases List.mem_append.mp he with he | he
    · exact hits e he
    · rw [List.mem_singleton.mp he]

/-- A new child is a mock of its own, tracked by the mock that answers with it. -/
structure Adopted (s s' : Store) (before : List Placed) (mock : Nat) (child : ObjectRef) : Prop where
  fresh : s.nextObject ≤ child.id
  apart : ∀ q ∈ before, ∀ other, q.created? = some other → other.id ≠ child.id
  tracked : ∃ parent stub, s'.registry.stub? mock = some parent ∧ child.id ∈ parent.children ∧
    s'.registry.stub? child.id = some stub ∧ stub.object = child ∧ stub.kind = parent.kind.forChild ∧
    stub.parent = some mock

/-- How a call is installed after others. -/
inductive Installed (answer : Answer) (s s' : Store) (before : List Placed) : Placed → Prop
  /-- The answer is for the call itself. -/
  | answered (c : ResolvedCall) (hcall : c.intermediate = false) :
      Installed answer s s' before ⟨c, (links before).apply c.matcher, some answer, none⟩
  /-- A child stands for the link already: its mock had such an entry, or got one from a call before. -/
  | reused (c : ResolvedCall) {x child : ObjectRef} {stub : Stub} (hlink : c.linkObject? = some x)
      (hstub : Added ((links before).apply c.matcher).target.id before
        (s.entriesOf ((links before).apply c.matcher).target.id) stub.entries)
      (hchild : stub.chainChild? ((links before).apply c.matcher) = some child) :
      Installed answer s s' before ⟨c, (links before).apply c.matcher, none, some child⟩
  /-- A child is made for the link. -/
  | created (c : ResolvedCall) {x child : ObjectRef} {stub : Stub} (hlink : c.linkObject? = some x)
      (hstub : Added ((links before).apply c.matcher).target.id before
        (s.entriesOf ((links before).apply c.matcher).target.id) stub.entries)
      (hchild : stub.chainChild? ((links before).apply c.matcher) = none) (hclass : child.className = x.className)
      (hadopted : Adopted s s' before ((links before).apply c.matcher).target.id child) :
      Installed answer s s' before
        ⟨c, (links before).apply c.matcher, some (.constant (.object child)), some child⟩

variable {answer : Answer} {s s' s'' : Store}

theorem Adopted.mono {child : ObjectRef} (h : Adopted s s' before mock child) (hs : s'.Remains s'') :
    Adopted s s'' before mock child := by
  refine ⟨h.fresh, h.apart, ?_⟩
  obtain ⟨parent, stub, hparent, hmem, hstub, hobject, hkind, hof⟩ := h.tracked
  obtain ⟨parent', hparent', hr⟩ := hs _ _ hparent
  obtain ⟨stub', hstub', hr'⟩ := hs _ _ hstub
  exact ⟨parent', stub', hparent', hr.children hmem, hstub', hr'.object.trans hobject,
    hr'.kind.trans (hkind.trans (congrArg _ hr.kind.symm)), hr'.parent.trans hof⟩

theorem Installed.mono (h : p.Installed answer s s' before) (hs : s'.Remains s'') :
    p.Installed answer s s'' before := by
  cases h with
  | answered c hcall => exact .answered c hcall
  | reused c hlink hstub hchild => exact .reused c hlink hstub hchild
  | created c hlink hstub hchild hclass hadopted => exact .created c hlink hstub hchild hclass (hadopted.mono hs)

/-- Every call of the list is so after those before it. -/
def Each (P : List Placed → Placed → Prop) (ps : List Placed) : Prop :=
  ∀ before p after, ps = before ++ p :: after → P before p

theorem Each.push {P : List Placed → Placed → Prop} (h : Each P ps) (hp : P ps p) : Each P (ps ++ [p]) := by
  intro before q after hsplit
  rcases List.append_eq_append_iff.mp hsplit with ⟨more, hbefore, hrest⟩ | ⟨more, hps, hrest⟩
  · cases more with
    | nil =>
        cases hrest
        rw [hbefore, List.append_nil]
        exact hp
    | cons r more =>
        have := congrArg List.length hrest
        simp at this
  · cases more with
    | nil =>
        cases hrest
        rw [hps, List.append_nil] at hp
        exact hp
    | cons r more =>
        cases hrest
        exact h before q more hps

theorem links_append (ps : List Placed) (p : Placed) : links (ps ++ [p]) = links ps ++ p.link?.toList := by
  rw [links, List.filterMap_append]
  cases h : p.link? with
  | none => rw [List.filterMap_cons_none h]; rfl
  | some l => rw [List.filterMap_cons_some h]; rfl

/-- Its entry is the last one of the mock that the call is made on. -/
theorem added_addAnswer (h : ∀ mock, Added mock ps (s.entriesOf mock) (s'.entriesOf mock)) {a : Answer} {stub : Stub}
    (hp : p.answer? = some a) (hstub : s'.registry.stub? p.matcher.target.id = some stub) (mock : Nat) :
    Added mock (ps ++ [p]) (s.entriesOf mock)
      ((s'.modify p.matcher.target.id (·.addAnswer p.matcher a)).entriesOf mock) := by
  rw [Store.entriesOf_addAnswer hstub]
  by_cases hmock : p.matcher.target.id = mock
  · rw [if_pos hmock]
    exact (h mock).push (by rw [entryOn?, if_pos hmock, hp]; rfl) _
  · rw [if_neg hmock, List.append_nil]
    exact (h mock).skip (if_neg hmock)

end Placed

/-! ## The calls of a block -/

/-- These calls have been installed so far, which has led from one store to the other. -/
structure Placing (answer : Answer) (s : Store) (ps : List Placed) (s' : Store) : Prop where
  start : Store.Evolves {} s'
  objects : s.nextObject ≤ s'.nextObject
  remains : s.Remains s'
  entries : ∀ mock, Placed.Added mock ps (s.entriesOf mock) (s'.entriesOf mock)
  below : ∀ p ∈ ps, ∀ child, p.created? = some child → child.id < s'.nextObject
  targets : ∀ p ∈ ps, (s'.registry.stub? p.matcher.target.id).isSome
  installed : Placed.Each (Placed.Installed answer s s') ps

namespace Placing

variable {answer : Answer} {s s' s'' : Store} {ps : List Placed} {p : Placed} {c : ResolvedCall} {stub : Stub}

theorem start_with (hs : Store.Evolves {} s) : Placing answer s [] s where
  start := hs
  objects := Nat.le_refl _
  remains := .refl s
  entries mock := .nil mock _
  below := nofun
  targets := nofun
  installed before p after h := by
    have := congrArg List.length h
    simp at this

theorem add (h : Placing answer s ps s') (hevolves : s'.Evolves s'') (hremains : s'.Remains s'')
    (hentries : ∀ mock, Placed.Added mock (ps ++ [p]) (s.entriesOf mock) (s''.entriesOf mock))
    (hbelow : ∀ child, p.created? = some child → child.id < s''.nextObject)
    (hstub : s'.registry.stub? p.matcher.target.id = some stub) (hp : p.Installed answer s s'' ps) :
    Placing answer s (ps ++ [p]) s'' where
  start := h.start.trans hevolves
  objects := Nat.le_trans h.objects hevolves.onward.objects
  remains := h.remains.trans hremains
  entries := hentries
  below q hq child hchild := by
    rcases List.mem_append.mp hq with hq | hq
    · exact Nat.lt_of_lt_of_le (h.below q hq child hchild) hevolves.onward.objects
    · cases List.mem_singleton.mp hq
      exact hbelow child hchild
  targets q hq := by
    rcases List.mem_append.mp hq with hq | hq
    · obtain ⟨x, hx⟩ := Option.isSome_iff_exists.mp (h.targets q hq)
      obtain ⟨x', hx', -⟩ := hremains _ x hx
      rw [hx']
      rfl
    · cases List.mem_singleton.mp hq
      obtain ⟨stub', hstub', -⟩ := hremains _ stub hstub
      rw [hstub']
      rfl
  installed := by
    refine Placed.Each.push (fun before q after hsplit => ?_) hp
    exact (h.installed before q after hsplit).mono hremains

/-- The entries of a mock, seen through its stub. -/
theorem entries_of_stub (h : Placing answer s ps s') {id : Nat} (hstub : s'.registry.stub? id = some stub) :
    Placed.Added id ps (s.entriesOf id) stub.entries :=
  Store.entriesOf_of_stub hstub ▸ h.entries id

theorem answered (h : Placing answer s ps s') (hcall : c.intermediate = false)
    (hstub : s'.registry.stub? ((Placed.links ps).apply c.matcher).target.id = some stub) :
    Placing answer s (ps ++ [⟨c, (Placed.links ps).apply c.matcher, some answer, none⟩])
      (s'.modify ((Placed.links ps).apply c.matcher).target.id
        (·.addAnswer ((Placed.links ps).apply c.matcher) answer)) :=
  h.add (.modify s' _ fun _ => rfl) (s'.addAnswer_remains _ _ _) (Placed.added_addAnswer h.entries rfl hstub) nofun
    hstub (.answered c hcall)

theorem reused (h : Placing answer s ps s') {x child : ObjectRef} (hlink : c.linkObject? = some x)
    (hstub : s'.registry.stub? ((Placed.links ps).apply c.matcher).target.id = some stub)
    (hchild : stub.chainChild? ((Placed.links ps).apply c.matcher) = some child) :
    Placing answer s (ps ++ [⟨c, (Placed.links ps).apply c.matcher, none, some child⟩]) s' := by
  refine h.add .refl (.refl s') (fun mock => (h.entries mock).skip ?_) nofun hstub
    (.reused c hlink (h.entries_of_stub hstub) hchild)
  rw [Placed.entryOn?]
  split <;> rfl

theorem created (h : Placing answer s ps s') {x : ObjectRef} (hlink : c.linkObject? = some x)
    (hstub : s'.registry.stub? ((Placed.links ps).apply c.matcher).target.id = some stub)
    (hchild : stub.chainChild? ((Placed.links ps).apply c.matcher) = none) :
    let child : ObjectRef := ⟨s'.nextObject, x.className⟩
    let m := (Placed.links ps).apply c.matcher
    Placing answer s (ps ++ [⟨c, m, some (.constant (.object child)), some child⟩])
      ((s'.createChild stub x.className).2.modify m.target.id (·.addAnswer m (.constant (.object child)))) := by
  intro child m
  have hnew : s'.registry.stub? s'.nextObject = none := by
    cases hold : s'.registry.stub? s'.nextObject with
    | none => rfl
    | some old => exact absurd (h.start.lt_nextObject hold) (Nat.lt_irrefl _)
  obtain ⟨parent, made, hparent, -, hkind, hmem, hmade, hobject, hof, hparentOf⟩ :=
    Store.stubs_createChild hstub hnew x.className
  have hadopted : Placed.Adopted s (s'.createChild stub x.className).2 ps m.target.id child := by
    refine ⟨h.objects, fun q hq other hother => Nat.ne_of_lt (h.below q hq other hother), ?_⟩
    exact ⟨parent, made, hparent, hmem, hmade, hobject, hof.trans (congrArg _ hkind.symm), hparentOf⟩
  have hentries : ∀ mock, Placed.Added mock ps (s.entriesOf mock)
      ((s'.createChild stub x.className).2.entriesOf mock) := fun mock => by
    rw [Store.entriesOf_createChild]
    exact h.entries mock
  have hadd := Store.addAnswer_remains (s'.createChild stub x.className).2 m.target.id m (.constant (.object child))
  refine h.add (.head (.createChild stub x.className) (Store.Evolves.modify _ _ fun _ => rfl))
    ((s'.createChild_remains stub x.className).trans hadd) ?_ (fun other hother => ?_) hstub
    (.created c hlink (h.entries_of_stub hstub) hchild rfl (hadopted.mono hadd))
  · exact Placed.added_addAnswer (p := ⟨c, m, some (.constant (.object child)), some child⟩) hentries rfl hparent
  · cases hother
    exact Nat.lt_succ_self s'.nextObject

/-- One more call. -/
theorem step (h : Placing answer s ps s') (hc : c.intermediate = true → ∃ x, c.linkObject? = some x)
    (hstub : s'.registry.stub? ((Placed.links ps).apply c.matcher).target.id = some stub) :
    ∃ p : Placed, p.call = c ∧ (s'.installCall answer (Placed.links ps) c stub).1 = Placed.links (ps ++ [p]) ∧
      Placing answer s (ps ++ [p]) (s'.installCall answer (Placed.links ps) c stub).2 := by
  have hid : stub.id = ((Placed.links ps).apply c.matcher).target.id := Registry.id_of_stub? hstub
  unfold Store.installCall
  dsimp only
  rw [hid]
  cases hcall : c.intermediate with
  | false => exact ⟨_, rfl, by rw [Placed.links_append]; exact (List.append_nil _).symm, h.answered hcall hstub⟩
  | true =>
      obtain ⟨x, hlink⟩ := hc hcall
      rw [if_pos rfl, ResolvedCall.returned_of_linkObject? hlink]
      dsimp only
      cases hchild : stub.chainChild? ((Placed.links ps).apply c.matcher) with
      | some child =>
          refine ⟨_, rfl, ?_, h.reused hlink hstub hchild⟩
          rw [Placed.links_append]
          simp [Placed.link?, hlink]
      | none =>
          refine ⟨_, rfl, ?_, h.created hlink hstub hchild⟩
          rw [Placed.links_append]
          simp [Placed.link?, hlink, Store.createChild, Store.freshObject]

end Placing

/-- All calls, one after another. -/
theorem Installs.places {answer : Answer} {links links' : Links} {s s₁ s' : Store} {cs : Resolution}
    (h : Installs answer links s₁ cs links' s') {ps : List Placed} (hlinks : Placed.links ps = links)
    (hps : Placing answer s ps s₁) (hcs : ∀ c ∈ cs, c.intermediate = true → ∃ x, c.linkObject? = some x) :
    ∃ more, more.map Placed.call = cs ∧ Placing answer s (ps ++ more) s' := by
  induction h generalizing ps with
  | nil => exact ⟨[], rfl, (List.append_nil ps).symm ▸ hps⟩
  | @cons links _ s₁ _ c cs stub hstub _ ih =>
      subst hlinks
      obtain ⟨p, hp, hlinks, hstep⟩ := hps.step (hcs c List.mem_cons_self) hstub
      obtain ⟨more, hmore, hplacing⟩ := ih hlinks.symm hstep fun d hd => hcs d (List.mem_cons_of_mem c hd)
      refine ⟨p :: more, by rw [List.map_cons, hp, hmore], ?_⟩
      rw [List.append_cons]
      exact hplacing

end TestDouble
