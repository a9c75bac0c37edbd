import TestDouble.Proofs.Registry
import TestDouble.Proofs.Session.Running

/-!
# Installing a recorded block

The calls of a block are installed one after another: a call that is no link adds an entry, a link without a
child adds a child mock and an entry that answers with it. Nothing is taken away.
-/

namespace TestDouble

/-- The same mock, perhaps with more entries and children. -/
structure Stub.Extends (s s' : Stub) : Prop where
  object : s'.object = s.object
  entries : s.entries <+: s'.entries
  children : s.children <+: s'.children
  log : s'.log = s.log

namespace Stub.Extends

theorem refl (s : Stub) : s.Extends s := ⟨rfl, List.prefix_rfl, List.prefix_rfl, rfl⟩

theorem trans {a b c : Stub} (h : a.Extends b) (h' : b.Extends c) : a.Extends c :=
  ⟨h'.object.trans h.object, h.entries.trans h'.entries, h.children.trans h'.children, h'.log.trans h.log⟩

theorem addAnswer (s : Stub) (m : CallMatcher) (a : Answer) : s.Extends (s.addAnswer m a) :=
  ⟨rfl, List.prefix_append _ _, List.prefix_rfl, rfl⟩

theorem adopt (s : Stub) (child : Nat) : s.Extends (s.adopt child) := by
  unfold Stub.adopt
  split
  · exact .refl s
  · exact ⟨rfl, List.prefix_rfl, List.prefix_append _ _, rfl⟩

end Stub.Extends

@[simp] theorem Stub.id_addAnswer (s : Stub) (m : CallMatcher) (a : Answer) : (s.addAnswer m a).id = s.id := rfl

theorem Stub.candidates_addAnswer (s : Stub) (m : CallMatcher) (a : Answer) :
    (s.addAnswer m a).candidates = ⟨s.nextEntry, m, a, 0⟩ :: s.candidates := by
  rw [candidates, addAnswer, List.reverse_append]
  rfl

@[simp] theorem Stub.entries_adopt (s : Stub) (child : Nat) : (s.adopt child).entries = s.entries := by
  unfold Stub.adopt
  split <;> rfl

@[simp] theorem Stub.nextEntry_adopt (s : Stub) (child : Nat) : (s.adopt child).nextEntry = s.nextEntry := by
  unfold adopt
  split <;> rfl

@[simp] theorem Stub.id_adopt (s : Stub) (child : Nat) : (s.adopt child).id = s.id := by
  unfold Stub.adopt
  split <;> rfl

/-- No mock is gone, and every mock only has more entries and children. -/
def Store.Extends (s s' : Store) : Prop :=
  ∀ id stub, s.registry.stub? id = some stub → ∃ stub', s'.registry.stub? id = some stub' ∧ stub.Extends stub'

namespace Store.Extends

theorem refl (s : Store) : s.Extends s := fun _ stub h => ⟨stub, h, .refl stub⟩

theorem trans {a b c : Store} (h : a.Extends b) (h' : b.Extends c) : a.Extends c := by
  intro id stub hstub
  obtain ⟨stub₁, hstub₁, hext⟩ := h id stub hstub
  obtain ⟨stub₂, hstub₂, hext'⟩ := h' id stub₁ hstub₁
  exact ⟨stub₂, hstub₂, hext.trans hext'⟩

theorem modify (s : Store) (mock : Nat) {f : Stub → Stub} (hf : ∀ x : Stub, x.Extends (f x)) :
    s.Extends (s.modify mock f) := by
  have hid : ∀ x, (f x).id = x.id := fun x => congrArg ObjectRef.id (hf x).object
  intro id stub hstub
  by_cases h : id = mock
  · subst h
    exact ⟨f stub, Store.stub?_modify hstub hid, hf stub⟩
  · exact ⟨stub, (Registry.stub?_modify_of_ne hid h).trans hstub, .refl stub⟩

theorem insert (s : Store) (new : Stub) (nextObject : Nat) :
    s.Extends { s with registry := s.registry.insert new, nextObject } := fun id stub hstub =>
  ⟨stub, by rw [Registry.stub?_insert, hstub, Option.some_or], .refl stub⟩

theorem createChild (s : Store) (parent : Stub) (className : String) :
    s.Extends (s.createChild parent className).2 :=
  (insert s _ _).trans (modify _ parent.id fun stub => .adopt stub _)

end Store.Extends

namespace Store

variable {s : Store} {stub : Stub} {id : Nat}

/-- A mock tracks its new child. -/
theorem stub?_createChild_self {parent : Stub} (hstub : s.registry.stub? parent.id = some stub) (className : String) :
    (s.createChild parent className).2.registry.stub? parent.id = some (stub.adopt s.nextObject) := by
  rw [createChild]
  dsimp only [freshObject]
  rw [Registry.stub?_modify fun x => Stub.id_adopt x _, Registry.stub?_insert, hstub, Option.some_or, Option.map_some]

/-- Other mocks are what they were, and the child is there. -/
theorem stub?_createChild_of_ne (s : Store) (parent : Stub) (className : String) (hne : id ≠ parent.id) :
    (s.createChild parent className).2.registry.stub? id = (s.registry.stub? id).or
      (if s.nextObject == id then
        some { object := ⟨s.nextObject, className⟩, kind := parent.kind.forChild, parent := some parent.id }
      else none) := by
  rw [createChild]
  dsimp only [freshObject]
  rw [Registry.stub?_modify_of_ne (fun x => Stub.id_adopt x _) hne, Registry.stub?_insert]
  rfl

/-- Only children are added. -/
theorem stub?_createChild (s : Store) (hstub : s.registry.stub? id = some stub) (parent : Stub) (className : String) :
    ∃ x, (s.createChild parent className).2.registry.stub? id = some x ∧ x.entries = stub.entries := by
  by_cases h : id = parent.id
  · subst h
    exact ⟨stub.adopt s.nextObject, stub?_createChild_self hstub className, Stub.entries_adopt stub _⟩
  · exact ⟨stub, by rw [stub?_createChild_of_ne s parent className h, hstub, Option.some_or], rfl⟩

end Store

/-! ## The calls of a block, one by one -/

/-- What installing a call on this stub leaves: a link is known for later calls, any other call has the answer. -/
def Store.installCall (s : Store) (answer : Answer) (links : Links) (c : ResolvedCall) (stub : Stub) : Links × Store :=
  let m := links.apply c.matcher
  if c.intermediate then
    match c.returned.object? with
    | none => (links, s)
    | some object =>
      match stub.chainChild? m with
      | some child => (links ++ [(object.id, child)], s)
      | none =>
        let (child, s) := s.createChild stub object.className
        (links ++ [(object.id, child)], s.modify stub.id (·.addAnswer m (.constant (.object child))))
  else (links, s.modify stub.id (·.addAnswer m answer))

theorem Store.Extends.installCall (s : Store) (answer : Answer) (links : Links) (c : ResolvedCall) (stub : Stub) :
    s.Extends (s.installCall answer links c stub).2 := by
  unfold Store.installCall
  dsimp only
  split
  · split
    · exact .refl s
    · split
      · exact .refl s
      · exact (createChild s stub _).trans (modify _ _ fun x => .addAnswer x _ _)
  · exact modify s _ fun x => .addAnswer x _ _

/-- From these links and this store, installing the calls leads to those links and that store: every target is
registered when its turn comes. -/
inductive Installs (answer : Answer) : Links → Store → Resolution → Links → Store → Prop where
  | nil (links : Links) (s : Store) : Installs answer links s [] links s
  | cons {links links' : Links} {s s' : Store} {c : ResolvedCall} {cs : Resolution} {stub : Stub}
      (hstub : s.registry.stub? (links.apply c.matcher).target.id = some stub)
      (rest : Installs answer (s.installCall answer links c stub).1 (s.installCall answer links c stub).2 cs links' s') :
      Installs answer links s (c :: cs) links' s'

namespace Act

variable {σ : Type} {w : World σ}

theorem runOn_install_cons {links : Links} {c : ResolvedCall} {stub : Stub} (answer : Answer)
    (hstub : w.store.registry.stub? (links.apply c.matcher).target.id = some stub) (cs : Resolution) :
    (install answer links (c :: cs)).runOn w = (install answer (w.store.installCall answer links c stub).1 cs).runOn
      { w with store := (w.store.installCall answer links c stub).2 } := by
  rw [install]
  rw [runOn_bind_ok (runOn_stub_ok hstub)]
  cases hlink : c.intermediate with
  | false => simp [hlink, Store.installCall, runOn_bind]
  | true =>
      cases hobject : c.returned.object? with
      | none => simp [hlink, hobject, Store.installCall]
      | some object =>
          cases hchild : stub.chainChild? (links.apply c.matcher) with
          | some child => simp [hlink, hobject, hchild, Store.installCall, linkChild]
          | none => simp [hlink, hobject, hchild, Store.installCall, linkChild, runOn_bind]

theorem runOn_install_unknown {links : Links} {c : ResolvedCall} (answer : Answer)
    (hstub : w.store.registry.stub? (links.apply c.matcher).target.id = none) (cs : Resolution) :
    (install answer links (c :: cs)).runOn w = (.error (.unknown (links.apply c.matcher).target.id), w) := by
  rw [install]
  refine runOn_bind_error ?_
  rw [runOn_stub, Registry.get, hstub]

end Act

namespace Installs

variable {σ : Type} {answer : Answer} {links links' : Links} {s s' : Store} {cs : Resolution}

/-- Installing the rest goes on from where these calls have led. -/
theorem runOn {w : World σ} (h : Installs answer links w.store cs links' s') (rest : Resolution) :
    (Act.install answer links (cs ++ rest)).runOn w =
      (Act.install answer links' rest).runOn { w with store := s' } := by
  generalize hs : w.store = s at h
  induction h generalizing w with
  | nil => subst hs; rfl
  | cons hstub _ ih =>
      subst hs
      rw [List.cons_append, Act.runOn_install_cons answer hstub, ih rfl]

/-- Installing ends at the first call whose target is not registered, if there is one. -/
theorem exists_prefix (answer : Answer) (links : Links) (cs : Resolution) (s : Store) : ∃ done rest links' s',
    cs = done ++ rest ∧ Installs answer links s done links' s' ∧
      ∀ c ∈ rest.head?, s'.registry.stub? (links'.apply c.matcher).target.id = none := by
  induction cs generalizing links s with
  | nil => exact ⟨[], [], links, s, rfl, .nil links s, by simp⟩
  | cons c cs ih =>
      cases hstub : s.registry.stub? (links.apply c.matcher).target.id with
      | none => exact ⟨[], c :: cs, links, s, rfl, .nil links s, by simpa using hstub⟩
      | some stub =>
          obtain ⟨done, rest, links', s', rfl, hdone, hrest⟩ :=
            ih (s.installCall answer links c stub).1 (s.installCall answer links c stub).2
          exact ⟨c :: done, rest, links', s', rfl, .cons hstub hdone, hrest⟩

/-- Nothing is taken away. -/
theorem mono (h : Installs answer links s cs links' s') : s.Extends s' := by
  induction h with
  | nil => exact .refl _
  | cons _ _ ih => exact (Store.Extends.installCall _ _ _ _ _).trans ih

end Installs

/-! ## What is installed without a trace -/

/-- A link that a child stands for leaves the store alone; any other call adds an entry to its target. -/
theorem Store.installCall_cases {s : Store} {links : Links} {c : ResolvedCall} {stub : Stub} (answer : Answer)
    (hstub : s.registry.stub? (links.apply c.matcher).target.id = some stub) :
    ((s.installCall answer links c stub).2 = s ∧ c.intermediate = true ∧
      ∀ cs, (Resolution.linked s.registry links (c :: cs)).2 =
        (Resolution.linked s.registry (s.installCall answer links c stub).1 cs).2) ∨
    ((∃ x, (s.installCall answer links c stub).2.registry.stub? (links.apply c.matcher).target.id = some x ∧
        x.entries.length = stub.entries.length + 1) ∧
      ∀ cs, Resolution.topLevel (c :: cs) = [] → (Resolution.linked s.registry links (c :: cs)).2 ≠ []) := by
  have hid : stub.id = (links.apply c.matcher).target.id := Registry.id_of_stub? hstub
  cases hlink : c.intermediate with
  | false =>
      right
      simp only [Store.installCall, hlink, Bool.false_eq_true, ↓reduceIte, hid]
      refine ⟨⟨_, Store.stub?_modify hstub fun _ => rfl, by simp [Stub.addAnswer]⟩, fun cs htop => ?_⟩
      simp [Resolution.topLevel, hlink] at htop
  | true =>
      cases hobject : c.returned.object? with
      | none => simp [Store.installCall, hlink, hobject, Resolution.linked, ResolvedCall.linkObject?]
      | some object =>
          cases hchild : stub.chainChild? (links.apply c.matcher) with
          | some child =>
              simp [Store.installCall, hlink, hobject, hchild, hstub, Resolution.linked, ResolvedCall.linkObject?]
          | none =>
              right
              simp only [Store.installCall, hlink, hobject, hchild, ↓reduceIte, hid]
              obtain ⟨x, hx, hentries⟩ := s.stub?_createChild hstub stub object.className
              refine ⟨⟨_, Store.stub?_modify hx fun _ => rfl, by simp [Stub.addAnswer, hentries]⟩, fun cs _ => ?_⟩
              simp [Resolution.linked, ResolvedCall.linkObject?, hlink, hobject, hstub, hchild]

namespace Installs

variable {answer : Answer} {links links' : Links} {s s' : Store} {cs : Resolution}

/-- Only links that children stand for are installed without a trace. -/
theorem unchanged_iff (h : Installs answer links s cs links' s') :
    s' = s ↔ cs.topLevel = [] ∧ (cs.linked s.registry links).2 = [] := by
  induction h with
  | nil => exact ⟨fun _ => ⟨rfl, rfl⟩, fun _ => rfl⟩
  | @cons links _ s s' c cs stub hstub rest ih =>
      rcases s.installCall_cases answer hstub with ⟨hsame, hlink, hlinked⟩ | ⟨⟨x, hx, hlength⟩, htraced⟩
      · have htop : Resolution.topLevel (c :: cs) = cs.topLevel := by simp [Resolution.topLevel, hlink]
        rw [hsame] at ih
        rw [ih, htop, hlinked]
      · -- The new entry is still there at the end.
        refine ⟨fun hs => ?_, fun ⟨htop, hnone⟩ => absurd hnone (htraced cs htop)⟩
        obtain ⟨y, hy, hext⟩ := rest.mono _ x hx
        rw [hs, hstub] at hy
        cases hy
        have := hext.entries.length_le
        omega

end Installs

end TestDouble
