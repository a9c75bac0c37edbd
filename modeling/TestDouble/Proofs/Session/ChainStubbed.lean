import TestDouble.Proofs.Session.ChainRounds
import TestDouble.Proofs.Stub.Giving

/-!
# Installing a chain by example

A link is installed as a new child with an entry that answers with it, or the child of an older entry stands for it.
That entry keeps its place among the others, and the child may be gone. Installing succeeds where no such child is
gone. Where each of them also is what its mock gives, the calls of the chain lead to its answer.
-/

namespace TestDouble

/-! ## Replacing links -/

namespace Links

variable {links : Links} {n m : Nat}

/-- Other links are not mentioned. -/
theorem apply_literal {c : Call} (hlinks : ∀ p ∈ links, n ≤ p.1 ∧ p.1 ≠ c.target.id)
    (hargs : ∀ v ∈ c.args, v.Below n) : links.apply (.literal c) = .literal c := by
  induction links with
  | nil => rfl
  | cons p links ih =>
      have hne : (c.target.id == p.1) = false := beq_false_of_ne (hlinks p List.mem_cons_self).2.symm
      rw [apply, List.foldl_cons, CallMatcher.replaceObject_literal hargs (hlinks p List.mem_cons_self).1, hne]
      exact ih fun q hq => hlinks q (List.mem_cons_of_mem p hq)

/-- Literal calls on `t` become calls on `t'`, and all links lie between the bounds. -/
structure Sends (links : Links) (n m : Nat) (t t' : ObjectRef) : Prop where
  between : ∀ p ∈ links, n ≤ p.1 ∧ p.1 < m
  apply : ∀ c : Call, c.target = t → (∀ v ∈ c.args, v.Below n) →
    links.apply (.literal c) = .literal { c with target := t' }

theorem Sends.start (n m : Nat) (t : ObjectRef) : Sends [] n m t t := ⟨nofun, fun c hc _ => by subst hc; rfl⟩

/-- The newest link is the one that counts. -/
theorem Sends.link {t t' next : ObjectRef} (h : links.Sends n m t t') (hnm : n ≤ m) (hle : m ≤ next.id) {m' : Nat}
    (hlt : next.id < m') (child : ObjectRef) : Sends (links ++ [(next.id, child)]) n m' next child where
  between p hp := by
    rcases List.mem_append.mp hp with hp | hp
    · exact ⟨(h.between p hp).1, Nat.lt_trans (Nat.lt_of_lt_of_le (h.between p hp).2 hle) hlt⟩
    · cases List.mem_singleton.mp hp
      exact ⟨Nat.le_trans hnm hle, hlt⟩
  apply c hc hargs := by
    have hother : ∀ p ∈ links, n ≤ p.1 ∧ p.1 ≠ c.target.id := fun p hp =>
      ⟨(h.between p hp).1, by rw [hc]; exact Nat.ne_of_lt (Nat.lt_of_lt_of_le (h.between p hp).2 hle)⟩
    rw [Links.apply, List.foldl_append]
    change CallMatcher.replaceObject next.id child (links.apply (.literal c)) = _
    rw [apply_literal hother hargs, CallMatcher.replaceObject_literal hargs (Nat.le_trans hnm hle), hc,
      beq_self_eq_true, if_pos rfl]

end Links

/-! ## New children -/

theorem Stub.chainChild?_of_empty {stub : Stub} (h : stub.entries = []) (m : CallMatcher) :
    stub.chainChild? m = none := by
  rw [chainChild?, candidates, h]
  rfl

namespace Store

/-- A new child of this mock, and the entry that answers the call with it. -/
def addChild (s : Store) (stub : Stub) (className : String) (c : Call) : Store :=
  (s.createChild stub className).2.modify stub.id
    (·.addAnswer (.literal c) (.constant (.object ⟨s.nextObject, className⟩)))

variable {s : Store} {stub : Stub} {c : Call}

theorem Sound.addChild (hs : s.Sound) (stub : Stub) (className : String) (c : Call) :
    (s.addChild stub className c).Sound := (hs.createChild stub className).addAnswer _ _ _

/-- The call gets the child. -/
theorem gives_addChild (hstub : s.registry.stub? c.target.id = some stub) (hself : c.sameAs c = true)
    (className : String) : (s.addChild stub className c).Gives c (.object ⟨s.nextObject, className⟩) := by
  obtain ⟨parent, hparent, -⟩ := s.stub?_createChild hstub stub className
  rw [addChild, Registry.id_of_stub? hstub]
  exact Gives.of_addAnswer hparent hself _

/-- Other calls get what they got before. -/
theorem Gives.addChild {d : Call} {v : Value} (h : s.Gives d v) (hother : c.sameAs d = false) (stub : Stub)
    (className : String) : (s.addChild stub className c).Gives d v :=
  (h.createChild stub className).addAnswer hother _ _

/-- The child has no entries. -/
theorem Sound.stub?_addChild (hs : s.Sound) (hstub : s.registry.stub? c.target.id = some stub) (className : String) :
    ∃ x, (s.addChild stub className c).registry.stub? s.nextObject = some x ∧ x.entries = [] := by
  have hne : s.nextObject ≠ stub.id := by
    rw [Registry.id_of_stub? hstub]
    exact Nat.ne_of_gt (hs.lt_nextObject hstub)
  rw [Store.addChild, Store.modify]
  dsimp only
  rw [Registry.stub?_modify_of_ne (fun x => Stub.id_addAnswer x _ _) hne, stub?_createChild_of_ne s stub className hne,
    hs.stub?_eq_none (Nat.le_refl _), Option.none_or]
  exact ⟨_, if_pos (beq_self_eq_true s.nextObject), rfl⟩

variable {answer : Answer} {links : Links} {r : ResolvedCall} {next : ObjectRef}

/-- A link that a child stands for is known from then on. -/
theorem installCall_known {child : ObjectRef} (hlink : r.intermediate = true) (hnext : r.returned.object? = some next)
    (hsome : stub.chainChild? (links.apply r.matcher) = some child) :
    s.installCall answer links r stub = (links ++ [(next.id, child)], s) := by
  simp [installCall, hlink, hnext, hsome]

/-- Any other link gets a new child. -/
theorem installCall_fresh (hlink : r.intermediate = true) (hnext : r.returned.object? = some next)
    (hmatcher : links.apply r.matcher = .literal c) (hnone : stub.chainChild? (.literal c) = none) :
    s.installCall answer links r stub =
      (links ++ [(next.id, ⟨s.nextObject, next.className⟩)], s.addChild stub next.className c) := by
  simp only [installCall, hlink, ↓reduceIte, hnext, hmatcher, hnone]
  rfl

theorem installCall_last {m : CallMatcher} (hlast : r.intermediate = false) (hmatcher : links.apply r.matcher = m)
    (hstub : s.registry.stub? m.target.id = some stub) :
    s.installCall answer links r stub = (links, s.modify m.target.id (·.addAnswer m answer)) := by
  simp [installCall, hlast, hmatcher, Registry.id_of_stub? hstub]

end Store

/-- One call is installed, then the rest. -/
theorem Installs.of_installCall {answer : Answer} {links links₁ links' : Links} {s s₁ s' : Store} {r : ResolvedCall}
    {cs : Resolution} {stub : Stub} {m : CallMatcher} (hmatcher : links.apply r.matcher = m)
    (hstub : s.registry.stub? m.target.id = some stub) (hcall : s.installCall answer links r stub = (links₁, s₁))
    (rest : Installs answer links₁ s₁ cs links' s') : Installs answer links s (r :: cs) links' s' := by
  refine .cons (by rw [hmatcher]; exact hstub) ?_
  rw [hcall]
  exact rest

namespace ChainExample

/-- Up to the first link that no entry of its mock stands for, all mocks are registered. -/
inductive Standing (s : Store) : ObjectRef → List Link → Prop where
  | last {t : ObjectRef} {stub : Stub} (hstub : s.registry.stub? t.id = some stub) : Standing s t []
  | fresh {t : ObjectRef} {l : Link} {ls : List Link} {stub : Stub} (hstub : s.registry.stub? t.id = some stub)
      (hnone : stub.chainChild? (.literal (l.on t)) = none) : Standing s t (l :: ls)
  | known {t child : ObjectRef} {l : Link} {ls : List Link} {stub : Stub} (hstub : s.registry.stub? t.id = some stub)
      (hsome : stub.chainChild? (.literal (l.on t)) = some child) (rest : Standing s child ls) : Standing s t (l :: ls)

/-- All these mocks are registered, and each gives the child that stands for its link. The call that adds the first
entry is none of those already seen, whose answers it would replace. -/
inductive Passable (e : ChainExample) (s : Store) : List Call → ObjectRef → List Link → Prop where
  | last {seen : List Call} {t : ObjectRef} {stub : Stub} (hstub : s.registry.stub? t.id = some stub)
      (hnew : ∀ c ∈ seen, (e.lastOn t).sameAs c = false) : Passable e s seen t []
  | fresh {seen : List Call} {t : ObjectRef} {l : Link} {ls : List Link} {stub : Stub}
      (hstub : s.registry.stub? t.id = some stub) (hnone : stub.chainChild? (.literal (l.on t)) = none)
      (hnew : ∀ c ∈ seen, (l.on t).sameAs c = false) : Passable e s seen t (l :: ls)
  | known {seen : List Call} {t child : ObjectRef} {l : Link} {ls : List Link} {stub : Stub}
      (hstub : s.registry.stub? t.id = some stub) (hsome : stub.chainChild? (.literal (l.on t)) = some child)
      (hgives : stub.Gives (l.on t) (.object child)) (rest : Passable e s (l.on t :: seen) child ls) :
      Passable e s seen t (l :: ls)

/-- Following the chain from this mock leads to the value. -/
inductive Delivers (e : ChainExample) (s : Store) (v : Value) : ObjectRef → List Link → Prop where
  | last {t : ObjectRef} (h : s.Gives (e.lastOn t) v) : Delivers e s v t []
  | link {t child : ObjectRef} {l : Link} {ls : List Link} (h : s.Gives (l.on t) (.object child))
      (rest : Delivers e s v child ls) : Delivers e s v t (l :: ls)

variable {e : ChainExample} {s : Store} {seen : List Call} {t : ObjectRef} {ls : List Link}

theorem Standing.of_empty {stub : Stub} (hstub : s.registry.stub? t.id = some stub) (hempty : stub.entries = [])
    (ls : List Link) : Standing s t ls := by
  cases ls with
  | nil => exact .last hstub
  | cons l ls => exact .fresh hstub (Stub.chainChild?_of_empty hempty _)

/-- From a mock without entries any chain can be installed. -/
theorem Passable.of_empty {stub : Stub} (hstub : s.registry.stub? t.id = some stub) (hempty : stub.entries = [])
    (hseen : ∀ c ∈ seen, c.target.id ≠ t.id) (ls : List Link) : e.Passable s seen t ls := by
  have hother : ∀ c ∈ seen, ∀ d : Call, d.target = t → d.sameAs c = false := by
    intro c hc d hd
    have htarget : (d.target == c.target) = false := by
      rw [Bool.eq_false_iff, Ne, ObjectRef.beq_iff, hd]
      exact (hseen c hc).symm
    rw [Call.sameAs, htarget]
    rfl
  cases ls with
  | nil => exact .last hstub fun c hc => hother c hc _ rfl
  | cons l ls =>
      exact .fresh hstub (Stub.chainChild?_of_empty hempty _) fun c hc => hother c hc _ rfl

/-- Only the registry decides. -/
theorem Standing.of_registry (h : Standing s t ls) {s' : Store} (hs : s'.registry = s.registry) :
    Standing s' t ls := by
  induction h with
  | last hstub => exact .last (hs ▸ hstub)
  | fresh hstub hnone => exact .fresh (hs ▸ hstub) hnone
  | known hstub hsome _ ih => exact .known (hs ▸ hstub) hsome ih

theorem Passable.standing (h : e.Passable s seen t ls) : Standing s t ls := by
  induction h with
  | last hstub _ => exact .last hstub
  | fresh hstub hnone _ => exact .fresh hstub hnone
  | known hstub hsome _ _ ih => exact .known hstub hsome ih

/-- Only the registry decides. -/
theorem Passable.of_registry (h : e.Passable s seen t ls) {s' : Store} (hs : s'.registry = s.registry) :
    e.Passable s' seen t ls := by
  induction h with
  | last hstub hnew => exact .last (hs ▸ hstub) hnew
  | fresh hstub hnone hnew => exact .fresh (hs ▸ hstub) hnone hnew
  | known hstub hsome hgives _ ih => exact .known (hs ▸ hstub) hsome hgives ih

/-- What installing a chain brings about. -/
structure Installed (e : ChainExample) (v : Value) (links : Links) (s : Store) (seen : List Call) (res : Resolution)
    (t : ObjectRef) (ls : List Link) (links' : Links) (s' : Store) : Prop where
  installs : Installs (.constant v) links s res links' s'
  sound : s'.Sound
  delivers : e.Delivers s' v t ls
  seen : ∀ c ∈ seen, ∀ u, s.Gives c u → s'.Gives c u

namespace Installed

variable {v : Value} {links links' links₁ : Links} {s' s₁ : Store} {res : Resolution} {c : ResolvedCall} {stub : Stub}

theorem last (hmatcher : links.apply c.matcher = .literal (e.lastOn t)) (hlast : c.intermediate = false)
    (hstub : s.registry.stub? t.id = some stub) (hself : (e.lastOn t).sameAs (e.lastOn t) = true) (hs : s.Sound)
    (hnew : ∀ c ∈ seen, (e.lastOn t).sameAs c = false) : e.Installed v links s seen [c] t [] links
      (s.modify t.id (·.addAnswer (.literal (e.lastOn t)) (.constant v))) where
  installs := .of_installCall hmatcher hstub (Store.installCall_last hlast hmatcher hstub) (.nil _ _)
  sound := hs.addAnswer _ _ _
  delivers := .last (Store.Gives.of_addAnswer (c := e.lastOn t) hstub hself v)
  seen c hc _ hu := hu.addAnswer (hnew c hc) _ _

/-- A link is installed once its child is what the call gives, and the rest of the chain is. -/
theorem link {l : Link} {child : ObjectRef} (hmatcher : links.apply c.matcher = .literal (l.on t))
    (hstub : s.registry.stub? t.id = some stub) (hcall : s.installCall (.constant v) links c stub = (links₁, s₁))
    (hgives : s₁.Gives (l.on t) (.object child)) (hkeeps : ∀ c ∈ seen, ∀ u, s.Gives c u → s₁.Gives c u)
    (h : e.Installed v links₁ s₁ (l.on t :: seen) res child ls links' s') :
    e.Installed v links s seen (c :: res) t (l :: ls) links' s' where
  installs := .of_installCall hmatcher hstub hcall h.installs
  sound := h.sound
  delivers := .link (h.seen _ List.mem_cons_self _ hgives) h.delivers
  seen c hc u hu := h.seen c (List.mem_cons_of_mem _ hc) u (hkeeps c hc u hu)

end Installed

/-- A described call is made on what stands for its target. -/
theorem Literals.apply {n m : Nat} {links : Links} {d : Call} {t' : ObjectRef} {c : ResolvedCall}
    (h : Literals n d.args) (hsends : links.Sends n m d.target t') (hmatcher : c.matcher = .literal d) :
    links.apply c.matcher = .literal { d with target := t' } := by
  rw [hmatcher]
  exact hsends.apply d rfl fun v hv => (h v hv).2

/-- What can be installed is installed. -/
theorem Described.exists_installed {n m : Nat} {res : Resolution} (h : e.Described m t ls res)
    (hlinks : ∀ l ∈ ls, Literals n l.args) (hlast : Literals n e.args) (hnm : n ≤ m) {links : Links} {t' : ObjectRef}
    (hsends : links.Sends n m t t') (hs : s.Sound) (hseen : ∀ c ∈ seen, ∃ u, s.Gives c u)
    (hpass : e.Passable s seen t' ls) (v : Value) : ∃ links' s', e.Installed v links s seen res t' ls links' s' := by
  induction h generalizing links s t' seen with
  | @last _ t _ hmatcher hlink =>
      cases hpass with
      | last hstub hnew =>
          exact ⟨_, _, .last (hlast.apply hsends hmatcher) hlink hstub hlast.sameAs_self hs hnew⟩
  | @link _ m' t next l ls c _ hmatcher hlink hnext hle hlt _ ih =>
      have hargs := hlinks l List.mem_cons_self
      have hself : (l.on t').sameAs (l.on t') = true := hargs.sameAs_self
      have hm : links.apply c.matcher = .literal (l.on t') := hargs.apply hsends hmatcher
      have hrest := fun l' hl => hlinks l' (List.mem_cons_of_mem l hl)
      have hnm' : n ≤ m' := Nat.le_trans (Nat.le_trans hnm hle) (Nat.le_of_lt hlt)
      cases hpass with
      | @known _ _ child _ _ stub hstub hsome hgives hrestpass =>
          have hcall : s.installCall (.constant v) links c stub = _ := Store.installCall_known hlink hnext (hm ▸ hsome)
          have hknown : s.Gives (l.on t') (.object child) := ⟨stub, hstub, hgives⟩
          obtain ⟨links', s', hi⟩ := ih hrest hnm' (hsends.link hnm hle hlt child) hs
            (List.forall_mem_cons.mpr ⟨⟨_, hknown⟩, hseen⟩) hrestpass
          exact ⟨links', s', .link hm hstub hcall hknown (fun _ _ _ hu => hu) hi⟩
      | @fresh _ _ _ _ stub hstub hnone hnew =>
          let child : ObjectRef := ⟨s.nextObject, next.className⟩
          let s₁ := s.addChild stub next.className (l.on t')
          have hcall : s.installCall (.constant v) links c stub = (links ++ [(next.id, child)], s₁) :=
            Store.installCall_fresh hlink hnext hm hnone
          have hgives : s₁.Gives (l.on t') (.object child) := Store.gives_addChild hstub hself _
          have hkeeps : ∀ c ∈ seen, ∀ u, s.Gives c u → s₁.Gives c u := fun c hc _ hu => hu.addChild (hnew c hc) _ _
          have hseen' : ∀ c ∈ seen, ∃ u, s₁.Gives c u := fun c hc => (hseen c hc).imp fun u hu => hkeeps c hc u hu
          -- The child is new, so nothing has been called on it.
          have hother : ∀ c ∈ l.on t' :: seen, c.target.id ≠ child.id := by
            refine List.forall_mem_cons.mpr ⟨Nat.ne_of_lt (hs.lt_nextObject hstub), fun c hc => ?_⟩
            obtain ⟨-, stub', hstub', -⟩ := hseen c hc
            exact Nat.ne_of_lt (hs.lt_nextObject hstub')
          obtain ⟨x, hx, hempty⟩ := hs.stub?_addChild (c := l.on t') hstub next.className
          obtain ⟨links', s', hi⟩ := ih hrest hnm' (hsends.link hnm hle hlt child) (hs.addChild stub next.className _)
            (List.forall_mem_cons.mpr ⟨⟨_, hgives⟩, hseen'⟩) (.of_empty hx hempty hother ls)
          exact ⟨links', s', .link hm hstub hcall hgives hkeeps hi⟩

/-- A chain is installed exactly if no child that stands for one of its links is gone. -/
theorem Described.installs_iff {n m : Nat} {res : Resolution} (h : e.Described m t ls res)
    (hlinks : ∀ l ∈ ls, Literals n l.args) (hlast : Literals n e.args) (hnm : n ≤ m) {links : Links} {t' : ObjectRef}
    (hsends : links.Sends n m t t') (hs : s.Sound) (answer : Answer) :
    (∃ links' s', Installs answer links s res links' s') ↔ Standing s t' ls := by
  induction h generalizing links s t' with
  | @last _ t _ hmatcher hlink =>
      have hm := hlast.apply (d := e.lastOn t) hsends hmatcher
      constructor
      · rintro ⟨links', s', hinst⟩
        cases hinst with
        | cons hstub _ =>
            rw [hm] at hstub
            exact .last hstub
      · intro hstanding
        cases hstanding with
        | last hstub => exact ⟨_, _, .of_installCall hm hstub (Store.installCall_last hlink hm hstub) (.nil _ _)⟩
  | @link _ m' t next l ls c _ hmatcher hlink hnext hle hlt _ ih =>
      have hm : links.apply c.matcher = .literal (l.on t') := (hlinks l List.mem_cons_self).apply hsends hmatcher
      have hrest := fun l' hl => hlinks l' (List.mem_cons_of_mem l hl)
      have hnm' : n ≤ m' := Nat.le_trans (Nat.le_trans hnm hle) (Nat.le_of_lt hlt)
      constructor
      · rintro ⟨links', s', hinst⟩
        cases hinst with
        | @cons _ _ _ _ _ _ stub hstub rest =>
            rw [hm] at hstub
            cases hchild : stub.chainChild? (.literal (l.on t')) with
            | none => exact .fresh hstub hchild
            | some child =>
                rw [Store.installCall_known hlink hnext (hm ▸ hchild)] at rest
                exact .known hstub hchild ((ih hrest hnm' (hsends.link hnm hle hlt child) hs).mp ⟨_, _, rest⟩)
      · intro hstanding
        cases hstanding with
        | known hstub hsome rest =>
            obtain ⟨links', s', hi⟩ := (ih hrest hnm' (hsends.link hnm hle hlt _) hs).mpr rest
            exact ⟨_, _, .of_installCall hm hstub (Store.installCall_known hlink hnext (hm ▸ hsome)) hi⟩
        | @fresh _ _ _ stub hstub hnone =>
            obtain ⟨x, hx, hempty⟩ := hs.stub?_addChild (c := l.on t') hstub next.className
            have hs₁ := hs.addChild stub next.className (l.on t')
            obtain ⟨links', s', hi⟩ := (ih hrest hnm' (hsends.link hnm hle hlt _) hs₁).mpr
              (.of_empty (t := ⟨s.nextObject, next.className⟩) hx hempty ls)
            exact ⟨_, _, .of_installCall hm hstub (Store.installCall_fresh hlink hnext hm hnone) hi⟩

end ChainExample

end TestDouble
