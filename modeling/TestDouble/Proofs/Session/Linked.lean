import TestDouble.Proofs.Matcher.Replacing
import TestDouble.Proofs.Matcher.SameShape
import TestDouble.Proofs.Recording.Chaining
import TestDouble.Proofs.Session.Finishing

/-!
# Links of an installed block

Where the result of a call is the target or an argument of a later call, the earlier call is a link. In the entries
that are installed for the calls after it, the child of the link has taken the place of the object it returned.
-/

namespace TestDouble

/-! ## Which calls are links -/

/-- A call that hands its result to a later call is a link. -/
theorem Round.Hands.link {r : Round} {k id : Nat} (h : r.Hands k id) (b : Bindings) :
    ∃ c x, (r.resolved b)[k]? = some c ∧ c.linkObject? = some x ∧ x.id = id := by
  obtain ⟨c, x, hc, hx, hid⟩ := h.returns
  have hget := r.resolved_getElem? b k
  rw [hc, Option.map_some] at hget
  refine ⟨_, x, hget, ?_, hid⟩
  simp only [ResolvedCall.linkObject?, List.contains_iff_mem.mpr (mem_intermediates.mpr ⟨id, h⟩), ↓reduceIte, hx]

/-- A link has returned an object. -/
theorem Round.exists_linkObject? {r : Round} {b : Bindings} {c : ResolvedCall} (hc : c ∈ r.resolved b)
    (hlink : c.intermediate = true) : ∃ x, c.linkObject? = some x := by
  obtain ⟨⟨d, k⟩, hd, rfl⟩ := List.mem_map.mp hc
  have hk : r.calls[k]? = some d := List.mem_zipIdx_iff_getElem?.mp hd
  obtain ⟨id, hands⟩ := mem_intermediates.mp (List.contains_iff_mem.mp hlink)
  obtain ⟨d', x, hd', hx, -⟩ := hands.returns
  cases hk.symm.trans hd'
  exact ⟨x, (if_pos hlink).trans hx⟩

theorem ResolvedCall.linkObject?_eq_some {c : ResolvedCall} {x : ObjectRef} :
    c.linkObject? = some x ↔ c.intermediate = true ∧ c.returned.object? = some x := by
  rw [linkObject?, Option.ite_none_right_eq_some]

theorem ResolvedCall.returned_of_linkObject? {c : ResolvedCall} {x : ObjectRef} (h : c.linkObject? = some x) :
    c.returned.object? = some x := (linkObject?_eq_some.mp h).2

/-- Different links have returned different objects. -/
theorem Round.Recorded.links_nodup {r : Round} (h : r.Recorded) (b : Bindings) :
    (((r.resolved b).filterMap ResolvedCall.linkObject?).map (·.id)).Nodup := by
  obtain ⟨o, bound, ho, rfl⟩ := h
  have hapart := ho.sound.apart
  rw [← List.zipIdx_map_fst 0 o.round.calls, List.pairwise_map] at hapart
  rw [List.Nodup, List.pairwise_map, List.pairwise_filterMap, resolved, List.pairwise_map]
  refine hapart.imp fun hne x hx y hy => hne x y (ResolvedCall.returned_of_linkObject? hx) ?_
  exact ResolvedCall.returned_of_linkObject? hy

/-! ## What installing adds -/

namespace Store

variable {s : Store} {id mock : Nat} {stub' : Stub} {e : Entry}

theorem mem_entries_addAnswer {m : CallMatcher} {a : Answer}
    (h : (s.modify mock (·.addAnswer m a)).registry.stub? id = some stub') (he : e ∈ stub'.entries) :
    (∃ stub, s.registry.stub? id = some stub ∧ e ∈ stub.entries) ∨ e.matcher = m := by
  rw [modify] at h
  by_cases hid : id = mock
  · subst hid
    rw [Registry.stub?_modify fun x => Stub.id_addAnswer x m a] at h
    obtain ⟨stub, hstub, rfl⟩ := Option.map_eq_some_iff.mp h
    rcases List.mem_append.mp he with he | he
    · exact .inl ⟨stub, hstub, he⟩
    · exact .inr (by rw [List.mem_singleton.mp he])
  · rw [Registry.stub?_modify_of_ne (fun x => Stub.id_addAnswer x m a) hid] at h
    exact .inl ⟨stub', h, he⟩

/-- A child starts without entries. -/
theorem mem_entries_createChild {parent : Stub} {className : String}
    (h : (s.createChild parent className).2.registry.stub? id = some stub') (he : e ∈ stub'.entries) :
    ∃ stub, s.registry.stub? id = some stub ∧ e ∈ stub.entries := by
  cases hstub : s.registry.stub? id with
  | some stub =>
      obtain ⟨x, hx, hentries⟩ := s.stub?_createChild hstub parent className
      rw [h] at hx
      cases hx
      exact ⟨stub, rfl, hentries ▸ he⟩
  | none =>
      let child : Stub := { object := ⟨s.nextObject, className⟩, kind := parent.kind.forChild, parent := some parent.id }
      have hinserted : ∀ x, (s.registry.insert child).stub? id = some x → x.entries = [] := by
        intro x hx
        rw [Registry.stub?_insert, hstub, Option.none_or] at hx
        split at hx
        · cases hx; rfl
        · cases hx
      have hadopt : ∀ x : Stub, (x.adopt s.nextObject).id = x.id := fun x => Stub.id_adopt x _
      change ((s.registry.insert child).modify parent.id (·.adopt s.nextObject)).stub? id = some stub' at h
      have hnil : stub'.entries = [] := by
        by_cases hid : id = parent.id
        · rw [hid, Registry.stub?_modify hadopt, ← hid] at h
          obtain ⟨x, hx, rfl⟩ := Option.map_eq_some_iff.mp h
          rw [Stub.entries_adopt, hinserted x hx]
        · rw [Registry.stub?_modify_of_ne hadopt hid] at h
          exact hinserted stub' h
      rw [hnil] at he
      exact absurd he List.not_mem_nil

variable {links : Links} {c : ResolvedCall} {stub : Stub} {answer : Answer}

/-- Whatever a call adds has the call's own matcher, after the links so far. -/
theorem mem_entries_installCall (h : (s.installCall answer links c stub).2.registry.stub? id = some stub')
    (he : e ∈ stub'.entries) :
    (∃ old, s.registry.stub? id = some old ∧ e ∈ old.entries) ∨ e.matcher = links.apply c.matcher := by
  unfold installCall at h
  dsimp only at h
  split at h
  · split at h
    · exact .inl ⟨stub', h, he⟩
    · split at h
      · exact .inl ⟨stub', h, he⟩
      · refine (mem_entries_addAnswer h he).imp_left fun ⟨x, hx, hex⟩ => mem_entries_createChild hx hex
  · exact mem_entries_addAnswer h he

theorem installCall_of_no_link (h : c.linkObject? = none) : (s.installCall answer links c stub).1 = links := by
  unfold ResolvedCall.linkObject? at h
  unfold installCall
  dsimp only
  split at h
  · rename_i hlink
    rw [if_pos hlink, h]
  · rename_i hlink
    rw [if_neg hlink]

end Store

/-- The child of a link is what an entry of the link's shape answers with. -/
def Stub.AnswersWith (s : Stub) (m : CallMatcher) (child : ObjectRef) : Prop :=
  ∃ e ∈ s.entries, e.matcher.sameShape m = true ∧ e.answer = .constant (.object child)

theorem Stub.answersWith_of_chainChild? {s : Stub} {m : CallMatcher} {child : ObjectRef}
    (h : s.chainChild? m = some child) : s.AnswersWith m child := by
  obtain ⟨e, he, hfound⟩ := List.exists_of_findSome?_eq_some h
  refine ⟨e, List.mem_reverse.mp he, ?_⟩
  split at hfound
  · rename_i child' hanswer
    split at hfound
    · rename_i hshape
      cases hfound
      exact ⟨hshape, hanswer⟩
    · cases hfound
  · cases hfound

theorem Stub.AnswersWith.mono {s s' : Stub} {m : CallMatcher} {child : ObjectRef} (h : s.AnswersWith m child)
    (hext : s.Extends s') : s'.AnswersWith m child := by
  obtain ⟨e, he, hshape, hanswer⟩ := h
  exact ⟨e, hext.entries.subset he, hshape, hanswer⟩

theorem Store.installCall_of_link {s : Store} {links : Links} {c : ResolvedCall} {stub : Stub} {x : ObjectRef}
    (answer : Answer) (hstub : s.registry.stub? (links.apply c.matcher).target.id = some stub)
    (h : c.linkObject? = some x) : ∃ child, (s.installCall answer links c stub).1 = links ++ [(x.id, child)] ∧
      ∃ stub', (s.installCall answer links c stub).2.registry.stub? (links.apply c.matcher).target.id = some stub' ∧
        stub'.AnswersWith (links.apply c.matcher) child := by
  have hid : stub.id = (links.apply c.matcher).target.id := Registry.id_of_stub? hstub
  unfold ResolvedCall.linkObject? at h
  split at h
  · rename_i hlink
    unfold installCall
    dsimp only
    rw [if_pos hlink, h]
    dsimp only
    cases hchild : stub.chainChild? (links.apply c.matcher) with
    | some child => exact ⟨child, rfl, stub, hstub, Stub.answersWith_of_chainChild? hchild⟩
    | none =>
        obtain ⟨y, hy, -⟩ := s.stub?_createChild hstub stub x.className
        let child := (s.createChild stub x.className).1
        refine ⟨child, rfl, y.addAnswer (links.apply c.matcher) (.constant (.object child)), ?_, ?_⟩
        · dsimp only
          rw [hid]
          exact Store.stub?_modify hy fun _ => rfl
        · exact ⟨_, List.mem_append_right _ (List.mem_singleton_self _), CallMatcher.sameShape_refl _, rfl⟩
  · cases h

namespace Installs

variable {answer : Answer} {links links' : Links} {s s' : Store} {cs : Resolution}

theorem links_prefix (h : Installs answer links s cs links' s') : links <+: links' := by
  induction h with
  | nil => exact List.prefix_rfl
  | @cons links _ s _ c cs stub hstub _ ih =>
      refine List.IsPrefix.trans ?_ ih
      cases hlink : c.linkObject? with
      | none => exact (Store.installCall_of_no_link hlink).symm ▸ List.prefix_rfl
      | some x =>
          obtain ⟨child, hlinks, -⟩ := Store.installCall_of_link answer hstub hlink
          rw [hlinks]
          exact List.prefix_append _ _

/-- Every entry was there before, or was made for a call when the links before that call were known. -/
theorem entries (h : Installs answer links s cs links' s') {id : Nat} {stub' : Stub} {e : Entry}
    (hstub' : s'.registry.stub? id = some stub') (he : e ∈ stub'.entries) :
    (∃ old, s.registry.stub? id = some old ∧ e ∈ old.entries) ∨
    ∃ done c rest links₁ s₁, cs = done ++ c :: rest ∧ Installs answer links s done links₁ s₁ ∧ links₁ <+: links' ∧
      e.matcher = links₁.apply c.matcher := by
  induction h with
  | nil => exact .inl ⟨stub', hstub', he⟩
  | @cons links links' s s' c cs stub hstub rest ih =>
      rcases ih hstub' with ⟨old, hold, he⟩ | ⟨done, d, rest', links₁, s₁, rfl, hdone, hprefix, hmatcher⟩
      · rcases Store.mem_entries_installCall hold he with hold | hmatcher
        · exact .inl hold
        · have hall : Installs answer links s (c :: cs) links' s' := .cons hstub rest
          exact .inr ⟨[], c, cs, links, s, rfl, .nil links s, hall.links_prefix, hmatcher⟩
      · exact .inr ⟨c :: done, d, rest', links₁, s₁, rfl, .cons hstub hdone, hprefix, hmatcher⟩

/-- For every link the mock it is called on answers with the child. -/
theorem children (h : Installs answer links s cs links' s') : ∀ l ∈ links', l ∈ links ∨
    ∃ c ∈ cs, ∃ x, ∃ links₁ : Links, ∃ stub', c.linkObject? = some x ∧ x.id = l.1 ∧ links₁ <+: links' ∧
      s'.registry.stub? (links₁.apply c.matcher).target.id = some stub' ∧
      stub'.AnswersWith (links₁.apply c.matcher) l.2 := by
  induction h with
  | nil => exact fun l hl => .inl hl
  | @cons links links' s s' c cs stub hstub rest ih =>
      intro l hl
      have hall : Installs answer links s (c :: cs) links' s' := .cons hstub rest
      rcases ih l hl with hl | ⟨d, hd, hchild⟩
      · cases hlink : c.linkObject? with
        | none => rw [Store.installCall_of_no_link hlink] at hl; exact .inl hl
        | some x =>
            obtain ⟨child, hlinks, stub₁, hstub₁, hanswers⟩ := Store.installCall_of_link answer hstub hlink
            rw [hlinks] at hl
            rcases List.mem_append.mp hl with hl | hl
            · exact .inl hl
            · cases List.mem_singleton.mp hl
              obtain ⟨stub₂, hstub₂, hext⟩ := rest.mono _ _ hstub₁
              exact .inr ⟨c, List.mem_cons_self, x, links, stub₂, hlink, rfl, hall.links_prefix, hstub₂,
                hanswers.mono hext⟩
      · exact .inr ⟨d, List.mem_cons_of_mem c hd, hchild⟩

end Installs

/-! ## What is installed for a block -/

namespace Act

variable {σ : Type} {w w' w₁ : World σ} {i : Nat} {block : Act σ Failure Unit} {rounds : List Round} {own : Resolution}

/-- What a block is resolved to comes from its last round. -/
theorem Awaits.last (h : Awaits i block w w₁ rounds own) :
    ∃ last b, rounds.getLast? = some last ∧ own = last.resolved b := by
  cases rounds with
  | nil => cases h.resolved; exact absurd rfl h.calls
  | cons first rest =>
      obtain ⟨-, b, -, hown⟩ := Resolution.ofRounds_cons.mp h.resolved
      exact ⟨_, b, List.getLast?_eq_some_getLast (List.cons_ne_nil first rest), hown⟩

end Act

namespace Program

/-- Passes a child of one mock to the other one, and remembers which object that was. -/
def handing (method : Method) (args : Value → List Value) : Program Nat :=
  call 0 ⟨1, "Tree"⟩ { name := "child", params := [], returns := .object "Tree" } [] fun
    | .ok (.object o) => remember o.id <| call 0 ⟨2, "Garden"⟩ method (args (.object o)) fun _ => done (.ok .unit)
    | _ => done (.ok .unit)

def garden : World (Log Nat) where
  store := ((({} : Store).create "Tree" .strict).2.create "Garden" .strict).2
  sessions := [{ generator := .ofSeed none }]
  memory := { memory := 0 }

def planted (method : Method) (args : Value → List Value) : Except MockError Unit × World (Log Nat) :=
  (Act.stubbing 0 (Act.inBlock 0 (handing method args).run) (.constant .unit)).runOn garden

def plant : Method := { name := "plant", params := [.object "Tree"], returns := .unit }

def plantAll : Method := { name := "plant_all", params := [.list (.object "Tree")], returns := .unit }

end Program

end TestDouble
