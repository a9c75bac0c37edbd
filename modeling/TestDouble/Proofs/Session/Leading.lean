import TestDouble.Proofs.Session.Placing

/-!
# Where an answered block leads

A block that gets its answer is installed on the mocks that its calls are made on. A call that was made on the result
of a link is made on the child that stands for that link. Links are replaced one after another, so the child of a link
that was itself the result of a later link gives way to that link's child.
-/

namespace TestDouble

namespace Links

/-- Where an object leads when the links are replaced, one after another. -/
def lead (links : Links) (o : ObjectRef) : ObjectRef := links.foldl (fun o l => if o.id == l.1 then l.2 else o) o

variable {links links' : Links} {o : ObjectRef}

theorem target_apply (links : Links) (m : CallMatcher) : (links.apply m).target = links.lead m.target := by
  induction links generalizing m with
  | nil => rfl
  | cons l links ih => exact ih (m.replaceObject l.1 l.2)

theorem lead_append (links links' : Links) (o : ObjectRef) : (links ++ links').lead o = links'.lead (links.lead o) :=
  List.foldl_append

theorem lead_of_notMem (h : o.id ∉ links.map (·.1)) : links.lead o = o := by
  induction links with
  | nil => rfl
  | cons l links ih =>
      rw [List.map_cons, List.mem_cons, not_or] at h
      have hstays : (if o.id == l.1 then l.2 else o) = o := if_neg (by simpa using h.1)
      rw [lead, List.foldl_cons, hstays]
      exact ih h.2

theorem lead_cons_self (links : Links) (child : ObjectRef) : lead ((o.id, child) :: links) o = links.lead child := by
  rw [lead, List.foldl_cons, if_pos (beq_self_eq_true o.id), lead]

/-- What has just been linked leads to its child. -/
theorem lead_append_self (h : o.id ∉ links.map (·.1)) (child : ObjectRef) :
    lead (links ++ [(o.id, child)]) o = child := by
  rw [lead_append, lead_of_notMem h, lead_cons_self]
  rfl

end Links

namespace Placed

variable {answer : Answer} {s s' : Store} {ps before between after : List Placed} {p q : Placed} {child : ObjectRef}

theorem Installed.matcher_eq (h : p.Installed answer s s' before) :
    p.matcher = (links before).apply p.call.matcher := by
  cases h <;> rfl

theorem Installed.fresh (h : p.Installed answer s s' before) (hchild : p.created? = some child) :
    s.nextObject ≤ child.id := by
  cases h with
  | answered c hcall => cases hchild
  | reused c hlink hstub hchild' => cases hchild
  | created c hlink hstub hnone hclass hadopted => cases hchild; exact hadopted.fresh

/-- What a link has returned is known by its identity. -/
theorem link?_eq_some {l : Nat × ObjectRef} (h : q.link? = some l) : ∃ x, q.call.linkObject? = some x ∧ x.id = l.1 := by
  obtain ⟨child, -, h⟩ := Option.bind_eq_some_iff.mp h
  obtain ⟨x, hx, rfl⟩ := Option.map_eq_some_iff.mp h
  exact ⟨x, hx, rfl⟩

theorem links_sublist (ps : List Placed) : List.Sublist ((links ps).map (·.1))
    (((ps.map Placed.call).filterMap ResolvedCall.linkObject?).map (·.id)) := by
  induction ps with
  | nil => exact .slnil
  | cons p ps ih =>
      rw [links, List.map_cons]
      cases hl : p.link? with
      | none =>
          rw [List.filterMap_cons_none hl]
          refine ih.trans ?_
          cases hx : p.call.linkObject? with
          | none => rw [List.filterMap_cons_none hx]
          | some x => rw [List.filterMap_cons_some hx]; exact List.sublist_cons_self _ _
      | some l =>
          obtain ⟨x, hx, hid⟩ := link?_eq_some hl
          rw [List.filterMap_cons_some hl, List.filterMap_cons_some hx, List.map_cons, List.map_cons, hid]
          exact ih.cons_cons l.1

/-- A call on the result of a link is made on the child, or where the links in between lead from there. -/
theorem Installed.leads (h : p.Installed answer s s' (before ++ q :: between))
    (hq : q.link? = some (p.call.matcher.target.id, child))
    (hnodup : ((links (before ++ q :: between)).map (·.1)).Nodup) :
    p.matcher.target = (links between).lead child := by
  have hlinks : links (before ++ q :: between) =
      links before ++ (p.call.matcher.target.id, child) :: links between := by
    rw [links, List.filterMap_append, List.filterMap_cons_some hq, links, links]
  rw [hlinks, List.map_append, List.nodup_append] at hnodup
  have hfirst : p.call.matcher.target.id ∉ (links before).map (·.1) := fun hmem =>
    hnodup.2.2 _ hmem _ List.mem_cons_self rfl
  rw [h.matcher_eq, Links.target_apply, hlinks, Links.lead_append, Links.lead_of_notMem hfirst, Links.lead_cons_self]

end Placed

/-! ## The answered block -/

namespace Act

variable {σ : Type} {w w' : World σ}

/-- When a recorded block gets its answer, all mocks remain, and every mock keeps its entries and gets one at the end
for each call that is placed on it with an answer. A call that is no link is placed with the answer of the user. A link
is placed without an entry if its mock answers it with an object already, and otherwise with a new child that the mock
tracks. A call on the result of a link is placed on its child; on what a link in between leads to, if that child was the
result of such a link. Nothing is pending then. -/
theorem attachAnswer_places (i : Nat) (answer : Answer) (hw : w.Traced []) (hi : (w.session i).Consistent)
    (h : (attachAnswer i answer).runOn w = (.ok (), w')) :
    ∃ ps : List Placed, (w.session i).resolution = some (ps.map Placed.call) ∧
      w.store.Remains w'.store ∧
      (∀ mock, Placed.Added mock ps (w.store.entriesOf mock) (w'.store.entriesOf mock)) ∧
      Placed.Each (Placed.Installed answer w.store w'.store) ps ∧
      (∀ p ∈ ps, (w'.store.registry.stub? p.matcher.target.id).isSome) ∧
      (∀ before q between p after child, ps = before ++ q :: between ++ p :: after →
        q.link? = some (p.call.matcher.target.id, child) →
        p.matcher.target = (Placed.links between).lead child ∧
        (q.created? = some child ∨ child.id ∉ (Placed.links between).map (·.1) → p.matcher.target = child)) ∧
      (w'.session i).Idle := by
  obtain ⟨hphase, res, links, hres, hinst⟩ := attachAnswer_ok h
  have htraced := (hw.sessions i).resolution res hres
  obtain ⟨ps, rfl, hps⟩ := hinst.places rfl (.start_with hw.start) fun c hc => htraced.exists_linkObject? hc
  rw [List.nil_append] at hps
  have hsublist := Placed.links_sublist ps
  have hnodup := hsublist.nodup htraced.links_nodup
  refine ⟨ps, hres, hps.remains, hps.entries, hps.installed, hps.targets, ?_, ?_⟩
  · intro before q between p after child hsplit hq
    have hp := hps.installed (before ++ q :: between) p after hsplit
    have hleads := hp.leads hq (((List.Sublist.filterMap _ (hsplit ▸ List.sublist_append_left _ _)).map _).nodup hnodup)
    refine ⟨hleads, fun hown => hleads.trans (Links.lead_of_notMem ?_)⟩
    rcases hown with hnew | hother
    · -- The results of links are older than the new child.
      intro hmem
      have hbetween : List.Sublist between ps := by
        rw [hsplit]
        exact ((List.sublist_cons_self q between).trans (List.sublist_append_right _ _)).trans
          (List.sublist_append_left _ _)
      obtain ⟨x, hx, hid⟩ := List.mem_map.mp (hsublist.subset (((hbetween.filterMap _).map _).subset hmem))
      obtain ⟨c, hc, hlink⟩ := List.mem_filterMap.mp hx
      have hq := hps.installed before q (between ++ p :: after) (by simpa using hsplit)
      have hold := (htraced.apart hc (ResolvedCall.returned_of_linkObject? hlink)).1
      exact absurd (hid ▸ hold) (Nat.not_lt.mpr (hq.fresh hnew))
    · exact hother
  · have hrun := (runOn_attachAnswer hphase hres hinst).symm.trans h
    have hi' : i < w.sessions.length := by
      refine Nat.lt_of_not_le fun hle => ?_
      rw [World.session_of_le hle, World.newSession_idle.phase] at hphase
      cases hphase
    rw [Session.Consistent, hphase] at hi
    obtain ⟨-, hworld⟩ := Prod.mk.inj hrun
    rw [← hworld, World.session_modifySession_self (w := { w with store := w'.store }) hi']
    exact ⟨rfl, hi.1, rfl, hi.2.2.1, hi.2.2.2⟩

end Act

/-! ## Two links -/

namespace Program

def childMethod : Method := { name := "child", params := [], returns := .object "Tree" }

def grow : Method := { name := "grow", params := [], returns := .unit }

/-- The tree and the garden each give a child, and the garden's child grows before the tree's child does. The program
remembers the garden's child. -/
def growing : Program Nat :=
  call 0 ⟨1, "Tree"⟩ childMethod [] fun
    | .ok (.object x) => call 0 ⟨2, "Garden"⟩ childMethod [] fun
        | .ok (.object y) => remember y.id <| call 0 y grow [] fun _ => call 0 x grow [] fun _ => done (.ok .unit)
        | _ => done (.ok .unit)
    | _ => done (.ok .unit)

/-- The block is recorded, and something is done to the store before it gets its answer. -/
def growingThen (f : Nat → Store → Store) : Program Nat :=
  command 0 .beginStubbing fun _ => statement 0 .runRecordedBlock growing fun _ =>
    look fun w => useStore (fun s => ((), f w.memory.memory s)) fun _ => done (.ok .unit)

def recordedGrowing (f : Nat → Store → Store) : World (Log Nat) := ((growingThen f).run.runOn garden).2

def answeredGrowing (f : Nat → Store → Store) : Except MockError Unit × World (Log Nat) :=
  (Act.attachAnswer 0 (.constant .unit)).runOn (recordedGrowing f)

theorem begins_garden : garden.Begins where
  store := (Relation.ReflTransGen.single (.create "Tree" .strict)).tail (.create "Garden" .strict)
  idle s hs := by cases List.mem_singleton.mp hs; exact ⟨rfl, rfl, rfl, rfl, rfl⟩
  moments := rfl

theorem uses_growing : growing.Uses Store.Evolves := by
  intro r
  dsimp only
  split
  · intro r
    dsimp only
    split
    · exact fun _ _ => trivial
    · trivial
  · trivial

theorem uses_growingThen {f : Nat → Store → Store} (hf : ∀ n s, Store.Evolves s (f n s)) :
    (growingThen f).Uses Store.Evolves :=
  fun _ => ⟨uses_growing, fun _ w => ⟨fun s => hf w.memory.memory s, fun _ => trivial⟩⟩

/-- What has been installed on a mock. -/
def registeredOn (w : World (Log Nat)) (mock : Nat) : Option (List String) :=
  (w.store.registry.stub? mock).map Stub.registered

def leaveAsIs (_ : Nat) (s : Store) : Store := s

/-- Without older entries both links get children, and those grow. -/
theorem attachAnswer_places_growing :
    (∃ ps : List Placed, ((recordedGrowing leaveAsIs).session 0).resolution = some (ps.map Placed.call) ∧
      Placed.Each (Placed.Installed (.constant .unit) (recordedGrowing leaveAsIs).store
        (answeredGrowing leaveAsIs).2.store) ps ∧
      ((answeredGrowing leaveAsIs).2.session 0).Idle) ∧
      (recordedGrowing leaveAsIs).memory.memory = 10 ∧
      registeredOn (answeredGrowing leaveAsIs).2 1 = some ["Tree#1.child()"] ∧
      registeredOn (answeredGrowing leaveAsIs).2 2 = some ["Garden#2.child()"] ∧
      registeredOn (answeredGrowing leaveAsIs).2 11 = some ["Tree#11.grow()"] ∧
      registeredOn (answeredGrowing leaveAsIs).2 12 = some ["Tree#12.grow()"] := by
  refine ⟨?_, by decide +kernel⟩
  have hok : (answeredGrowing leaveAsIs).1.isOk = true := by decide +kernel
  have hrecorded := (growingThen leaveAsIs).run_traced (uses_growingThen fun _ _ => .refl) begins_garden
  rcases hrun : answeredGrowing leaveAsIs with ⟨_ | _, w'⟩
  · rw [hrun] at hok
    cases hok
  · rw [answeredGrowing] at hrun
    -- From here on nothing is evaluated.
    generalize hw : recordedGrowing leaveAsIs = w at hrun
    rw [← recordedGrowing, hw] at hrecorded
    obtain ⟨htraced, hconsistent⟩ := hrecorded
    obtain ⟨ps, hres, -, -, heach, -, -, hidle⟩ :=
      Act.attachAnswer_places 0 (.constant .unit) htraced (hconsistent 0) hrun
    exact ⟨ps, hres, heach, hidle⟩

/-- The tree answers with an object before the block gets its answer. -/
def answerWith (n : Nat) (s : Store) : Store :=
  s.modify 1 (·.addAnswer ⟨⟨1, "Tree"⟩, childMethod, []⟩ (.constant (.object ⟨n, "Tree"⟩)))

/-- If what the tree answers with already is the result of the garden's link, that is no mock, so no call can be
installed on it: the call on the tree's child ends up on the garden's. -/
theorem attachAnswer_places_elsewhere :
    let m : CallMatcher := ⟨⟨1, "Tree"⟩, childMethod, []⟩
    (answeredGrowing answerWith).1.isOk = true ∧
      ((recordedGrowing answerWith).session 0).resolution.map
        (·.map fun c => (c.matcher.target.id, c.linkObject?.map (·.id))) =
        some [(1, some 9), (2, some 10), (10, none), (9, none)] ∧
      (((recordedGrowing answerWith).store.registry.stub? 1).bind (·.chainChild? m)).map (·.id) = some 10 ∧
      registeredOn (answeredGrowing answerWith).2 1 = some ["Tree#1.child()"] ∧
      registeredOn (answeredGrowing answerWith).2 10 = none ∧
      registeredOn (answeredGrowing answerWith).2 11 = some ["Tree#11.grow()", "Tree#11.grow()"] := by
  decide +kernel

end Program

end TestDouble
