import TestDouble.Proofs.Session.Answering
import TestDouble.Proofs.Session.ChainStubbed

/-!
# Following a chain for real

After a statement by example has been installed, the calls of its chain lead from mock to mock to its answer.
-/

namespace TestDouble

/-- What a mock gives is what a call returns, and it gives the same ever after. -/
theorem Store.Gives.exists_intercept {σ : Type} {w : World σ} {j : Nat} {c : Call} {v : Value} (h : w.store.Gives c v)
    (hs : w.store.Sound) (hround : (w.session j).round = none) (underlying : Option (Underlying σ)) : ∃ s,
      (Act.intercept j c.target c.method c.args underlying).runOn w = (.ok v, { w with store := s }) ∧
      s.Sound ∧ w.store.KeepsGiving s := by
  let d := w.nextCall j c.target c.method c.args
  have hsame : w.store.KeepsGiving w.callingStore := .of_registry rfl
  have hsound : w.callingStore.Sound := hs.of_subset (fun _ hx => hx) (Nat.le_refl _)
  have hgives : w.callingStore.Gives d v := hsame _ _ (h.repeats ⟨rfl, rfl, rfl⟩)
  obtain ⟨s, hres, hkeeps⟩ := hgives.resolve hsound (w.logs d)
  obtain ⟨stub, hstub, -⟩ := h
  obtain ⟨stub', hstub', -⟩ := hkeeps _ _ hgives
  obtain ⟨caller, hcaller⟩ := Act.exists_answerCall hround c.target c.method c.args underlying
  refine ⟨s, ?_, ?_, hsame.trans hkeeps⟩
  · rw [hcaller]
    exact Act.runOn_answerCall rfl hstub hres hstub' fun w' => rfl
  · have hsound' := hsound.resolve d.target.id d (w.logs d)
    rwa [hres] at hsound'

namespace ChainExample

variable {σ : Type} {w : World σ} {e : ChainExample} {v : Value}

theorem Delivers.mono {s s' : Store} {t : ObjectRef} {ls : List Link} (h : e.Delivers s v t ls)
    (hkeeps : s.KeepsGiving s') : e.Delivers s' v t ls := by
  induction h with
  | last h => exact .last (hkeeps _ _ h)
  | link h _ ih => exact .link (hkeeps _ _ h) ih

/-- Every link gives the object that the next call is made on, and the last call gives the value. -/
theorem Delivers.exists_follow {j : Nat} {t : ObjectRef} {ls : List Link} (h : e.Delivers w.store v t ls)
    (hs : w.store.Sound) (hround : (w.session j).round = none) : ∃ s,
      (e.follow j t ls).runOn w = (.ok v, { w with store := s }) := by
  induction ls generalizing w t with
  | nil =>
      cases h with
      | last h =>
          obtain ⟨s, hrun, -, -⟩ := h.exists_intercept hs hround none
          exact ⟨s, hrun⟩
  | cons l ls ih =>
      cases h with
      | link h rest =>
          obtain ⟨s₁, hrun, hs₁, hkeeps⟩ := h.exists_intercept hs hround none
          obtain ⟨s, hrest⟩ := ih (w := { w with store := s₁ }) (rest.mono hkeeps) hs₁ hround
          have hcall : (Act.callObject j t l.method l.args l.className).runOn w = _ :=
            Act.runOn_callObject l.returns hrun
          exact ⟨s, by rw [follow, Act.runOn_bind_ok hcall, hrest]⟩

/-- In an idle session the block of a chain is recorded, and resolved to what was written. -/
theorem exists_recorded {i : Nat} (hi : i < w.sessions.length) (hidle : (w.session i).Idle)
    (hmin : w.settings.minRounds ≠ 0) (hp : e.Plain w.store.nextObject) : ∃ res g s,
      (Act.recordBlock i (e.block i) .stubbing).runOn
        (w.modifySession i fun x => { x with request := none, phase := .stubbing }) =
          (.ok res, (w.modifySession i fun x => { x with request := none, phase := .stubbing }).inRound i none g s) ∧
      e.Described w.store.nextObject e.root e.links res ∧ w.store.Spent s := by
  have hsession := World.session_modifySession_self (f := fun x => { x with request := none, phase := .stubbing }) hi
  have hi' : i < (w.modifySession i fun x => { x with request := none, phase := .stubbing }).sessions.length := by
    rw [World.length_modifySession]
    exact hi
  exact exists_recordBlock hi' (by rw [hsession]; exact hidle.round) (by rw [hsession]; exact hidle.notCalled) hmin hp
    .stubbing

/-- The statement that gives a chain its answer fails exactly if a child that stands for a link is gone. Where all
of them are what their mocks give, following the chain for real leads to the answer. -/
theorem stubbed_and_followed (e : ChainExample) {w : World σ} {i : Nat} (hi : i < w.sessions.length)
    (hidle : (w.session i).Idle) (hmin : w.settings.minRounds ≠ 0) (hreached : w.store.Reached)
    (hp : e.Plain w.store.nextObject) (v : Value) : ∃ r w',
      (Act.stubbing i (e.block i) (.constant v)).runOn w = (r, w') ∧
      (Standing w.store e.root e.links → r = .ok ()) ∧
      (¬ Standing w.store e.root e.links → ∃ id, r = .error (.unknown id)) ∧
      (e.Passable w.store [] e.root e.links → ∀ j, (w.session j).round = none →
        ∃ s, (e.follow j e.root e.links).runOn w' = (.ok v, { w' with store := s })) := by
  obtain ⟨res, g, s, hrun, hdescribed, hspent⟩ := exists_recorded hi hidle hmin hp
  have hs : s.Sound := hreached.sound.of_subset (fun x hx => by rwa [hspent.registry] at hx) hspent.le
  have hsends : Links.Sends [] w.store.nextObject w.store.nextObject e.root e.root := .start _ _ e.root
  have hinstalls := hdescribed.installs_iff hp.links hp.last (Nat.le_refl _) hsends hs (.constant v)
  by_cases hpass : e.Passable w.store [] e.root e.links
  · obtain ⟨links, s', hinstalled⟩ := hdescribed.exists_installed hp.links hp.last (Nat.le_refl _) hsends hs
      (List.forall_mem_nil _) (hpass.of_registry hspent.registry) v
    refine ⟨_, _, Act.runOn_stubbing hi hidle hrun hinstalled.installs, fun _ => rfl,
      fun h => absurd hpass.standing h, fun _ j hj => ?_⟩
    have hround : ((w.inRound i none g s').session j).round = none := by
      by_cases hij : i = j
      · subst hij
        rw [World.session_inRound hi]
      · rw [World.inRound, ← hj]
        exact congrArg Session.round (World.session_modifySession_ne (w := { w with store := s' }) hij)
    exact hinstalled.delivers.exists_follow hinstalled.sound hround
  · by_cases hstanding : Standing w.store e.root e.links
    · obtain ⟨links, s', hinst⟩ := hinstalls.mpr (hstanding.of_registry hspent.registry)
      exact ⟨_, _, Act.runOn_stubbing hi hidle hrun hinst, fun _ => rfl, fun h => absurd hstanding h,
        fun h => absurd h hpass⟩
    · obtain ⟨done, rest, links, s', rfl, hdone, hrest⟩ := Installs.exists_prefix (.constant v) [] res s
      cases rest with
      | nil =>
          have hs' := hinstalls.mp ⟨links, s', by rwa [List.append_nil]⟩
          exact absurd (hs'.of_registry hspent.registry.symm) hstanding
      | cons c rest =>
          obtain ⟨w', hfails⟩ := Act.runOn_stubbing_unknown hi hidle hrun hdone (hrest c rfl)
          exact ⟨_, w', hfails, fun h => absurd h hstanding, fun _ => ⟨_, rfl⟩, fun h => absurd h hpass⟩

/-! ## Chains that were stubbed before -/

/-- Of a root with named children. -/
def namedChild : Link := ⟨⟨"named_child", [.str], .object "Child", false⟩, [.str "a"], "Child", rfl⟩

def grandchild : ChainExample := ⟨⟨1, "Root"⟩, [namedChild], ⟨"grandchild", [], .int, false⟩, []⟩

/-- A root, and another mock. -/
def unstubbed : Store := ((({} : Store).create "Root" .strict).2.create "Child" .strict).2

def rootStub : Stub := ⟨⟨1, "Root"⟩, .strict, none, [], 0, [], []⟩

/-- The chain has been stubbed. -/
def stubbedBefore : Store := unstubbed.addChild rootStub "Child" (namedChild.on ⟨1, "Root"⟩)

/-- Later all names have been given the other mock. -/
def covered : Store := stubbedBefore.modify 1
  (·.addAnswer ⟨⟨1, "Root"⟩, namedChild.method, [.any]⟩ (.constant (.object ⟨2, "Child"⟩)))

/-- Later the child has been released, but the entry for it is still there. -/
def dangling : Store := { stubbedBefore with
  registry := (stubbedBefore.registry.modify 1 (·.clear ⟨false, false, true⟩)).releaseAll [3] }

/-- One idle session over this store. -/
def worldOf (s : Store) : World Unit := { store := s, sessions := [{ generator := .ofSeed (some 1) }], memory := () }

theorem idle_worldOf (s : Store) : ((worldOf s).session 0).Idle := ⟨rfl, rfl, rfl, rfl, rfl⟩

theorem reached_stubbedBefore : stubbedBefore.Reached :=
  .addAnswer (.createChild (.create (.create .start "Root" .strict) "Child" .strict) rootStub "Child") 1 _ _

theorem plain_grandchild (n : Nat) : grandchild.Plain n where
  links l hl := by
    cases List.mem_singleton.mp hl
    intro v hv
    cases List.mem_singleton.mp hv
    exact ⟨rfl, trivial⟩
  last := List.forall_mem_nil _

/-- The root gives the child, which has no entries yet. -/
theorem passable_stubbedBefore : grandchild.Passable stubbedBefore [] ⟨1, "Root"⟩ [namedChild] := by
  have hself : (namedChild.on ⟨1, "Root"⟩).sameAs (namedChild.on ⟨1, "Root"⟩) = true := rfl
  have hroot : stubbedBefore.registry.stub? 1 = some ((rootStub.adopt 3).addAnswer
      (.literal (namedChild.on ⟨1, "Root"⟩)) (.constant (.object ⟨3, "Child"⟩))) := rfl
  have hchild : stubbedBefore.registry.stub? 3 = some ⟨⟨3, "Child"⟩, .strict, some 1, [], 0, [], []⟩ := rfl
  have hlast : grandchild.Passable stubbedBefore [namedChild.on ⟨1, "Root"⟩] ⟨3, "Child"⟩ [] :=
    .last hchild (List.forall_mem_singleton.mpr rfl)
  refine .known hroot ?_ ?_ hlast
  · simp [Stub.chainChild?, Stub.candidates_addAnswer, CallMatcher.sameShape, CallMatcher.literal, BEq.beq]
  · exact .of_addAnswer _ (by rw [CallMatcher.test_literal, hself]) (CallMatcher.captures_literal _ _) _

theorem stubbed_and_followed_again : ∃ w', (Act.stubbing 0 (grandchild.block 0) (.constant (.int 2))).runOn
    (worldOf stubbedBefore) = (.ok (), w') ∧ ∃ s, (grandchild.follow 0 ⟨1, "Root"⟩ [namedChild]).runOn w' =
      (.ok (.int 2), { w' with store := s }) := by
  obtain ⟨r, w', hrun, hok, -, hfollow⟩ := stubbed_and_followed grandchild (w := worldOf stubbedBefore) (i := 0)
    (by decide) (idle_worldOf _) (by decide) reached_stubbedBefore (plain_grandchild _) (.int 2)
  have hr : r = .ok () := hok passable_stubbedBefore.standing
  subst hr
  exact ⟨w', hrun, hfollow passable_stubbedBefore 0 rfl⟩

/-- The child of an older entry is taken where the root gives another one, and where it is gone. -/
theorem stubbed_and_followed_stale : (∀ n, grandchild.Plain n) ∧
    (covered.Reached ∧ (covered.registry.stub? 1).isSome = true ∧
      let result := (Act.stubbing 0 (grandchild.block 0) (.constant (.int 2))).runOn (worldOf covered)
      result.1.isOk = true ∧ ((grandchild.follow 0 ⟨1, "Root"⟩ [namedChild]).runOn result.2).1.isOk = false) ∧
    (dangling.Reached ∧ (dangling.registry.stub? 1).isSome = true ∧
      ((Act.stubbing 0 (grandchild.block 0) (.constant (.int 2))).runOn (worldOf dangling)).1.isOk = false) := by
  have hclear : stubbedBefore.clear 1 ⟨false, false, true⟩ = .ok dangling := rfl
  refine ⟨plain_grandchild, ⟨.addAnswer reached_stubbedBefore 1 _ _, ?_, ?_, ?_⟩,
    .clear reached_stubbedBefore hclear, ?_, ?_⟩
  all_goals decide +kernel

end ChainExample

end TestDouble
