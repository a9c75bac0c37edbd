import TestDouble.Proofs.Session.Evolving

/-!
# Releasing and clearing mocks

What a program finds after it has released a mock, or cleared one together with its children, and ever after.
-/

namespace TestDouble

namespace Registry

/-- Releasing these mocks has come to an end; what they reach is gone, and all else is as it was. -/
structure Without (r : Registry) (ids : List Nat) (r' : Registry) : Prop where
  ends : r.Releases ids r'
  gone : ∀ x, r.Reaches ids x → r'.stub? x = none
  stays : ∀ x, ¬r.Reaches ids x → r'.stub? x = r.stub? x

theorem releaseAll_without (r : Registry) (ids : List Nat) : r.Without ids (r.releaseAll ids) :=
  ⟨releases_iff.mpr rfl, fun x => (r.stub?_releaseAll ids x).1, fun x => (r.stub?_releaseAll ids x).2⟩

/-- The mock is cleared, and what the children reach that it no longer tracks is gone; all else is as it was. -/
structure Cleared (r : Registry) (stub : Stub) (o : ClearOptions) (r' : Registry) : Prop where
  ends : (r.modify stub.id (·.clear o)).Releases (stub.dropped o) r'
  gone : ∀ x, r.Reaches (stub.dropped o) x → r'.stub? x = none
  cleared : ¬r.Reaches (stub.dropped o) stub.id → r'.stub? stub.id = some (stub.clear o)
  stays : ∀ x, x ≠ stub.id → ¬r.Reaches (stub.dropped o) x → r'.stub? x = r.stub? x

variable {r : Registry} {stub : Stub}

/-- The children are those that the mock had, though it is cleared before they are released. -/
theorem reaches_clear (h : r.stub? stub.id = some stub) (o : ClearOptions) (x : Nat) :
    (r.modify stub.id (·.clear o)).Reaches (stub.dropped o) x ↔ r.Reaches (stub.dropped o) x := by
  have hchildren : (stub.clear o).children = if o.childMocks then [] else stub.children := rfl
  refine reaches_modify (fun _ => rfl) h ?_ ?_
  · rw [hchildren]
    split
    · exact List.nil_subset _
    · exact List.Subset.refl _
  · rw [hchildren, Stub.dropped]
    cases o.childMocks
    · exact List.subset_append_right [] stub.children
    · exact List.subset_append_left stub.children []

theorem releaseAll_cleared (h : r.stub? stub.id = some stub) (o : ClearOptions) :
    r.Cleared stub o ((r.modify stub.id (·.clear o)).releaseAll (stub.dropped o)) := by
  have hwithout := (r.modify stub.id (·.clear o)).releaseAll_without (stub.dropped o)
  have hreach := reaches_clear h o
  have hid : ∀ x : Stub, (x.clear o).id = x.id := fun _ => rfl
  refine ⟨hwithout.ends, fun x hx => hwithout.gone x ((hreach x).mpr hx), fun hself => ?_, fun x hne hx => ?_⟩
  · rw [hwithout.stays _ fun hx => hself ((hreach _).mp hx), stub?_modify hid, h, Option.map_some]
  · rw [hwithout.stays x fun hx' => hx ((hreach x).mp hx'), stub?_modify_of_ne hid hne]

end Registry

namespace Store

variable {s : Store} {mock : Nat} {stub : Stub}

theorem release_known (h : s.registry.stub? mock = some stub) :
    s.release mock = .ok { s with registry := s.registry.releaseAll [mock] } := by
  rw [release, Registry.release, if_pos (by rw [Registry.contains_eq_isSome, h]; rfl)]
  rfl

theorem release_unknown (h : s.registry.stub? mock = none) : s.release mock = .error (.unknown mock) := by
  rw [release, Registry.release, if_neg (by rw [Registry.contains_eq_isSome, h]; exact Bool.false_ne_true)]
  rfl

theorem clear_known (h : s.registry.stub? mock = some stub) (o : ClearOptions) : s.clear mock o =
    .ok { s with registry := (s.registry.modify mock (·.clear o)).releaseAll (stub.dropped o) } := by
  rw [clear, Registry.get_eq_ok.mpr h]
  rfl

theorem clear_unknown (h : s.registry.stub? mock = none) (o : ClearOptions) :
    s.clear mock o = .error (.unknown mock) := by
  rw [clear, Registry.get, h]
  rfl

end Store

namespace Act

variable {σ ε : Type} {f : Store → Except ε Store} {w : World σ}

theorem runOn_updateStore_ok {s : Store} (h : f w.store = .ok s) :
    (updateStore f : Act σ ε Unit).runOn w = (.ok (), { w with store := s }) := by
  rw [updateStore, runOn_bind_ok (runOn_get w), h]
  rfl

theorem runOn_updateStore_error {e : ε} (h : f w.store = .error e) :
    (updateStore f : Act σ ε Unit).runOn w = (.error e, w) := by
  rw [updateStore, runOn_bind_ok (runOn_get w), h]
  rfl

end Act

namespace Program

variable {μ : Type}

/-- Releasing a mock that is not registered fails and changes nothing. Releasing a registered one, however the lists of
children share mocks or run in circles, comes to an end; the mocks that it reaches are gone, and all others are as they
were. Clearing a mock is the same for the children that it no longer tracks. Where identities have been handed out in
order, none that is gone is registered again, whatever the program goes on with. -/
theorem released_for_good (w : World (Log μ)) :
    (∀ mock, w.store.registry.stub? mock = none →
      (Act.updateStore (·.release mock) : Act (Log μ) MockError Unit).runOn w = (.error (.unknown mock), w) ∧
      ∀ o, (Act.updateStore (·.clear mock o) : Act (Log μ) MockError Unit).runOn w = (.error (.unknown mock), w)) ∧
    (∀ mock stub, w.store.registry.stub? mock = some stub →
      (∃ r, w.store.registry.Without [mock] r ∧
        (Act.updateStore (·.release mock) : Act (Log μ) MockError Unit).runOn w =
          (.ok (), { w with store := { w.store with registry := r } })) ∧
      ∀ o, ∃ r, w.store.registry.Cleared stub o r ∧
        (Act.updateStore (·.clear mock o) : Act (Log μ) MockError Unit).runOn w =
          (.ok (), { w with store := { w.store with registry := r } })) ∧
    (Store.Evolves {} w.store →
      ∀ s, ((∃ mock, w.store.release mock = .ok s) ∨ ∃ mock o, w.store.clear mock o = .ok s) →
        ∀ x, (w.store.registry.stub? x).isSome → s.registry.stub? x = none →
          ∀ (p : Program μ) (w' : World (Log μ)), p.Uses Store.Evolves → s.Evolves w'.store →
            (p.run.runOn w').2.store.registry.stub? x = none) := by
  refine ⟨fun mock hnone => ?_, fun mock stub hstub => ?_, fun hstart s hs x hx hgone p w' hp hw' => ?_⟩
  · exact ⟨Act.runOn_updateStore_error (Store.release_unknown hnone), fun o =>
      Act.runOn_updateStore_error (Store.clear_unknown hnone o)⟩
  · refine ⟨⟨_, Registry.releaseAll_without _ _, Act.runOn_updateStore_ok (Store.release_known hstub)⟩, fun o => ?_⟩
    cases Registry.id_of_stub? hstub
    exact ⟨_, Registry.releaseAll_cleared hstub o, Act.runOn_updateStore_ok (Store.clear_known hstub o)⟩
  · have hchange : w.store.Change s := by
      rcases hs with ⟨mock, hs⟩ | ⟨mock, o, hs⟩
      · exact .release hs
      · exact .clear hs
    obtain ⟨stub, hstub⟩ := Option.isSome_iff_exists.mp hx
    have hlt := Nat.lt_of_lt_of_le (hstart.lt_nextObject hstub) hchange.onward.objects
    have hruns : s.Evolves (p.run.runOn w').2.store := hw'.trans (p.run_evolves hp w')
    exact hruns.onward.stub?_eq_none hlt hgone

/-- A parent with two children that adopt each other, one of which adopts the parent too, and a friend with a child. -/
def circle : Store :=
  let parent : Stub := { object := ⟨1, "Parent"⟩, kind := .relaxed }
  let friend : Stub := { object := ⟨4, "Friend"⟩, kind := .strict }
  let family := ((({} : Store).create "Parent" .relaxed).2.createChild parent "Child").2.createChild parent "Child"
  let all := ((family.2.create "Friend" .strict).2.createChild friend "Child").2
  ((all.modify 2 (·.adopt 3)).modify 3 (·.adopt 2)).modify 2 (·.adopt 1)

theorem evolves_circle : Store.Evolves {} circle := by
  have hadopt (n : Nat) (x : Stub) : (x.adopt n).id = x.id := by
    unfold Stub.adopt
    split <;> rfl
  have hparent : Store.Evolves {} (({} : Store).create "Parent" .relaxed).2 := .single (.create _ _)
  have hfamily := (hparent.tail (.createChild { object := ⟨1, "Parent"⟩, kind := .relaxed } "Child")).tail
    (.createChild { object := ⟨1, "Parent"⟩, kind := .relaxed } "Child")
  have hall := (hfamily.tail (.create "Friend" .strict)).tail
    (.createChild { object := ⟨4, "Friend"⟩, kind := .strict } "Child")
  exact ((hall.tail (.modify 2 (hadopt 3))).tail (.modify 3 (hadopt 2))).tail (.modify 2 (hadopt 1))

/-- Releasing one child takes all three along, also the parent, and leaves the friend with its child. Mocks that are
created afterwards are others. -/
theorem released_for_good_circle :
    let w : World (Log Unit) := { store := circle, memory := { memory := () } }
    let again : Program Unit := .useStore (fun s => s.create "Parent" .relaxed) fun _ => .done (.ok .unit)
    ∃ s, circle.release 3 = .ok s ∧ s.registry.stubs.map (·.id) = [4, 5] ∧
      (∃ r, circle.registry.Without [3] r ∧
        (Act.updateStore (·.release 3) : Act (Log Unit) MockError Unit).runOn w =
          (.ok (), { w with store := { circle with registry := r } })) ∧
      (again.run.runOn { w with store := s }).2.store.registry.stubs.map (·.id) = [4, 5, 6] ∧
      (again.run.runOn { w with store := s }).2.store.registry.stub? 1 = none := by
  intro w again
  obtain ⟨-, hknown, hgood⟩ := released_for_good w
  obtain ⟨stub, hstub⟩ : ∃ stub, circle.registry.stub? 3 = some stub := ⟨_, rfl⟩
  have hagain : again.Uses Store.Evolves := ⟨fun s => (Store.Change.create "Parent" .relaxed).evolves, fun _ => trivial⟩
  refine ⟨_, Store.release_known hstub, by decide +kernel, (hknown 3 stub hstub).1, by decide +kernel, ?_⟩
  exact hgood evolves_circle _ (.inl ⟨3, Store.release_known hstub⟩) 1 (by decide +kernel) (by decide +kernel) again _
    hagain .refl

end Program

end TestDouble
