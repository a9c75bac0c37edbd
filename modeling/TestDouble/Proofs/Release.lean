import TestDouble.Proofs.Store

/-!
# Released mocks

Releasing a mock removes the mocks to which lists of children lead from it, and no others, however the lists share
mocks or run in circles. A mock is gone before its children are looked at, so every step is made in a smaller registry.
-/

namespace TestDouble.Registry

variable {r r' r₁ r₂ : Registry} {id x : Nat} {ids : List Nat} {stub : Stub}

/-- One of these mocks, or a child of a registered one that is reached. -/
inductive Reaches (r : Registry) (ids : List Nat) : Nat → Prop where
  | start {id : Nat} (h : id ∈ ids) : Reaches r ids id
  | child {id c : Nat} {stub : Stub} (h : Reaches r ids id) (hstub : r.stub? id = some stub) (hc : c ∈ stub.children) :
      Reaches r ids c

/-- Releasing mocks one after another, each followed by the children it tracks, comes to an end with `r'`. -/
inductive Releases : Registry → List Nat → Registry → Prop where
  | nil (r : Registry) : Releases r [] r
  | gone {r r' : Registry} {id : Nat} {ids : List Nat} (h : r.stub? id = none) (rest : Releases r ids r') :
      Releases r (id :: ids) r'
  | here {r r₁ r' : Registry} {id : Nat} {ids : List Nat} {stub : Stub} (h : r.stub? id = some stub)
      (children : Releases (r.erase id) stub.children r₁) (rest : Releases r₁ ids r') : Releases r (id :: ids) r'

/-- There is only one way to go on. -/
theorem Releases.unique (h : Releases r ids r₁) (h' : Releases r ids r₂) : r₁ = r₂ := by
  induction h generalizing r₂ with
  | nil => cases h'; rfl
  | gone hnone _ ih =>
      cases h' with
      | gone _ rest => exact ih rest
      | here hsome _ _ => cases hnone.symm.trans hsome
  | here hsome _ _ ihchildren ih =>
      cases h' with
      | gone hnone _ => cases hnone.symm.trans hsome
      | here hsome' children rest =>
          cases hsome.symm.trans hsome'
          cases ihchildren children
          exact ih rest

/-! ## One mock less -/

theorem stub?_erase (r : Registry) (id x : Nat) : (r.erase id).stub? x = if x = id then none else r.stub? x := by
  rw [stub?, erase, List.find?_filter]
  split
  case isTrue h =>
    refine List.find?_eq_none.mpr fun s _ => ?_
    simp [h]
  case isFalse h =>
    refine congrFun (congrArg List.find? (funext fun s => ?_)) r.stubs
    by_cases hs : s.id = x
    · simp [hs, h]
    · simp [hs]

theorem size_erase (h : r.stub? id = some stub) : (r.erase id).size < r.size := by
  refine List.length_filter_lt_length_iff_exists.mpr ⟨stub, List.mem_of_find?_eq_some h, ?_⟩
  simp [id_of_stub? h]

theorem stub?_of_size (h : r.size = 0) (x : Nat) : r.stub? x = none := by
  rw [stub?, List.length_eq_zero_iff.mp h, List.find?_nil]

/-! ## Step by step -/

theorem releaseEach_nil (r : Registry) (n : Nat) : r.releaseEach n [] = r := by cases n <;> rfl

theorem releaseEach_gone (h : r.stub? id = none) (n : Nat) (ids : List Nat) :
    r.releaseEach n (id :: ids) = r.releaseEach n ids := by
  have hcontains : r.contains id = false := by rw [contains_eq_isSome, h, Option.isSome_none]
  cases n with
  | zero => rfl
  | succ n => rw [releaseEach, releaseEach, List.dropWhile_cons, hcontains, Bool.not_false, if_pos rfl]

theorem releaseEach_here (h : r.stub? id = some stub) (n : Nat) (ids : List Nat) :
    r.releaseEach (n + 1) (id :: ids) = (r.erase id).releaseEach n (stub.children ++ ids) := by
  have hcontains : r.contains id = true := by rw [contains_eq_isSome, h, Option.isSome_some]
  rw [releaseEach, List.dropWhile_cons, hcontains, Bool.not_true, if_neg Bool.false_ne_true]
  dsimp only
  rw [h, Option.map_some, Option.getD_some]

/-- As many steps as there are mocks are enough. -/
theorem releaseEach_of_size {n m : Nat} (hn : r.size ≤ n) (hm : r.size ≤ m) (ids : List Nat) :
    r.releaseEach n ids = r.releaseEach m ids := by
  induction n generalizing r m ids with
  | zero =>
      induction ids with
      | nil => rw [releaseEach_nil, releaseEach_nil]
      | cons id ids ih =>
          have hnone := stub?_of_size (Nat.le_zero.mp hn) id
          rw [releaseEach_gone hnone, releaseEach_gone hnone, ih]
  | succ n ihn =>
      induction ids with
      | nil => rw [releaseEach_nil, releaseEach_nil]
      | cons id ids ih =>
          cases hstub : r.stub? id with
          | none => rw [releaseEach_gone hstub, releaseEach_gone hstub, ih]
          | some stub =>
              have hlt := size_erase hstub
              obtain ⟨k, rfl⟩ : ∃ k, m = k + 1 := ⟨m - 1, by omega⟩
              have hn' : (r.erase id).size ≤ n := by omega
              have hk : (r.erase id).size ≤ k := by omega
              rw [releaseEach_here hstub, releaseEach_here hstub, ihn hn' hk]

theorem releaseAll_nil (r : Registry) : r.releaseAll [] = r := releaseEach_nil r _

theorem releaseAll_gone (h : r.stub? id = none) (ids : List Nat) : r.releaseAll (id :: ids) = r.releaseAll ids :=
  releaseEach_gone h _ ids

theorem releaseAll_here (h : r.stub? id = some stub) (ids : List Nat) :
    r.releaseAll (id :: ids) = (r.erase id).releaseAll (stub.children ++ ids) := by
  have hlt := size_erase h
  obtain ⟨n, hn⟩ : ∃ n, r.size = n + 1 := ⟨r.size - 1, by omega⟩
  rw [releaseAll, hn, releaseEach_here h, releaseAll, releaseEach_of_size (by omega) (Nat.le_refl _)]

/-- What holds of nothing to release, and of a mock once it holds of what comes after it, holds of all mocks. -/
theorem releaseAll_induction {P : Registry → List Nat → Prop} (nil : ∀ r, P r [])
    (gone : ∀ r id ids, r.stub? id = none → P r ids → P r (id :: ids))
    (here : ∀ r id ids stub, r.stub? id = some stub → (∀ r' ids', r'.size < r.size → P r' ids') → P r (id :: ids))
    (r : Registry) (ids : List Nat) : P r ids := by
  induction hn : r.size using Nat.strongRecOn generalizing r ids with
  | ind n ihn =>
      induction ids with
      | nil => exact nil r
      | cons id ids ih =>
          cases hstub : r.stub? id with
          | none => exact gone r id ids hstub ih
          | some stub => exact here r id ids stub hstub fun r' ids' hlt => ihn _ (hn ▸ hlt) r' ids' rfl

theorem releaseAll_append (r : Registry) (ids ids' : List Nat) :
    r.releaseAll (ids ++ ids') = (r.releaseAll ids).releaseAll ids' := by
  induction r, ids using releaseAll_induction with
  | nil r => rw [releaseAll_nil, List.nil_append]
  | gone r id ids hnone ih => rw [List.cons_append, releaseAll_gone hnone, releaseAll_gone hnone, ih]
  | here r id ids stub hstub ih =>
      rw [List.cons_append, releaseAll_here hstub, releaseAll_here hstub, ← List.append_assoc, ih _ _ (size_erase hstub)]

theorem size_releaseAll_le (r : Registry) (ids : List Nat) : (r.releaseAll ids).size ≤ r.size := by
  induction r, ids using releaseAll_induction with
  | nil r => exact Nat.le_of_eq (congrArg size (releaseAll_nil r))
  | gone r id ids hnone ih => rwa [releaseAll_gone hnone]
  | here r id ids stub hstub ih =>
      have hlt := size_erase hstub
      rw [releaseAll_here hstub]
      exact Nat.le_trans (ih _ _ hlt) (Nat.le_of_lt hlt)

/-- Releasing ends, and this is how. -/
theorem releases_iff : Releases r ids r' ↔ r' = r.releaseAll ids := by
  have hends : Releases r ids (r.releaseAll ids) := by
    induction r, ids using releaseAll_induction with
    | nil r =>
        rw [releaseAll_nil]
        exact .nil r
    | gone r id ids hnone ih =>
        rw [releaseAll_gone hnone]
        exact .gone hnone ih
    | here r id ids stub hstub ih =>
        have hlt := size_erase hstub
        rw [releaseAll_here hstub, releaseAll_append]
        exact .here hstub (ih _ _ hlt) (ih _ _ (Nat.lt_of_le_of_lt (size_releaseAll_le _ _) hlt))
  exact ⟨fun h => h.unique hends, fun h => h ▸ hends⟩

/-! ## What is removed -/

theorem reaches_nil : ¬ r.Reaches [] x := by
  intro h
  induction h with
  | start h => exact absurd h List.not_mem_nil
  | child _ _ _ ih => exact ih

theorem reaches_gone (h : r.stub? id = none) : r.Reaches (id :: ids) x ↔ x = id ∨ r.Reaches ids x := by
  constructor
  · intro hx
    induction hx with
    | start hmem => exact (List.mem_cons.mp hmem).imp_right .start
    | child _ hstub hc ih =>
        rcases ih with rfl | ih
        · cases h.symm.trans hstub
        · exact .inr (.child ih hstub hc)
  · rintro (rfl | hx)
    · exact .start List.mem_cons_self
    · induction hx with
      | start hmem => exact .start (List.mem_cons_of_mem _ hmem)
      | child _ hstub hc ih => exact .child ih hstub hc

/-- What is reached over a mock is reached without it from its children. -/
theorem reaches_here (h : r.stub? id = some stub) :
    r.Reaches (id :: ids) x ↔ x = id ∨ (r.erase id).Reaches (stub.children ++ ids) x := by
  constructor
  · intro hx
    induction hx with
    | start hmem => exact (List.mem_cons.mp hmem).imp_right fun hmem => .start (List.mem_append_right _ hmem)
    | @child y c s _ hs hc ih =>
        by_cases hy : y = id
        · subst hy
          cases h.symm.trans hs
          exact .inr (.start (List.mem_append_left _ hc))
        · have hs' : (r.erase id).stub? y = some s := by rw [stub?_erase, if_neg hy, hs]
          exact .inr (.child (ih.resolve_left hy) hs' hc)
  · have hid : r.Reaches (id :: ids) id := .start List.mem_cons_self
    rintro (rfl | hx)
    · exact hid
    · induction hx with
      | start hmem =>
          rcases List.mem_append.mp hmem with hc | hmem
          · exact .child hid h hc
          · exact .start (List.mem_cons_of_mem _ hmem)
      | @child y c s _ hs hc ih =>
          rw [stub?_erase] at hs
          split at hs
          · cases hs
          · exact .child ih hs hc

/-- Exactly what is reached is gone, and all else is as it was. -/
theorem stub?_releaseAll (r : Registry) (ids : List Nat) (x : Nat) :
    (r.Reaches ids x → (r.releaseAll ids).stub? x = none) ∧
      (¬ r.Reaches ids x → (r.releaseAll ids).stub? x = r.stub? x) := by
  induction r, ids using releaseAll_induction generalizing x with
  | nil r =>
      rw [releaseAll_nil]
      exact ⟨fun h => absurd h reaches_nil, fun _ => rfl⟩
  | gone r id ids hnone ih =>
      rw [releaseAll_gone hnone, reaches_gone hnone]
      obtain ⟨hgone, hstays⟩ := ih x
      refine ⟨fun h => ?_, fun h => hstays fun hx => h (.inr hx)⟩
      by_cases hx : r.Reaches ids x
      · exact hgone hx
      · rw [hstays hx, h.resolve_right hx, hnone]
  | here r id ids stub hstub ih =>
      rw [releaseAll_here hstub, reaches_here hstub]
      obtain ⟨hgone, hstays⟩ := ih _ (stub.children ++ ids) (size_erase hstub) x
      refine ⟨fun h => ?_, fun h => ?_⟩
      · by_cases hx : (r.erase id).Reaches (stub.children ++ ids) x
        · exact hgone hx
        · rw [hstays hx, stub?_erase, if_pos (h.resolve_right hx)]
      · rw [hstays fun hx => h (.inr hx), stub?_erase, if_neg fun hx => h (.inl hx)]

/-- A mock that no longer tracks the children that are released is not reached over them any less. -/
theorem reaches_modify {f : Stub → Stub} (hid : ∀ s, (f s).id = s.id) (hstub : r.stub? id = some stub)
    (hf : (f stub).children ⊆ stub.children) (hids : stub.children ⊆ ids ++ (f stub).children) :
    (r.modify id f).Reaches ids x ↔ r.Reaches ids x := by
  have hself : (r.modify id f).stub? id = some (f stub) := by rw [stub?_modify hid, hstub, Option.map_some]
  constructor
  · intro h
    induction h with
    | start hmem => exact .start hmem
    | @child y c s _ hs hc ih =>
        by_cases hy : y = id
        · subst hy
          cases hself.symm.trans hs
          exact .child ih hstub (hf hc)
        · exact .child ih ((stub?_modify_of_ne hid hy).symm.trans hs) hc
  · intro h
    induction h with
    | start hmem => exact .start hmem
    | @child y c s _ hs hc ih =>
        by_cases hy : y = id
        · subst hy
          cases hstub.symm.trans hs
          rcases List.mem_append.mp (hids hc) with hmem | hmem
          · exact .start hmem
          · exact .child ih hself hmem
        · exact .child ih ((stub?_modify_of_ne hid hy).trans hs) hc

end TestDouble.Registry
