import TestDouble.Proofs.Recording.Recorded
import TestDouble.Proofs.Session.PreservingStatements
import TestDouble.Proofs.Store

/-!
# Logs that are kept

Creating, stubbing and releasing mocks, answers and predicates leave the logs of all registered mocks alone. What else a
program may do to the store is to empty logs.
-/

namespace TestDouble

namespace Store

variable {s s' s'' : Store}

/-- The logs of registered mocks are as they were; mocks that are new have no calls. -/
structure KeepsLogs (s s' : Store) : Prop where
  objects : s.nextObject ≤ s'.nextObject
  sequence : s.nextSequence ≤ s'.nextSequence
  stubs : ∀ x ∈ s'.registry.stubs, (∃ y ∈ s.registry.stubs, y.id = x.id ∧ y.log = x.log) ∨
    s.nextObject ≤ x.id ∧ x.id < s'.nextObject ∧ x.log = []

namespace KeepsLogs

theorem refl (s : Store) : s.KeepsLogs s := ⟨Nat.le_refl _, Nat.le_refl _, fun x hx => .inl ⟨x, hx, rfl, rfl⟩⟩

theorem trans (h : s.KeepsLogs s') (h' : s'.KeepsLogs s'') : s.KeepsLogs s'' where
  objects := Nat.le_trans h.objects h'.objects
  sequence := Nat.le_trans h.sequence h'.sequence
  stubs x hx := by
    rcases h'.stubs x hx with ⟨y, hy, hid, hlog⟩ | ⟨hle, hlt, hnil⟩
    · rcases h.stubs y hy with ⟨z, hz, hid', hlog'⟩ | ⟨hle, hlt, hnil⟩
      · exact .inl ⟨z, hz, hid'.trans hid, hlog'.trans hlog⟩
      · exact .inr ⟨hid ▸ hle, hid ▸ Nat.lt_of_lt_of_le hlt h'.objects, hlog ▸ hnil⟩
    · exact .inr ⟨Nat.le_trans h.objects hle, hlt, hnil⟩

/-- Mocks may go, and numbers may be taken. -/
theorem of_subset (hstubs : s'.registry.stubs ⊆ s.registry.stubs) (ho : s.nextObject ≤ s'.nextObject)
    (hs : s.nextSequence ≤ s'.nextSequence) : s.KeepsLogs s' := ⟨ho, hs, fun x hx => .inl ⟨x, hstubs hx, rfl, rfl⟩⟩

theorem modify (s : Store) (mock : Nat) {f : Stub → Stub} (hid : ∀ x, (f x).id = x.id) (hlog : ∀ x, (f x).log = x.log) :
    s.KeepsLogs (s.modify mock f) := by
  refine ⟨Nat.le_refl _, Nat.le_refl _, fun x hx => ?_⟩
  obtain ⟨y, hy, rfl⟩ := List.mem_map.mp hx
  refine .inl ⟨y, hy, ?_⟩
  split
  · exact ⟨(hid y).symm, (hlog y).symm⟩
  · exact ⟨rfl, rfl⟩

theorem insert (s : Store) (new : Stub) (hid : new.id = s.nextObject) (hlog : new.log = []) :
    s.KeepsLogs { s with registry := s.registry.insert new, nextObject := s.nextObject + 1 } := by
  refine ⟨Nat.le_succ _, Nat.le_refl _, fun x hx => ?_⟩
  rcases List.mem_append.mp hx with hx | hx
  · exact .inl ⟨x, hx, rfl, rfl⟩
  · cases List.mem_singleton.mp hx
    exact .inr ⟨Nat.le_of_eq hid.symm, hid ▸ Nat.lt_succ_self _, hlog⟩

end KeepsLogs

theorem create_keepsLogs (s : Store) (className : String) (kind : MockKind) :
    s.KeepsLogs (s.create className kind).2 := .insert s _ rfl rfl

theorem createChild_keepsLogs (s : Store) (parent : Stub) (className : String) :
    s.KeepsLogs (s.createChild parent className).2 := by
  have hinsert := KeepsLogs.insert s
    { object := ⟨s.nextObject, className⟩, kind := parent.kind.forChild, parent := some parent.id } rfl rfl
  refine hinsert.trans (.modify _ parent.id (fun x => ?_) fun x => ?_)
  all_goals
    unfold Stub.adopt
    split <;> rfl

theorem addAnswer_keepsLogs (s : Store) (mock : Nat) (m : CallMatcher) (a : Answer) :
    s.KeepsLogs (s.modify mock (·.addAnswer m a)) := .modify s mock (fun _ => rfl) fun _ => rfl

theorem release_keepsLogs {mock : Nat} (h : s.release mock = .ok s') : s.KeepsLogs s' := by
  unfold release Registry.release at h
  split at h
  · cases h
    exact .of_subset (fun _ => Registry.mem_of_mem_releaseEach) (Nat.le_refl _) (Nat.le_refl _)
  · cases h

/-! ## Predicates -/

/-- All mocks stay, with their logs. -/
structure SameLogs (s s' : Store) : Prop where
  objects : s'.nextObject = s.nextObject
  sequence : s'.nextSequence = s.nextSequence
  stubs : s'.registry.stubs.map (fun x => (x.id, x.log)) = s.registry.stubs.map fun x => (x.id, x.log)

namespace SameLogs

theorem refl (s : Store) : s.SameLogs s := ⟨rfl, rfl, rfl⟩

theorem trans (h : s.SameLogs s') (h' : s'.SameLogs s'') : s.SameLogs s'' :=
  ⟨h'.objects.trans h.objects, h'.sequence.trans h.sequence, h'.stubs.trans h.stubs⟩

/-- A mock that was there is still there. -/
theorem exists_stub (h : s.SameLogs s') {x : Stub} (hx : x ∈ s.registry.stubs) :
    ∃ y ∈ s'.registry.stubs, y.id = x.id ∧ y.log = x.log := by
  have hmem : (x.id, x.log) ∈ s'.registry.stubs.map fun x => (x.id, x.log) := h.stubs ▸ List.mem_map_of_mem hx
  obtain ⟨y, hy, heq⟩ := List.mem_map.mp hmem
  exact ⟨y, hy, congrArg Prod.fst heq, congrArg Prod.snd heq⟩

theorem symm (h : s.SameLogs s') : s'.SameLogs s := ⟨h.objects.symm, h.sequence.symm, h.stubs.symm⟩

theorem keepsLogs (h : s.SameLogs s') : s.KeepsLogs s' :=
  ⟨Nat.le_of_eq h.objects.symm, Nat.le_of_eq h.sequence.symm, fun _ hx => .inl (h.symm.exists_stub hx)⟩

end SameLogs

theorem clearAnswers_sameLogs (s : Store) (mock : Nat) : s.SameLogs (s.clearAnswers mock) := by
  refine ⟨rfl, rfl, ?_⟩
  simp only [clearAnswers, Store.modify, Registry.modify, List.map_map]
  refine List.map_congr_left fun x _ => ?_
  rw [Function.comp_apply]
  split <;> rfl

theorem countTally_sameLogs (s : Store) (counter : Nat) : s.SameLogs (s.countTally counter) := ⟨rfl, rfl, rfl⟩

theorem probe_sameLogs {α : Type} (p : Probe α) (s : Store) : s.SameLogs (s.probe p).2 :=
  probe_preserves (fun s' mock hs => hs.trans (clearAnswers_sameLogs s' mock))
    (fun s' counter hs => hs.trans (countTally_sameLogs s' counter)) p (.refl s)

theorem selectAnswer_keepsLogs (mock : Nat) (c : Call) (n : Nat) (s : Store) :
    s.KeepsLogs (s.selectAnswer mock c n).2 :=
  selectAnswer_preserves (fun p s' hs => hs.trans (probe_sameLogs p s').keepsLogs)
    (fun s' _ hs => hs.trans (.modify s' mock (fun _ => rfl) fun _ => rfl))
    (fun _ _ hs => hs.trans (.of_subset (fun _ h => h) (Nat.le_refl _) (Nat.le_refl _))) c n (.refl s)

theorem relaxedChild_keepsLogs (s : Store) (stub : Stub) (c : Call) (className : String) :
    s.KeepsLogs (s.relaxedChild stub c className).2 := by
  unfold relaxedChild
  split
  · exact .refl s
  · exact ((createChild_keepsLogs s stub className).trans (addAnswer_keepsLogs _ stub.id _ _)).trans
      (selectAnswer_keepsLogs stub.id c _ _)

/-! ## Steps of calls and statements -/

theorem AnswerStep.keepsLogs (h : s.AnswerStep s') : s.KeepsLogs s' := by
  cases h with
  | relaxedChild stub c className => exact relaxedChild_keepsLogs s stub c className
  | clearAnswers mock => exact (clearAnswers_sameLogs s mock).keepsLogs
  | release h => exact release_keepsLogs h
  | countTally counter => exact (countTally_sameLogs s counter).keepsLogs

theorem StubbingStep.keepsLogs (h : s.StubbingStep s') : s.KeepsLogs s' := by
  cases h with
  | register round generator m shape =>
      obtain ⟨reg, g, s', hreg⟩ := round.exists_registers generator s m shape
      obtain ⟨n, hn, rfl⟩ := hreg.store
      rw [hreg.result]
      exact .of_subset (fun _ h => h) hn (Nat.le_refl _)
  | createChild parent className => exact createChild_keepsLogs s parent className
  | addAnswer mock m answer => exact addAnswer_keepsLogs s mock m answer

theorem capture_keepsLogs (s : Store) (round : OpenRound) (generator : Generator) (target : ObjectRef) (method : Method)
    (args : List Value) (caller : Option Frame) :
    s.KeepsLogs (round.capture generator s target method args caller).2.2.2 := by
  obtain ⟨c, g, s', hcap⟩ := round.exists_captures generator s target method args caller
  obtain ⟨n, hn, rfl⟩ := hcap.store
  rw [hcap.result]
  exact .of_subset (fun _ h => h) hn (Nat.le_succ _)

/-! ## Emptied logs -/

/-- The logs of these mocks are emptied. -/
def emptied (s : Store) (mocks : List Nat) : Store :=
  { s with registry := ⟨s.registry.stubs.map fun x => if x.id ∈ mocks then { x with log := [] } else x⟩ }

/-- Some logs have been emptied, the others are kept. -/
def Manages (s s' : Store) : Prop := ∃ mocks, (s.emptied mocks).KeepsLogs s'

theorem KeepsLogs.manages (h : s.KeepsLogs s') : s.Manages s' := by
  refine ⟨[], ?_⟩
  have hnone : s.emptied [] = s := by simp [emptied]
  rwa [hnone]

theorem clear_manages {mock : Nat} {o : ClearOptions} (h : s.clear mock o = .ok s') : s.Manages s' := by
  unfold clear at h
  cases hget : s.registry.get mock with
  | error e => rw [hget] at h; cases h
  | ok stub =>
      rw [hget] at h
      cases h
      refine ⟨if o.recordedCalls then [mock] else [], Nat.le_refl _, Nat.le_refl _, fun x hx => ?_⟩
      obtain ⟨y, hy, rfl⟩ := List.mem_map.mp (Registry.mem_of_mem_releaseEach hx)
      refine .inl ⟨_, List.mem_map_of_mem hy, ?_⟩
      by_cases hid : y.object.id = mock <;> cases hcalls : o.recordedCalls <;> simp [Stub.id, Stub.clear, hid, hcalls]

end Store

end TestDouble
