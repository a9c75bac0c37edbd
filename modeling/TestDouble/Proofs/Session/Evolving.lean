import Mathlib.Logic.Relation
import TestDouble.Proofs.Chronicle.Logs
import TestDouble.Proofs.Release
import TestDouble.Proofs.Session.PreservingPrograms
import TestDouble.Proofs.Session.Rounds

/-!
# Stores in the course of time

All that is done to a store is made of a few changes. Identities are handed out in order, so one that is no longer
registered will never be registered again.
-/

namespace TestDouble

namespace Store

variable {s s' s'' : Store}

inductive Change (s : Store) : Store → Prop
  /-- Identities and sequence numbers are taken. -/
  | drawn (n k : Nat) (hn : s.nextObject ≤ n) : Change s { s with nextObject := n, nextSequence := k }
  | slots (captures : Matcher.Captures) (tallies : List (Nat × Nat)) : Change s { s with captures, tallies }
  | create (className : String) (kind : MockKind) : Change s (s.create className kind).2
  | createChild (parent : Stub) (className : String) : Change s (s.createChild parent className).2
  /-- A mock gets or loses answers, calls and flags, or adopts children, or forgets them. -/
  | modify (mock : Nat) {f : Stub → Stub} (hf : ∀ x, (f x).id = x.id) : Change s (s.modify mock f)
  | clear {mock : Nat} {o : ClearOptions} {s' : Store} (h : s.clear mock o = .ok s') : Change s s'
  | release {mock : Nat} {s' : Store} (h : s.release mock = .ok s') : Change s s'

/-- Changes lead from one store to the other. -/
abbrev Evolves : Store → Store → Prop := Relation.ReflTransGen Change

theorem Change.evolves (h : s.Change s') : s.Evolves s' := .single h

/-! ## Identities -/

/-- Mocks are those that were there before, or have identities handed out since then. -/
structure Onward (s s' : Store) : Prop where
  objects : s.nextObject ≤ s'.nextObject
  stubs : ∀ x ∈ s'.registry.stubs,
    (∃ y ∈ s.registry.stubs, y.id = x.id) ∨ s.nextObject ≤ x.id ∧ x.id < s'.nextObject

namespace Onward

theorem refl (s : Store) : s.Onward s := ⟨Nat.le_refl _, fun x hx => .inl ⟨x, hx, rfl⟩⟩

theorem trans (h : s.Onward s') (h' : s'.Onward s'') : s.Onward s'' where
  objects := Nat.le_trans h.objects h'.objects
  stubs x hx := by
    rcases h'.stubs x hx with ⟨y, hy, hid⟩ | ⟨hle, hlt⟩
    · rcases h.stubs y hy with ⟨z, hz, hid'⟩ | ⟨hle, hlt⟩
      · exact .inl ⟨z, hz, hid'.trans hid⟩
      · exact .inr ⟨hid ▸ hle, hid ▸ Nat.lt_of_lt_of_le hlt h'.objects⟩
    · exact .inr ⟨Nat.le_trans h.objects hle, hlt⟩

/-- What is not registered, though its identity was handed out, stays so. -/
theorem stub?_eq_none (h : s.Onward s') {id : Nat} (hlt : id < s.nextObject) (hnone : s.registry.stub? id = none) :
    s'.registry.stub? id = none := by
  cases hstub : s'.registry.stub? id with
  | none => rfl
  | some x =>
      have hid := Registry.id_of_stub? hstub
      rcases h.stubs x (List.mem_of_find?_eq_some hstub) with ⟨y, hy, hsame⟩ | ⟨hle, -⟩
      · have hother := List.find?_eq_none.mp hnone y hy
        exact absurd (beq_iff_eq.mpr (hsame.trans hid)) hother
      · exact absurd (hid ▸ hlt) (Nat.not_lt.mpr hle)

end Onward

theorem KeepsLogs.onward (h : s.KeepsLogs s') : s.Onward s' where
  objects := h.objects
  stubs x hx := by
    rcases h.stubs x hx with ⟨y, hy, hid, -⟩ | ⟨hle, hlt, -⟩
    · exact .inl ⟨y, hy, hid⟩
    · exact .inr ⟨hle, hlt⟩

theorem modify_onward (s : Store) (mock : Nat) {f : Stub → Stub} (hf : ∀ x, (f x).id = x.id) :
    s.Onward (s.modify mock f) := by
  refine ⟨Nat.le_refl _, fun x hx => ?_⟩
  obtain ⟨y, hy, rfl⟩ := List.mem_map.mp hx
  refine .inl ⟨y, hy, ?_⟩
  split
  · exact (hf y).symm
  · rfl

theorem Manages.onward (h : s.Manages s') : s.Onward s' := by
  obtain ⟨mocks, hkeeps⟩ := h
  have hemptied : s.Onward (s.emptied mocks) := by
    refine ⟨Nat.le_refl _, fun x hx => ?_⟩
    obtain ⟨y, hy, rfl⟩ := List.mem_map.mp hx
    refine .inl ⟨y, hy, ?_⟩
    split <;> rfl
  exact hemptied.trans hkeeps.onward

theorem Change.onward (h : s.Change s') : s.Onward s' := by
  cases h with
  | drawn n k hn => exact ⟨hn, fun x hx => .inl ⟨x, hx, rfl⟩⟩
  | slots captures tallies => exact ⟨Nat.le_refl _, fun x hx => .inl ⟨x, hx, rfl⟩⟩
  | create className kind => exact (s.create_keepsLogs className kind).onward
  | createChild parent className => exact (s.createChild_keepsLogs parent className).onward
  | modify mock hf => exact s.modify_onward mock hf
  | clear h => exact (clear_manages h).onward
  | release h => exact (release_keepsLogs h).onward

namespace Evolves

theorem onward (h : s.Evolves s') : s.Onward s' := by
  induction h with
  | refl => exact .refl s
  | tail _ hchange ih => exact ih.trans hchange.onward

/-- In a run from nothing, all mocks have identities that were handed out. -/
theorem lt_nextObject (h : Evolves {} s) {id : Nat} {stub : Stub} (hstub : s.registry.stub? id = some stub) :
    id < s.nextObject := by
  rcases h.onward.stubs stub (List.mem_of_find?_eq_some hstub) with ⟨y, hy, -⟩ | ⟨-, hlt⟩
  · cases hy
  · exact Registry.id_of_stub? hstub ▸ hlt

/-! ## Calls and statements -/

theorem modify (s : Store) (mock : Nat) {f : Stub → Stub} (hf : ∀ x, (f x).id = x.id) :
    s.Evolves (s.modify mock f) := (Change.modify mock hf).evolves

theorem spent (h : s.Spent s') : s.Evolves s' := by
  obtain ⟨n, k, hn, rfl⟩ := h
  exact (Change.drawn n k hn).evolves

theorem probe {α : Type} (p : Probe α) (s : Store) : s.Evolves (s.probe p).2 :=
  probe_preserves (fun _ mock hs => hs.tail (.modify mock fun _ => rfl)) (fun _ _ hs => hs.tail (.slots _ _)) p .refl

theorem selectAnswer (mock : Nat) (c : Call) (n : Nat) (s : Store) : s.Evolves (s.selectAnswer mock c n).2 :=
  selectAnswer_preserves (fun p s' hs => hs.trans (probe p s')) (fun _ _ hs => hs.tail (.modify mock fun _ => rfl))
    (fun _ _ hs => hs.tail (.slots _ _)) c n .refl

theorem resolve (mock : Nat) (c : Call) (log : Bool) (s : Store) : s.Evolves (s.resolve mock c log).2 := by
  rw [Store.resolve]
  refine .trans ?_ (selectAnswer mock c _ _)
  split
  · exact modify s mock fun _ => rfl
  · exact .refl

theorem relaxedChild (s : Store) (stub : Stub) (c : Call) (className : String) :
    s.Evolves (s.relaxedChild stub c className).2 := by
  unfold Store.relaxedChild
  split
  · exact .refl
  · have hadd := modify (s.createChild stub className).2 stub.id
      (f := (·.addAnswer (.exact c) (.constant (.object (s.createChild stub className).1)))) fun _ => rfl
    exact .head (.createChild stub className) (hadd.trans (resolve stub.id c false _))

theorem exclude (s : Store) (mock : Nat) (m : CallMatcher) : s.Evolves (s.exclude mock m).2 := by
  rw [Store.exclude]
  split
  · exact .refl
  · exact (probe _ s).tail (.modify mock fun _ => rfl)

theorem verifyRepeatedly (r : Request) (mocks : List Nat) (expected notCalled : List CallMatcher) (n : Nat)
    (s : Store) : s.Evolves (Act.verifyRepeatedly r mocks expected notCalled n s).2 := by
  obtain ⟨s', hs', hlook⟩ := Act.exists_lastLook (P := s.Evolves) (fun s' p hs' => hs'.trans (probe p s')) r mocks
    expected notCalled n .refl
  rw [hlook]
  exact hs'.trans (probe _ s')

theorem markVerified (sequences mocks : List Nat) (s : Store) :
    s.Evolves (mocks.foldl (fun s mock => s.modify mock (·.markVerified sequences)) s) := by
  induction mocks generalizing s with
  | nil => exact .refl
  | cons mock mocks ih => exact (modify s mock (f := (·.markVerified sequences)) fun _ => rfl).trans (ih _)

theorem callStep (h : s.CallStep s') : s.Evolves s' := by
  cases h with
  | capture round generator target method args caller =>
      obtain ⟨c, g, s', hcap⟩ := round.exists_captures generator s target method args caller
      rw [hcap.result]
      exact spent hcap.spent
  | newCall target method args caller => exact (Change.drawn _ _ (Nat.le_refl _)).evolves
  | resolve mock c log => exact resolve mock c log s
  | relaxedChild stub c className => exact relaxedChild s stub c className
  | clearAnswers mock => exact modify s mock fun _ => rfl
  | release h => exact (Change.release h).evolves
  | countTally counter => exact (Change.slots s.captures (s.countTally counter).tallies).evolves

theorem operationStep (h : s.OperationStep s') : s.Evolves s' := by
  cases h with
  | register round generator m shape =>
      obtain ⟨reg, g, s', hreg⟩ := round.exists_registers generator s m shape
      rw [hreg.result]
      exact spent hreg.spent
  | createChild parent className => exact (Change.createChild parent className).evolves
  | addAnswer mock m answer => exact modify s mock fun _ => rfl
  | verifyRepeatedly r mocks expected notCalled n => exact verifyRepeatedly r mocks expected notCalled n s
  | markVerified mocks sequences => exact markVerified sequences mocks s
  | exclude mock m => exact exclude s mock m

end Evolves

end Store

/-! ## Programs -/

namespace Program

variable {μ : Type}

/-- Whatever happens in a run, inside blocks, answers and implementations too, is made of changes of the store. -/
theorem run_evolves (p : Program μ) (h : p.Uses Store.Evolves) (w : World (Log μ)) :
    w.store.Evolves (p.run.runOn w).2.store :=
  have hkept : World.KeptByPrograms (μ := μ) Store.Evolves fun _ : Unit => fun w' => w.store.Evolves w'.store :=
    .of_store (fun _ _ hs h => h.trans (Store.Evolves.callStep hs))
      (fun _ _ hs h => h.trans (Store.Evolves.operationStep hs)) fun _ _ hs h => h.trans hs
  (p.run_preserves hkept h () w .refl).world

end Program

end TestDouble
