import TestDouble.Proofs.Session.PreservingPrograms
import TestDouble.Proofs.Session.Rounds
import TestDouble.Proofs.Store

/-!
# Stores that programs reach

Every operation leads from a reached store to a reached one, and so does every program that uses the store in no
other way.
-/

namespace TestDouble

namespace Store.Reached

variable {s : Store}

theorem spent {s' : Store} (h : s.Reached) (hs : s.Spent s') : s'.Reached := by
  obtain ⟨n, k, hn, rfl⟩ := hs
  exact h.drawn n k hn

theorem newCall (h : s.Reached) (target : ObjectRef) (method : Method) (args : List Value) (caller : Option Frame) :
    (s.newCall target method args caller).2.Reached := h.drawn _ _ (Nat.le_refl _)

theorem clearAnswers (h : s.Reached) (mock : Nat) : (s.clearAnswers mock).Reached :=
  h.probe (.clearAnswers mock fun _ => .done ())

theorem countTally (h : s.Reached) (counter : Nat) : (s.countTally counter).Reached := h.slots _ _

theorem relaxedChild (h : s.Reached) (stub : Stub) (c : Call) (className : String) :
    (s.relaxedChild stub c className).2.Reached := by
  unfold Store.relaxedChild
  split
  · exact h
  · exact ((h.createChild stub className).addAnswer stub.id _ _).resolve stub.id c false

theorem verifyRepeatedly (r : Request) (mocks : List Nat) (expected notCalled : List CallMatcher) (n : Nat)
    (h : s.Reached) : (Act.verifyRepeatedly r mocks expected notCalled n s).2.Reached := by
  obtain ⟨s', hs', hlook⟩ := Act.exists_lastLook (fun _ p hs => hs.probe p) r mocks expected notCalled n h
  rw [hlook]
  exact hs'.probe _

theorem markVerified_foldl (sequences : List Nat) (mocks : List Nat) (h : s.Reached) :
    (mocks.foldl (fun s mock => s.modify mock (·.markVerified sequences)) s).Reached := by
  induction mocks generalizing s with
  | nil => exact h
  | cons mock mocks ih => exact ih (h.markVerified mock sequences)

theorem callStep {s' : Store} (h : s.Reached) (hs : s.CallStep s') : s'.Reached := by
  cases hs with
  | capture round generator target method args caller =>
      obtain ⟨c, g, s', hcap⟩ := round.exists_captures generator s target method args caller
      rw [hcap.result]
      exact h.spent hcap.spent
  | newCall target method args caller => exact h.newCall target method args caller
  | resolve mock c log => exact h.resolve mock c log
  | relaxedChild stub c className => exact h.relaxedChild stub c className
  | clearAnswers mock => exact h.clearAnswers mock
  | release hs => exact h.release hs
  | countTally counter => exact h.countTally counter

theorem operationStep {s' : Store} (h : s.Reached) (hs : s.OperationStep s') : s'.Reached := by
  cases hs with
  | register round generator m shape =>
      obtain ⟨reg, g, s', hreg⟩ := round.exists_registers generator s m shape
      rw [hreg.result]
      exact h.spent hreg.spent
  | createChild parent className => exact h.createChild parent className
  | addAnswer mock m answer => exact h.addAnswer mock m answer
  | verifyRepeatedly r mocks expected notCalled n => exact h.verifyRepeatedly r mocks expected notCalled n
  | markVerified mocks sequences => exact h.markVerified_foldl sequences mocks
  | exclude mock m => exact h.exclude mock m

end Store.Reached

/-- From a reached store the computation leads to a reached store, whether it succeeds or fails. -/
def Act.Reaches {σ ε α : Type} (x : Act σ ε α) : Prop := x.Preserves fun w => w.store.Reached

/-! ## Programs -/

namespace Program

variable {μ : Type}

/-- The program itself changes the store only in ways that lead from reached stores to reached ones. -/
abbrev Orderly (p : Program μ) : Prop := p.Uses fun s s' => s.Reached → s'.Reached

/-- Whatever else an orderly program does, inside its blocks and implementations too, it only reaches stores to which
the operations of the library lead. -/
theorem run_reaches (p : Program μ) (h : p.Orderly) : p.run.Reaches :=
  p.run_preserves (I := fun _ : Unit => fun w => w.store.Reached)
    (.of_store (fun _ _ hs h => h.callStep hs) (fun _ _ hs h => h.operationStep hs) fun _ _ hs h => hs h) h ()

/-- So new identities are new, and the entries of a mock are told apart, whatever has been done before. -/
theorem run_sound (p : Program μ) (h : p.Orderly) {w : World (Log μ)} (hw : w.store.Reached) :
    (p.run.runOn w).2.store.Sound :=
  Act.Ensures.world ((p.run_reaches h w hw).mono (fun _ _ h => h.sound) fun _ _ h => h.sound)

end Program

end TestDouble
