import TestDouble.Proofs.Session.PreservingStatements

/-!
# What programs preserve

A property of the world that calls and operations preserve, and whatever else a program does by itself, is preserved by
its run. Where the property speaks about something besides the world, a block may preserve it for everything.
-/

namespace TestDouble

/-- The program itself changes the store in these ways only. -/
def Program.Uses {μ : Type} (R : Store → Store → Prop) : Program μ → Prop
  | done _ => True
  | look next => ∀ w, (next w).Uses R
  | remember _ next => next.Uses R
  | useStore f next => (∀ s : Store, R s (f s).2) ∧ ∀ a, (next a).Uses R
  | openSession next => ∀ i, (next i).Uses R
  | command _ _ next => ∀ r, (next r).Uses R
  | statement _ _ block next => block.Uses R ∧ ∀ r, (next r).Uses R
  | call _ _ _ _ next => ∀ r, (next r).Uses R
  | callThrough _ _ _ _ underlying next => (∀ args, (underlying args).Uses R) ∧ ∀ r, (next r).Uses R

variable {μ : Type} {R : Store → Store → Prop}

/-- Whatever a program does by itself. -/
theorem Program.uses_true (p : Program μ) : p.Uses fun _ _ => True := by
  induction p with
  | done result => trivial
  | look next ih => exact ih
  | remember memory next ih => exact ih
  | useStore f next ih => exact ⟨fun _ => trivial, ih⟩
  | openSession next ih => exact ih
  | command i c next ih => exact ih
  | statement i s block next ihblock ih => exact ⟨ihblock, ih⟩
  | call i target method args next ih => exact ih
  | callThrough i target method args underlying next ihunderlying ih => exact ⟨ihunderlying, ih⟩

/-- Whatever a program does keeps these properties of the world. -/
structure World.KeptByPrograms {ι : Type} (R : Store → Store → Prop) (I : ι → World (Log μ) → Prop) : Prop where
  calls : ∀ k, KeptByCalls (I k)
  commands : ∀ k i {α : Type} (c : Command α), (c.act i : Act (Log μ) MockError α).Preserves (I k)
  statements : ∀ i {α : Type} (s : Statement α) (block : Act (Log μ) Failure Unit),
    (∀ k, block.Preserves (I k)) → ∀ k, (s.act i block).Preserves (I k)
  notes : ∀ k, KeptByNotes (I k)
  memory : ∀ k w memory, I k w → I k { w with memory := { w.memory with memory } }
  sessions : ∀ k w, I k w → I k { w with sessions := w.sessions ++ [w.newSession w.sessions.length] }
  store : ∀ k w s, R w.store s → I k w → I k { w with store := s }

/-- A property of the store does not depend on anything else. -/
theorem World.KeptByPrograms.of_store {I : Store → Prop} (hcalls : ∀ s s', s.CallStep s' → I s → I s')
    (hoperations : ∀ s s', s.OperationStep s' → I s → I s') (huse : ∀ s s', R s s' → I s → I s') :
    KeptByPrograms R fun _ : Unit => fun w : World (Log μ) => I w.store := by
  have hkept (i : Nat) : KeptByOperations i fun w : World (Log μ) => I w.store :=
    { store := fun w s hs => hoperations w.store s hs
      session := fun _ _ _ h => h
      register := fun w o m shape _ h => hoperations w.store _ (.register o (w.session i).generator m shape) h }
  exact
    { calls := fun _ =>
        { store := fun w s hs => hcalls w.store s hs
          frames := fun _ _ _ h => h
          capture := fun w i o target method args _ h => hcalls w.store _
            (.capture o (w.session i).generator target method args (w.session i).frames.head?) h }
      commands := fun _ i _ c => Act.command_preserves (hkept i) c
      statements := fun i _ s _ hb k => Act.statement_preserves (hkept i) (Act.runRecordedBlock_preserves
        (hkept i).session (fun _ _ _ h => h) (Act.pass_preserves (fun _ _ _ h => h) (hb k))) s
      notes := fun _ _ _ _ h => h
      memory := fun _ _ _ h => h
      sessions := fun _ _ h => h
      store := fun _ w s hs => huse w.store s hs }

theorem Program.run_preserves {ι : Type} {I : ι → World (Log μ) → Prop} (hI : World.KeptByPrograms R I) (p : Program μ)
    (h : p.Uses R) : ∀ k, p.run.Preserves (I k) := by
  induction p with
  | done result => exact fun _ => .ofExcept result
  | look next ih => exact fun k => .bind .get fun w => ih w (h w) k
  | remember memory next ih => exact fun k => .bind (fun w hw => .of_ok rfl (hI.memory k w memory hw)) fun _ => ih h k
  | useStore f next ih => exact fun k => .bind (.onStore fun w => hI.store k w _ (h.1 w.store)) fun a => ih a (h.2 a) k
  | openSession next ih =>
      exact fun k => .bind (fun w hw => .of_ok rfl (hI.sessions k w hw)) fun i =>
        .bind (.note (hI.notes k) none) fun _ => ih i (h i) k
  | command i c next ih =>
      exact fun k => .bind (.operation (hI.notes k) (hI.commands k i c) _ i) fun r => ih r (h r) k
  | statement i s block next ihblock ih =>
      have hb : ∀ k, (Act.inBlock i block.run).Preserves (I k) := fun k => .inBlock (hI.notes k) (ihblock h.1 k) i
      exact fun k => .bind (.operation (hI.notes k) (hI.statements i s _ hb k) _ i) fun r => ih r (h.2 r) k
  | call i target method args next ih =>
      refine fun k => .bind (.side (hI.notes k) (Act.intercept_preserves (hI.calls k) fun _ hrun => ?_)) fun r =>
        ih r (h r) k
      cases hrun
  | callThrough i target method args underlying next ihunderlying ih =>
      refine fun k => .bind (.side (hI.notes k) (Act.intercept_preserves (hI.calls k) fun run hrun args => ?_)) fun r =>
        ih r (h.2 r) k
      cases hrun
      exact .inUnderlying (hI.notes k) (ihunderlying args (h.1 args) k)

end TestDouble
