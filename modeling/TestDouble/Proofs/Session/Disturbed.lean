import TestDouble.Proofs.Session.ObservingPrograms

/-!
# Disturbed blocks

A block whose session is reset, or used for another block, while it runs is not recorded: its statement fails and
leaves nothing pending, and all that has happened are the passes of the block.
-/

namespace TestDouble

variable {μ α : Type} {i n : Nat}

/-- A reset is a disturbance that the next moment shows, and so is an operation on the session that fails. -/
theorem Act.operation_disturbs (name : String) (x : Act (Log μ) MockError α) (w : World (Log μ)) :
    (operation name i x).Ensures w
      (fun r w' => ((∃ e, r = .error e) ∨ (w'.session i).round = none) →
        ∃ m, w'.memory.moments.head? = some m ∧ m.Disturbs i n)
      fun _ _ => False := by
  refine .bind (.attempt ?_)
  rcases hx : x.runOn w with ⟨e | a, w₁⟩
  · exact .of_error hx (.bind (.of_ok rfl (.pure fun _ => ⟨_, rfl, .inr (.inl ⟨_, rfl, rfl⟩)⟩)))
  · refine .of_ok hx (.bind (.of_ok rfl (.pure fun h => ⟨_, rfl, .inl ?_⟩)))
    rcases h with ⟨e, he⟩ | hround
    · cases he
    · exact hround

/-- So is another block of the session, whatever it does. -/
theorem Act.inBlock_disturbs (p : Program μ) (w : World (Log μ)) :
    ∃ new, ((inBlock i p.run).runOn w).2.memory.moments = new ++ w.memory.moments ∧
      ∃ m ∈ new, m.Disturbs i (w.memory.running.count i) := by
  obtain ⟨new, h⟩ := (inBlock_notesPass (p.run_leads i) w).world
  obtain ⟨m, hm, hcount⟩ := h.entered
  exact ⟨new, h.moments, m, hm, .inr (.inr hcount)⟩

/-- A statement that is disturbed while its block runs has itself neither given an answer, nor verified, nor hidden
a call, and it fails. -/
theorem Act.statement_fails (s : Statement α) (p : Program μ) (w : World (Log μ)) :
    ∃ new, ((s.act i (inBlock i p.run)).runOn w).2.memory.moments = new ++ w.memory.moments ∧
      ((∃ m ∈ new, m.Disturbs i (w.memory.running.count i + 1)) →
        (∃ e, ((s.act i (inBlock i p.run)).runOn w).1 = .error e) ∧
        (((s.act i (inBlock i p.run)).runOn w).2.session i).Idle ∧
        w.ByPasses i (inBlock i p.run) ((s.act i (inBlock i p.run)).runOn w).2) := by
  have hsettles := statement_settles (inBlock_notesPass (p.run_leads i)) s w
  rcases hrun : (s.act i (inBlock i p.run)).runOn w with ⟨e | a, w'⟩
  · obtain ⟨new, hobs, hidle, hend⟩ := hsettles.error hrun
    refine ⟨new, hobs.moments, fun ⟨m, hm, hdisturbs⟩ => ⟨⟨e, rfl⟩, hidle, ?_⟩⟩
    exact hend.resolve_left fun h => h m hm hdisturbs
  · obtain ⟨new, hobs, hnone⟩ := hsettles.ok hrun
    exact ⟨new, hobs.moments, fun ⟨m, hm, hdisturbs⟩ => absurd hdisturbs (hnone m hm)⟩

/-- A reset, a failing operation and another block are disturbances. Whatever the block does after one, and whatever
it returns, its statement fails with nothing pending, and all that has happened are the passes of the block. -/
theorem Program.disturbed_statements_fail (μ : Type) (i : Nat) :
    (∀ {α : Type} (name : String) (x : Act (Log μ) MockError α) (n : Nat) (w : World (Log μ)),
      (Act.operation name i x).Ensures w
        (fun r w' => ((∃ e, r = .error e) ∨ (w'.session i).round = none) →
          ∃ m, w'.memory.moments.head? = some m ∧ m.Disturbs i n)
        fun _ _ => False) ∧
    (∀ (p : Program μ) (w : World (Log μ)), ∃ new,
      ((Act.inBlock i p.run).runOn w).2.memory.moments = new ++ w.memory.moments ∧
        ∃ m ∈ new, m.Disturbs i (w.memory.running.count i)) ∧
    ∀ {α : Type} (s : Statement α) (p : Program μ) (w : World (Log μ)),
      let block := Act.inBlock i p.run
      let run := (s.act i block).runOn w
      ∃ new, run.2.memory.moments = new ++ w.memory.moments ∧
        ((∃ m ∈ new, m.Disturbs i (w.memory.running.count i + 1)) →
          (∃ e, run.1 = .error e) ∧ (run.2.session i).Idle ∧ w.ByPasses i block run.2) :=
  ⟨fun name x _ w => Act.operation_disturbs name x w, fun p w => Act.inBlock_disturbs p w,
    fun s p w => Act.statement_fails s p w⟩

namespace Program

/-- Adding a number to itself on the one mock. -/
def double (i : Nat) (n : Int32) (next : Program Unit) : Program Unit :=
  call i ⟨1, "Calculator"⟩ { name := "add", params := [.int, .int], returns := .int } [.int n, .int n] fun _ => next

/-- A block that starts over with a statement of its own, which it completes. -/
def startingOver : Program Unit :=
  double 0 1 <| command 0 .reset fun _ => statement 0 .every (double 0 2 (done (.ok .unit))) fun _ =>
    command 0 (.finish (.constant (.int 5))) fun _ => done (.ok .unit)

def calculator : World (Log Unit) where
  store := { registry := ⟨[{ object := ⟨1, "Calculator"⟩, kind := .strict }]⟩, nextObject := 2 }
  sessions := [{ generator := .ofSeed none }]
  memory := { memory := () }

def startedOver : Except MockError PendingAnswer × World (Log Unit) :=
  (Statement.every.act 0 (Act.inBlock 0 startingOver.run)).runOn calculator

/-- The statement inside gets its answer, the one around it fails although its block succeeds. -/
theorem disturbed_statements_fail_startingOver :
    (∃ m ∈ startedOver.2.memory.moments, m.Disturbs 0 1) ∧ (∃ e, startedOver.1 = .error e) ∧
      (startedOver.2.session 0).Idle ∧ calculator.ByPasses 0 (Act.inBlock 0 startingOver.run) startedOver.2 ∧
      (startedOver.2.store.registry.stub? 1).map (·.registered) = some ["Calculator#1.add(eq(2), eq(2))"] := by
  have hany : (startedOver.2.memory.moments.any fun m => decide (1 < m.running.count 0)) = true := by decide +kernel
  have hregistered : (startedOver.2.store.registry.stub? 1).map (·.registered) =
      some ["Calculator#1.add(eq(2), eq(2))"] := by decide +kernel
  obtain ⟨new, hnew, h⟩ := (disturbed_statements_fail Unit 0).2.2 .every startingOver calculator
  have hmoments : startedOver.2.memory.moments = new := by rw [startedOver, hnew]; exact List.append_nil new
  obtain ⟨m, hm, hcount⟩ := List.any_eq_true.mp hany
  have hdisturbs : m.Disturbs 0 1 := .inr (.inr (of_decide_eq_true hcount))
  obtain ⟨herror, hidle, hpasses⟩ := h ⟨m, hmoments ▸ hm, hdisturbs⟩
  exact ⟨⟨m, hm, hdisturbs⟩, herror, hidle, hpasses, hregistered⟩

end Program

end TestDouble
