import TestDouble.Proofs.Session.ObservingRecorded

/-!
# Programs as they observe a session

Wherever a program starts, its moments tell what it has done to a session: the round that is left has not been
disturbed, and the statement that waits for an answer is the old one unless another block has run.
-/

namespace TestDouble

namespace World

variable {μ : Type} {w w' w₀ : World (Log μ)} {i j : Nat} {new : List Moment}

/-- Code of a user has led from one world to the other. -/
def Leads (i : Nat) (w w' : World (Log μ)) : Prop := ∃ new, w.Observes i new w'

theorem Leads.refl (w : World (Log μ)) : w.Leads i w := ⟨[], .refl w⟩

theorem Leads.trans (h : w₀.Leads i w) (h' : w.Leads i w') : w₀.Leads i w' := by
  obtain ⟨new, h⟩ := h
  obtain ⟨new', h'⟩ := h'
  exact ⟨_, h.trans h'⟩

theorem Leads.steps (h : w₀.Leads i w) (h' : w.Steps j w') : w₀.Leads i w' := h.trans ⟨[], .of_steps h'⟩

/-- Neither an answer nor what it changes in the store is seen in a session, but for the frames of running calls. -/
theorem Leads.keptByCalls (w₀ : World (Log μ)) : KeptByCalls (w₀.Leads i) where
  store w s _ h := h.steps (j := i) ((Steps.refl w).store s)
  frames _ j _ h := h.steps (.modifySession (i := j) ⟨id, fun hp => ⟨hp, rfl⟩⟩)
  capture w j _ _ _ _ hr h := by
    have hsome := Option.isSome_of_eq_some hr
    exact h.steps (((Steps.refl w).store _).trans (.modifySession (i := j) ⟨fun _ => hsome, fun hp => ⟨hp, rfl⟩⟩))

/-- What is done to another session is not seen. -/
theorem Leads.elsewhere (hij : i ≠ j) (w : World (Log μ)) (f : Session → Session) : w.Leads i (w.modifySession j f) := by
  refine ⟨[], .of_follows (.of_memory rfl) ?_⟩
  rw [session_modifySession_ne fun h => hij h.symm]
  exact .refl

/-- Nor is anything seen of operations on it. -/
theorem Leads.keptByOperations (hij : i ≠ j) (w₀ : World (Log μ)) : KeptByOperations j (w₀.Leads i) where
  store w s _ h := h.steps (j := i) ((Steps.refl w).store s)
  session w f _ h := h.trans (.elsewhere hij w f)
  register w _ _ _ _ h := (h.steps (j := i) ((Steps.refl w).store _)).trans (.elsewhere hij _ _)

/-- Around the code of a block of another session, this one sees nothing but what the code does. -/
theorem Observes.leave (hij : i ≠ j)
    (h : Observes i new { w with memory := { w.memory with running := j :: w.memory.running } } w') :
    w.Observes i new { w' with memory := { w'.memory with running := w'.memory.running.tail } } := by
  have hcount : (j :: w.memory.running).count i = w.memory.running.count i := List.count_cons_of_ne hij.symm
  obtain ⟨⟨hrunning, hmoments⟩, hround, hpending⟩ := h
  dsimp only at hrunning hround hpending
  rw [hcount] at hround hpending
  exact ⟨⟨by rw [hrunning]; rfl, hmoments⟩, hround, hpending⟩

/-- The code of a block of the session itself is a pass. -/
theorem Observes.passed
    (h : Observes i new { w with memory := { w.memory with running := i :: w.memory.running } } w')
    (hentered : ∃ m ∈ new, m.running = i :: w.memory.running) :
    w.Passed i new { w' with memory := { w'.memory with running := w'.memory.running.tail } } := by
  have hcount : (i :: w.memory.running).count i = w.memory.running.count i + 1 := List.count_cons_self
  obtain ⟨⟨hrunning, hmoments⟩, hround, -⟩ := h
  dsimp only at hrunning hround
  rw [hcount] at hround
  refine ⟨⟨by rw [hrunning]; rfl, hmoments⟩, ?_, fun hr => (hround hr).2⟩
  obtain ⟨m, hm, hmr⟩ := hentered
  exact ⟨m, hm, by rw [hmr, hcount]; exact Nat.lt_succ_self _⟩

end World

namespace Act

variable {μ ε α : Type} {i j : Nat} {w w₀ : World (Log μ)} {name : String}

theorem note_leads (hw : w₀.Leads i w) {failed : Option Failed}
    (h : ∀ f, failed = some f → f.session = i → (w.session i).round = none) :
    (note failed : Act (Log μ) ε Unit).Ensures w (fun _ => w₀.Leads i) fun _ => w₀.Leads i :=
  .of_ok rfl (hw.trans ⟨_, .note w h⟩)

theorem note_none_preserves : (note none : Act (Log μ) ε Unit).Preserves (w₀.Leads i) := fun _ hw =>
  note_leads hw nofun

theorem side_preserves {x : Act (Log μ) MockError α} (hx : x.Preserves (w₀.Leads i)) :
    (side x).Preserves (w₀.Leads i) := hx.attempt.bind fun _ => note_none_preserves.bind fun _ => .pure _

/-- When an operation on the session fails, its round has to be gone. -/
theorem operation_preserves {x : Act (Log μ) MockError α} (hx : ∀ w, x.Ensures w (fun _ => w.Leads i)
      fun _ w' => w.Leads i w' ∧ (j = i → (w'.session i).round = none)) :
    (operation name j x).Preserves (w₀.Leads i) := by
  intro w hw
  refine .bind (.attempt ((hx w).mono (fun a w₁ h => ?_) fun e w₁ h => ?_))
  · exact .bind ((note_none_preserves w₁ (hw.trans h)).mono (fun _ _ h => .pure h) fun _ _ h => h)
  · have hnone : ∀ f, some (Failed.mk name j e) = some f → f.session = i → (w₁.session i).round = none := by
      intro f hf hsession
      cases hf
      exact h.2 hsession
    exact .bind ((note_leads (hw.trans h.1) hnone).mono (fun _ _ h => .pure h) fun _ _ h => h)

theorem command_operation_preserves (c : Command α) : (operation c.name j (c.act j)).Preserves (w₀.Leads i) :=
  operation_preserves fun w => (command_steps c w).mono (fun _ _ h => (World.Leads.refl w).steps h) fun _ _ h =>
    ⟨(World.Leads.refl w).steps h.1, fun hij => hij ▸ h.2.round⟩

/-! ## Blocks -/

variable {x : Act (Log μ) Failure Value}

/-- The code of a block is entered with a moment of its own. -/
theorem inBlock_ensures (hx : ∀ w₀, x.Preserves (World.Leads i w₀)) (w : World (Log μ)) {P : World (Log μ) → Prop}
    (hP : ∀ new w', World.Observes i new { w with memory := { w.memory with running := j :: w.memory.running } } w' →
      (∃ m ∈ new, m.running = j :: w.memory.running) →
      P { w' with memory := { w'.memory with running := w'.memory.running.tail } }) :
    (inBlock j x).Ensures w (fun _ => P) fun _ => P := by
  have hnone : ∀ f, (none : Option Failed) = some f → f.session = i → (w.session i).round = none := nofun
  have hnote := World.Observes.note { w with memory := { w.memory with running := j :: w.memory.running } } hnone
  refine .bind (.of_ok rfl (.bind (.of_ok rfl (.bind (.attempt_either (hx _ _ (.refl _)) fun r w' h => ?_)))))
  obtain ⟨new, h⟩ := h
  have hend := hP _ w' (hnote.trans h) ⟨_, List.mem_append_right _ (List.mem_singleton_self _), rfl⟩
  refine .bind (.of_ok rfl ?_)
  cases r with
  | ok _ => exact .pure hend
  | error e => exact .throw hend

theorem inBlock_notesPass (hx : ∀ w₀, x.Preserves (World.Leads i w₀)) : (inBlock i x).NotesPass i := fun w =>
  inBlock_ensures hx w fun new _ h hentered => ⟨new, h.passed hentered⟩

theorem inBlock_preserves (hij : i ≠ j) (hx : ∀ w₀, x.Preserves (World.Leads i w₀)) :
    (inBlock j x).Preserves (w₀.Leads i) := fun w hw =>
  inBlock_ensures hx w fun new _ h _ => hw.trans ⟨new, h.leave hij⟩

theorem statement_operation_preserves (hx : ∀ i (w₀ : World (Log μ)), x.Preserves (w₀.Leads i)) (s : Statement α) :
    (operation s.name j (s.act j (inBlock j x))).Preserves (w₀.Leads i) := by
  refine operation_preserves fun w => ?_
  by_cases hij : i = j
  · subst hij
    refine (statement_settles (inBlock_notesPass (hx i)) s w).mono (fun _ _ ⟨new, h, _⟩ => ⟨new, h⟩) ?_
    exact fun _ _ ⟨new, h, hidle, _⟩ => ⟨⟨new, h⟩, fun _ => hidle.round⟩
  · have hoperations := World.Leads.keptByOperations hij w
    have hrun := runRecordedBlock_preserves hoperations.session (fun w' _ _ h => h.trans (.elsewhere hij w' _))
      (pass_preserves (fun w' _ _ h => h.trans (.elsewhere hij w' _)) (inBlock_preserves hij (hx i)))
    have hblock := statement_preserves hoperations hrun s
    exact (hblock w (.refl w)).mono (fun _ _ h => h) fun _ _ h => ⟨h, fun hji => absurd hji.symm hij⟩

end Act

/-- Whatever a program does in its session and in others, its moments tell. -/
theorem Program.run_leads {μ : Type} (p : Program μ) (i : Nat) (w₀ : World (Log μ)) : p.run.Preserves (w₀.Leads i) := by
  induction p generalizing i w₀ with
  | done result => exact .ofExcept result
  | look next ih => exact Act.Preserves.get.bind fun w => ih w i w₀
  | remember memory next ih =>
      refine Act.Preserves.bind (fun w hw => .of_ok rfl (hw.trans ⟨[], ?_⟩)) fun _ => ih i w₀
      exact .of_follows ⟨rfl, rfl⟩ .refl
  | useStore f next ih =>
      refine (Act.Preserves.onStore fun w h => ?_).bind fun a => ih a i w₀
      exact h.steps (j := i) ((World.Steps.refl w).store (f w.store).2)
  | openSession next ih =>
      refine Act.Preserves.bind (fun w hw => .of_ok rfl (hw.trans ⟨[], ?_⟩)) fun k =>
        Act.note_none_preserves.bind fun _ => ih k i w₀
      refine .of_follows (.of_memory rfl) ?_
      rw [World.session_append_newSession]
      exact .refl
  | command j c next ih => exact (Act.command_operation_preserves c).bind fun r => ih r i w₀
  | statement j s block next ihblock ih => exact (Act.statement_operation_preserves ihblock s).bind fun r => ih r i w₀
  | call j target method args next ih =>
      refine (Act.side_preserves (Act.intercept_preserves (World.Leads.keptByCalls w₀) fun _ hrun => ?_)).bind
        fun r => ih r i w₀
      cases hrun
  | callThrough j target method args underlying next ihunderlying ih =>
      refine (Act.side_preserves (Act.intercept_preserves (World.Leads.keptByCalls w₀) fun run hrun args => ?_)).bind
        fun r => ih r i w₀
      cases hrun
      exact Act.note_none_preserves.bind fun _ => ihunderlying args i w₀

end TestDouble
