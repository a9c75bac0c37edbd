import TestDouble.Proofs.Session.ObservingStatements

/-!
# Recorded blocks as programs observe them

A block that has been recorded has run undisturbed, and leaves no round; a block that could not be recorded leaves
nothing pending, and nothing but its own passes has happened.
-/

namespace TestDouble

section

variable {μ : Type} {w w₁ w' : World (Log μ)} {i : Nat} {new new' : List Moment}

/-- What the code of one pass has noted. If it still has its round, nothing has disturbed it. -/
structure World.Passed (i : Nat) (new : List Moment) (w w' : World (Log μ)) : Prop extends World.Notes new w w' where
  entered : ∃ m ∈ new, w.memory.running.count i < m.running.count i
  undisturbed : (w'.session i).round.isSome → ∀ m ∈ new, ¬m.Disturbs i (w.memory.running.count i + 1)

/-- Rounds have been recorded, and no round is in progress. -/
structure World.RanAlone (i : Nat) (new : List Moment) (w w' : World (Log μ)) : Prop extends World.Notes new w w' where
  entered : ∃ m ∈ new, w.memory.running.count i < m.running.count i
  undisturbed : ∀ m ∈ new, ¬m.Disturbs i (w.memory.running.count i + 1)
  round : (w'.session i).round = none

namespace World

theorem RanAlone.trans (h : w.RanAlone i new w₁) (h' : w₁.RanAlone i new' w') : w.RanAlone i (new' ++ new) w' where
  toNotes := h.toNotes.trans h'.toNotes
  entered := by
    obtain ⟨m, hm, hcount⟩ := h.entered
    exact ⟨m, List.mem_append_right _ hm, hcount⟩
  undisturbed m hm := by
    have hnew' := h'.undisturbed
    rw [h.running] at hnew'
    exact (List.mem_append.mp hm).elim (hnew' m) (h.undisturbed m)
  round := h'.round

/-- The pass is over: its round is kept aside. -/
theorem Passed.ranAlone (h : w.Passed i new w') (hr : (w'.session i).round.isSome) :
    w.RanAlone i new (w'.modifySession i fun s => { s with round := none }) where
  toNotes := ⟨h.running, h.moments⟩
  entered := h.entered
  undisturbed := h.undisturbed hr
  round := by rw [session_modifySession_self (lt_of_round hr)]

end World

end

/-! ## Recording a block -/

namespace Act

variable {μ : Type} {i : Nat} {w : World (Log μ)} {block : Act (Log μ) Failure Unit} {phase : Phase}

/-- Wherever the block starts, it notes what happens in a pass. -/
def NotesPass (i : Nat) (block : Act (Log μ) Failure Unit) : Prop :=
  ∀ w, block.Ensures w (fun _ w' => ∃ new, w.Passed i new w') fun _ w' => ∃ new, w.Passed i new w'

/-- Pass after pass is noted, and none of them that goes on has been disturbed. -/
theorem NotesPass.passing (hb : block.NotesPass i) (w : World (Log μ)) :
    Passing i block (fun w' => w' = w ∨ ∃ new, w.RanAlone i new w') (fun w' => ∃ new, w.RanAlone i new w')
      (fun w' => ∃ new, World.Notes new w w') fun _ => True where
  pass index hints w₁ hw₁ := by
    refine pass_ensures ((hb _).mono (fun _ w₂ h => ?_) fun _ w₂ h => ?_)
    all_goals
      obtain ⟨new, hpass⟩ := h
      -- starting the round is nothing that is noted
      have hpass : w₁.Passed i new w₂ := ⟨⟨hpass.running, hpass.moments⟩, hpass.entered, hpass.undisturbed⟩
      rcases hw₁ with rfl | ⟨old, hold⟩
      · exact ⟨fun _ => ⟨new, hpass.toNotes⟩, fun o ho => ⟨trivial, new, hpass.ranAlone (by rw [ho]; rfl)⟩⟩
      · exact ⟨fun _ => ⟨_, hold.toNotes.trans hpass.toNotes⟩,
          fun o ho => ⟨trivial, _, hold.trans (hpass.ranAlone (by rw [ho]; rfl))⟩⟩
  again _ h := .inr h
  error := by
    rintro w₁ (rfl | ⟨new, h⟩)
    · exact ⟨[], .of_memory rfl⟩
    · exact ⟨new, h.toNotes⟩

/-- Recording a block leaves no trace of its passes but what they have done themselves. -/
theorem runRecordedBlock_notes (hb : block.NotesPass i) (w : World (Log μ)) : (runRecordedBlock i block).Ensures w
    (fun _ w' => ∃ new, w.Observes i new w' ∧ ∀ m ∈ new, ¬m.Disturbs i (w.memory.running.count i + 1))
    fun _ w' => (∃ new, w.Observes i new w') ∧ (w'.session i).Idle := by
  have hdropped : ∀ {new : List Moment} {w₁ : World (Log μ)}, World.Notes new w w₁ →
      (∃ new, w.Observes i new (w₁.modifySession i Session.cleared)) ∧
        ((w₁.modifySession i Session.cleared).session i).Idle := by
    intro new w₁ h
    have hidle := World.idle_modifySession_cleared (w := w₁) (i := i)
    refine ⟨⟨new, ⟨h.running, h.moments⟩, fun hr => ?_, fun hp => ?_⟩, hidle⟩
    · rw [hidle.round] at hr; cases hr
    · rw [hidle.phase] at hp; cases hp
  refine .bind (expectPhase_ensures (fun _ => .bind (.session ?_)) fun _ => hdropped (.of_memory rfl))
  dsimp only
  split
  · exact .bind (.fail (hdropped (.of_memory rfl)))
  · refine .bind (.orFail (((hb.passing w).recordBlock (.inl rfl)).mono (fun resolution w₁ hrec => .modifySession ?_)
      fun _ _ ⟨_, h⟩ => hdropped h))
    rcases hrec.1 with ⟨new, hrec⟩ | ⟨hv, rfl⟩
    · refine ⟨new, ⟨⟨hrec.running, hrec.moments⟩, fun hr => ?_, fun _ => .inr hrec.entered⟩, hrec.undisturbed⟩
      rw [World.session_modifySession] at hr
      split at hr <;> rw [hrec.round] at hr <;> cases hr
    · refine ⟨[], .of_steps (.modifySession ⟨id, fun hp => ?_⟩), fun _ hm => absurd hm List.not_mem_nil⟩
      rw [hv] at hp
      cases hp

end Act

/-! ## Statements with a block -/

/-- Only passes of the block have happened since, and changes of its session. -/
inductive World.ByPasses {σ : Type} (i : Nat) (block : Act σ Failure Unit) (w : World σ) : World σ → Prop where
  | refl : ByPasses i block w w
  | session {w' : World σ} (h : ByPasses i block w w') (f : Session → Session) : ByPasses i block w (w'.modifySession i f)
  | pass {w' : World σ} (h : ByPasses i block w w') (index : Nat) (hints : Hints) :
      ByPasses i block w ((Act.pass i index hints block).runOn w').2

theorem World.ByPasses.trans {σ : Type} {i : Nat} {block : Act σ Failure Unit} {w w₁ w₂ : World σ}
    (h : w.ByPasses i block w₁) (h' : w₁.ByPasses i block w₂) : w.ByPasses i block w₂ := by
  induction h' with
  | refl => exact h
  | session _ f ih => exact ih.session f
  | pass _ index hints ih => exact ih.pass index hints

namespace Act

variable {μ α β : Type} {i : Nat} {w : World (Log μ)} {block : Act (Log μ) Failure Unit}

/-- Nothing but passes of the block; if they are disturbed, this fails. -/
def RecordsOnly (x : Act (Log μ) MockError α) (i : Nat) (block : Act (Log μ) Failure Unit) : Prop :=
  ∀ w, x.Ensures w
    (fun _ w' => (∃ new, w.Observes i new w' ∧ ∀ m ∈ new, ¬m.Disturbs i (w.memory.running.count i + 1)) ∧
      w.ByPasses i block w')
    fun _ w' => ((∃ new, w.Observes i new w') ∧ (w'.session i).Idle) ∧ w.ByPasses i block w'

theorem undisturbed_append {w w₁ : World (Log μ)} {new new' : List Moment} (h : w.Observes i new w₁)
    (hnew : ∀ m ∈ new, ¬m.Disturbs i (w.memory.running.count i + 1))
    (hnew' : ∀ m ∈ new', ¬m.Disturbs i (w₁.memory.running.count i + 1)) :
    ∀ m ∈ new' ++ new, ¬m.Disturbs i (w.memory.running.count i + 1) := fun m hm =>
  (List.mem_append.mp hm).elim (h.running ▸ hnew' m) (hnew m)

namespace RecordsOnly

variable {x : Act (Log μ) MockError α}

theorem of_steps (hx : x.StepsOnly i) (hp : ∀ w, x.Preserves (World.ByPasses i block w)) : x.RecordsOnly i block := by
  intro w
  refine (Ensures.mono (hx w) (fun _ w' h => ?_) fun _ w' h => ?_).and (hp w w .refl)
  · exact ⟨[], .of_steps h, fun _ hm => absurd hm List.not_mem_nil⟩
  · exact ⟨⟨[], .of_steps h.1⟩, h.2⟩

theorem bind {f : α → Act (Log μ) MockError β} (hx : x.RecordsOnly i block) (hf : ∀ a, (f a).RecordsOnly i block) :
    (x >>= f).RecordsOnly i block := by
  intro w
  refine .bind ((hx w).mono (fun a w₁ ⟨⟨new, hobs, hnew⟩, hpasses⟩ => ?_) fun _ _ h => h)
  refine (hf a w₁).mono (fun _ w' ⟨⟨new', hobs', hnew'⟩, hpasses'⟩ => ?_)
    fun _ w' ⟨⟨⟨new', hobs'⟩, hidle⟩, hpasses'⟩ => ?_
  · exact ⟨⟨_, hobs.trans hobs', undisturbed_append hobs hnew hnew'⟩, hpasses.trans hpasses'⟩
  · exact ⟨⟨⟨_, hobs.trans hobs'⟩, hidle⟩, hpasses.trans hpasses'⟩

end RecordsOnly

theorem runRecordedBlock_records (hb : block.NotesPass i) : (runRecordedBlock i block).RecordsOnly i block := by
  intro w
  refine (runRecordedBlock_notes hb w).and (runRecordedBlock_preserves (fun _ f _ h => h.session f) (fun _ _ _ h => h.session _) ?_ w .refl)
  exact fun index hints w' h => .of_world (h.pass index hints)

/-- What has been recorded has not been disturbed; what fails before that has done nothing but the passes. -/
def Settles (x : Act (Log μ) MockError α) (i : Nat) (block : Act (Log μ) Failure Unit) : Prop :=
  ∀ w, x.Ensures w
    (fun _ w' => ∃ new, w.Observes i new w' ∧ ∀ m ∈ new, ¬m.Disturbs i (w.memory.running.count i + 1))
    fun _ w' => ∃ new, w.Observes i new w' ∧ (w'.session i).Idle ∧
      ((∀ m ∈ new, ¬m.Disturbs i (w.memory.running.count i + 1)) ∨ w.ByPasses i block w')

theorem RecordsOnly.settles {x : Act (Log μ) MockError α} {f : α → Act (Log μ) MockError β}
    (hx : x.RecordsOnly i block) (hf : ∀ a, (f a).StepsOnly i) : (x >>= f).Settles i block := by
  intro w
  refine .bind ((hx w).mono (fun a w₁ ⟨⟨new, hobs, hnew⟩, _⟩ => ?_) fun _ w' ⟨⟨⟨new, hobs⟩, hidle⟩, hpasses⟩ => ?_)
  · refine (hf a w₁).mono (fun _ w' h => ?_) fun _ w' h => ?_
    · exact ⟨_, hobs.trans (.of_steps h), hnew⟩
    · exact ⟨_, hobs.trans (.of_steps h.1), h.2, .inl hnew⟩
  · exact ⟨new, hobs, hidle, .inr hpasses⟩

theorem statement_settles (hb : block.NotesPass i) (s : Statement α) : (s.act i block).Settles i block := by
  have hrun := runRecordedBlock_records hb
  have hverification : ∀ r, (beginVerification i r >>= fun _ => runRecordedBlock i block).RecordsOnly i block := fun r =>
    (RecordsOnly.of_steps (beginVerification_steps r) fun _ =>
      beginVerification_preserves (fun _ f _ h => h.session f) r).bind fun _ => hrun
  have hpure : ∀ {β : Type} (b : β), (pure b : Act (Log μ) MockError β).StepsOnly i := fun _ w => .pure (.refl w)
  cases s with
  | runRecordedBlock =>
      have h := hrun.settles fun a => hpure a
      rwa [bind_pure] at h
  | every =>
      have hbegin : (beginStubbing i : Act (Log μ) MockError Unit).RecordsOnly i block :=
        .of_steps beginStubbing_steps fun _ => beginStubbing_preserves fun _ f _ h => h.session f
      have h := (hbegin.bind fun _ => hrun).settles fun _ => hpure (PendingAnswer.mk i)
      rwa [bind_assoc] at h
  | verify r =>
      have h := (hverification r).settles fun _ => finalizeVerification_steps
      rwa [bind_assoc] at h
  | excludeRecords =>
      have h := (hverification {}).settles fun _ =>
        takeVerification_steps "exclude_records" fun taken => StoreOnly.get.bind fun w =>
          excludeEach_storeOnly (Resolution.linked w.store.registry [] taken.2.1).2
            (Resolution.linked w.store.registry [] taken.2.1).1.matchers
      rwa [bind_assoc] at h

end Act

end TestDouble
