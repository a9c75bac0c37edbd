import TestDouble.Proofs.Session.Ensures

/-!
# Passes of a block

A block is run pass after pass, for as many rounds as it needs. What one pass does to the world carries over to all
rounds, and to the block as it is recorded.
-/

namespace TestDouble

/-- A round has been started in the session. -/
def World.startRound {σ : Type} (w : World σ) (i index : Nat) (hints : Hints) : World σ :=
  w.modifySession i fun s => { s with
    generator := s.generator.startRound index, notCalled := [], round := some (.start index hints) }

/-- The round of the session has been taken. -/
def World.takeRound {σ : Type} (w : World σ) (i : Nat) : World σ := w.modifySession i fun s => { s with round := none }

@[simp] theorem World.length_takeRound {σ : Type} (w : World σ) (i : Nat) :
    (w.takeRound i).sessions.length = w.sessions.length :=
  World.length_modifySession

namespace Act

variable {σ : Type} {i : Nat} {block : Act σ Failure Unit} {phase : Phase}

/-- One pass of a recorded block: a round is started, and the block runs. -/
def pass (i index : Nat) (hints : Hints) (block : Act σ Failure Unit) : Act σ MockError (Except Failure Unit) := do
  startRound i index hints
  attempt block

/-- What is wrong with a pass that has lost its round. -/
def lostRound (phase : Phase) : Except Failure Unit → MockError
  | .error failure => failure.ofBlock
  | .ok _ => .badSequence "run_recorded_block" phase (some "the session was reset while the block was running")

/-- What becomes of a round after a pass is what the review of the pass says, unless the round is lost. -/
theorem runOn_recordRound_succ {w w' : World σ} {index : Nat} {hinting : Hinting} {outcome : Except Failure Unit}
    (hrun : block.runOn (w.startRound i index hinting.hints) = (outcome, w')) (phase : Phase) (n : Nat) :
    (recordRound i block phase index (n + 1) hinting).runOn w =
      match (w'.session i).round with
      | none => (.error (lostRound phase outcome), w')
      | some finished =>
        match hinting.review outcome finished.round with
        | (.ok .complete, hinting) => (.ok (finished.round, hinting), w'.takeRound i)
        | (.ok .retry, hinting) => (recordRound i block phase index n hinting).runOn (w'.takeRound i)
        | (.error e, _) => (.error e, w'.takeRound i) := by
  have hstart : (startRound i index hinting.hints : Act σ MockError Unit).runOn w =
      (.ok (), w.startRound i index hinting.hints) := rfl
  rw [recordRound, runOn_bind_ok hstart, runOn_bind_ok (runOn_attempt _ _), hrun, runOn_bind_ok (runOn_session i _)]
  cases hround : (w'.session i).round with
  | none => cases outcome <;> rfl
  | some finished =>
      dsimp only
      rw [runOn_bind_ok (runOn_modifySession i _ _)]
      rcases hinting.review outcome finished.round with ⟨_ | verdict, hinting'⟩
      · rfl
      · cases verdict <;> rfl

/-- A pass may end with a failure of the block, but does not fail itself. -/
theorem pass_ensures {index : Nat} {hints : Hints} {w : World σ} {P : World σ → Prop} {E : MockError → World σ → Prop}
    (h : block.Ensures (w.startRound i index hints) (fun _ => P) fun _ => P) :
    (pass i index hints block).Ensures w (fun _ => P) E :=
  .bind (.modifySession (.attempt h))

/-- A round is recorded pass after pass. Before each the world is as `I` says, after it the round, and the world once
the round has been taken, are as `K` says; what fails leaves it as `E` says. -/
theorem recordRound_ensures {index : Nat} {I E : World σ → Prop} {K : Round → World σ → Prop}
    (hpass : ∀ hints w, I w → (pass i index hints block).Ensures w (fun _ w' => ((w'.session i).round = none → E w') ∧
      ∀ o, (w'.session i).round = some o → K o.round (w'.takeRound i)) fun _ => E)
    (hagain : ∀ r w, K r w → I w) (herror : ∀ w, I w → E w) : ∀ (n : Nat) (hinting : Hinting) (w : World σ), I w →
      (recordRound i block phase index n hinting).Ensures w (fun r => K r.1) fun _ => E
  | 0, _, w, hw => .throw (herror w hw)
  | n + 1, hinting, w, hw => by
      rw [recordRound, ← bind_assoc]
      refine .bind ((hpass hinting.hints w hw).mono (fun outcome w₁ h₁ => .bind (.session ?_)) fun _ _ h => h)
      -- the block may have failed with its round still there, and may have succeeded after losing it
      cases hround : (w₁.session i).round with
      | none =>
          cases outcome with
          | ok _ => exact .throw (h₁.1 hround)
          | error _ => exact .throw (h₁.1 hround)
      | some finished =>
          have hclosed := h₁.2 finished hround
          refine .bind (.modifySession ?_)
          rcases hinting.review outcome finished.round with ⟨_ | verdict, hinting'⟩
          · exact .throw (herror _ (hagain _ _ hclosed))
          · cases verdict with
            | complete => exact .pure hclosed
            | retry => exact recordRound_ensures hpass hagain herror n hinting' _ (hagain _ _ hclosed)

/-- Before a pass the world is as `I` says of the rounds that have been recorded so far. After it the world, once the
round has been taken, is as `I` says of these and the new one; a pass that has lost its round has failed, as `E`
says. -/
structure Gathering (i : Nat) (block : Act σ Failure Unit) (I : List Round → World σ → Prop) (E : World σ → Prop) :
    Prop where
  pass : ∀ rounds index hints w, I rounds w → (pass i index hints block).Ensures w
    (fun _ w' => ((w'.session i).round = none → E w') ∧ ∀ o, (w'.session i).round = some o →
      I (rounds ++ [o.round]) (w'.takeRound i)) fun _ => E
  again : ∀ rounds r w, I (rounds ++ [r]) w → I rounds w
  error : ∀ rounds w, I rounds w → E w

namespace Gathering

variable {I : List Round → World σ → Prop} {E : World σ → Prop} {w : World σ}

theorem recordRound (h : Gathering i block I E) (rounds : List Round) (index n : Nat) (hinting : Hinting)
    (hw : I rounds w) : (recordRound i block phase index n hinting).Ensures w (fun r w' => I (rounds ++ [r.1]) w')
      fun _ => E :=
  recordRound_ensures (h.pass rounds index) (h.again rounds) (h.error rounds) n hinting w hw

theorem recordMore (h : Gathering i block I E) : ∀ (n index : Nat) (hinting : Hinting) (rounds : List Round)
    (w : World σ), I rounds w →
      (recordMore i block phase n index hinting).Ensures w (fun more w' => I (rounds ++ more) w') fun _ => E
  | 0, _, _, rounds, _, hw => .pure ((List.append_nil rounds).symm ▸ hw)
  | n + 1, index, hinting, rounds, _, hw =>
      .bind ((h.recordRound rounds index passLimit hinting.startRound hw).mono (fun r w₁ h₁ =>
        .bind ((recordMore h n (index + 1) r.2 (rounds ++ [r.1]) w₁ h₁).mono (fun more _ h₂ =>
          .pure (List.append_cons rounds r.1 more ▸ h₂)) fun _ _ h => h)) fun _ _ h => h)

/-- Rounds have been recorded, or none were asked for and nothing has happened. -/
theorem recordRounds (h : Gathering i block I E) (hw : I [] w) : (recordRounds i block phase).Ensures w
    (fun rounds w' => I rounds w' ∧ (rounds = [] → w' = w)) fun _ => E := by
  refine .bind (.get ?_)
  dsimp only
  split
  · exact .pure ⟨hw, fun _ => rfl⟩
  · exact .bind ((h.recordRound [] 0 passLimit {} hw).mono (fun r w₁ h₁ =>
      .bind ((h.recordMore _ 1 r.2 [r.1] w₁ h₁).mono (fun _ _ h₂ => .pure ⟨h₂, nofun⟩) fun _ _ h => h)) fun _ _ h => h)

/-- Only a block that verifies may be recorded in no rounds at all. -/
theorem recordBlock (h : Gathering i block I E) (hw : I [] w) : (recordBlock i block phase).Ensures w
    (fun res w' => ∃ rounds, I rounds w' ∧ (rounds = [] → phase = .verifying ∧ w' = w) ∧
      Resolution.ofRounds rounds phase = .ok res) fun _ => E := by
  refine .bind ((h.recordRounds hw).mono (fun rounds w₁ ⟨hrounds, hend⟩ => ?_) fun _ _ h => h)
  have herror : E w₁ := h.error _ _ hrounds
  refine .bind (.ofExcept (fun res hres => .bind (.session ?_)) fun _ _ => herror)
  dsimp only
  split
  · exact .bind (.throw herror)
  · rename_i hdeclares
    refine .pure ⟨rounds, hrounds, fun hnil => ⟨?_, hend hnil⟩, hres⟩
    subst hnil
    cases hres
    simp at hdeclares
    exact hdeclares.2

end Gathering

/-- Before a pass the world is as `I` says. After it the round is as `R` says and the world, once the round has been
taken, as `J` says; a pass that has lost its round has failed, as `E` says. -/
structure Passing (i : Nat) (block : Act σ Failure Unit) (I J E : World σ → Prop) (R : Round → Prop) : Prop where
  pass : ∀ index hints w, I w → (pass i index hints block).Ensures w
    (fun _ w' => ((w'.session i).round = none → E w') ∧ ∀ o, (w'.session i).round = some o →
      R o.round ∧ J (w'.takeRound i)) fun _ => E
  again : ∀ w, J w → I w
  error : ∀ w, I w → E w

namespace Passing

variable {I J E : World σ → Prop} {R : Round → Prop} {w : World σ}

theorem gathering (h : Passing i block I J E R) :
    Gathering i block (fun rounds w => (∀ r ∈ rounds, R r) ∧ (J w ∨ rounds = [] ∧ I w)) E where
  pass rounds index hints w hw := by
    have hstart : I w := hw.2.elim (h.again w) And.right
    refine (h.pass index hints w hstart).mono (fun _ w' hpass => ⟨hpass.1, fun o ho => ?_⟩) fun _ _ h => h
    obtain ⟨hround, hclosed⟩ := hpass.2 o ho
    exact ⟨List.forall_mem_append.mpr ⟨hw.1, List.forall_mem_singleton.mpr hround⟩, .inl hclosed⟩
  again rounds r w hw :=
    ⟨fun r hr => hw.1 r (List.mem_append_left _ hr),
      .inl (hw.2.resolve_right fun ⟨hnil, _⟩ =>
        List.append_ne_nil_of_right_ne_nil rounds (List.cons_ne_nil r []) hnil)⟩
  error _ w hw := h.error w (hw.2.elim (h.again w) And.right)

/-- Rounds have been recorded, or none were asked for and nothing has happened. -/
theorem recordRounds (h : Passing i block I J E R) (hw : I w) : (recordRounds i block phase).Ensures w
    (fun rounds w' => (∀ r ∈ rounds, R r) ∧ (J w' ∨ rounds = [] ∧ w' = w)) fun _ => E :=
  (h.gathering.recordRounds ⟨List.forall_mem_nil _, .inr ⟨rfl, hw⟩⟩).mono
    (fun _ _ ⟨hall, hend⟩ => ⟨hall.1, hall.2.imp_right fun hnil => ⟨hnil.1, hend hnil.1⟩⟩) fun _ _ h => h

/-- Only a block that verifies may be recorded in no rounds at all. -/
theorem recordBlock (h : Passing i block I J E R) (hw : I w) : (recordBlock i block phase).Ensures w
    (fun res w' => (J w' ∨ phase = .verifying ∧ w' = w) ∧
      ∃ rounds, (∀ r ∈ rounds, R r) ∧ Resolution.ofRounds rounds phase = .ok res) fun _ => E :=
  (h.gathering.recordBlock ⟨List.forall_mem_nil _, .inr ⟨rfl, hw⟩⟩).mono
    (fun _ _ ⟨rounds, hall, hend, hres⟩ =>
      ⟨hall.2.imp_right fun hnil => hend hnil.1, rounds, hall.1, hres⟩) fun _ _ h => h

end Passing

end Act

end TestDouble
