import TestDouble.Proofs.Recording.Recorded
import TestDouble.Proofs.Session.Pending
import TestDouble.Proofs.Session.PreservingPrograms

/-!
# The numbers of rounds

Whatever a program does inside a recorded block, the round that is in progress keeps its number, or it is gone: what
a nested statement records has been taken when the statement ends. So the rounds that are kept are numbered one after
the other, and there are as many as the first one asks for.
-/

namespace TestDouble

/-- The round of the session, if it has one, has this number. -/
def World.Numbers {σ : Type} (i k : Nat) (w : World σ) : Prop := ∀ o, (w.session i).round = some o → o.round.index = k

namespace World.Numbers

variable {σ : Type} {w : World σ} {i j k : Nat} {f : Session → Session}

theorem of_round_none (h : (w.session i).round = none) : w.Numbers i k := fun o ho => by
  rw [h] at ho
  cases ho

/-- Only what is done to the session itself counts. -/
theorem modifySession (h : w.Numbers i k)
    (hf : j = i → ∀ o, (f (w.session i)).round = some o → o.round.index = k) : (w.modifySession j f).Numbers i k := by
  intro o ho
  rw [session_modifySession] at ho
  split at ho
  case isTrue hj => exact hf hj.1 o ho
  case isFalse => exact h o ho

theorem keptByCalls : KeptByCalls (Numbers (σ := σ) i k) where
  store _ _ _ h := h
  frames _ _ _ h := h.modifySession fun _ => h
  capture w j o target method args ho h := by
    refine Numbers.modifySession (w := { w with store := _ }) h fun hj o' ho' => ?_
    obtain ⟨c, g, s, hcap⟩ :=
      o.exists_captures (w.session j).generator w.store target method args (w.session j).frames.head?
    rw [hcap.result] at ho'
    cases ho'
    exact h o (hj ▸ ho)

theorem keptByOperations (i j k : Nat) : KeptByOperations j (Numbers (σ := σ) i k) where
  store _ _ _ h := h
  session w f hf h := h.modifySession fun _ o ho => h o ((hf (w.session i)).round o ho)
  register w o m shape ho h := by
    refine Numbers.modifySession (w := { w with store := _ }) h fun hj o' ho' => ?_
    obtain ⟨reg, g, s, hreg⟩ := o.exists_registers (w.session j).generator w.store m shape
    rw [hreg.result] at ho'
    cases ho'
    exact h o (hj ▸ ho)

/-- A round of another session starts. -/
theorem keptByStarting (hij : i ≠ j) : KeptByStarting j (Numbers (σ := σ) i k) := fun _ _ _ h =>
  h.modifySession fun hj => absurd hj.symm hij

/-- A round is started with its number. -/
theorem start (w : World σ) (i index : Nat) (hints : Hints) : (w.startRound i index hints).Numbers i index := by
  intro o ho
  rw [startRound] at ho
  by_cases hi : i < w.sessions.length
  · rw [session_modifySession_self hi] at ho
    cases ho
    rfl
  · rw [session_of_le (by rw [length_modifySession]; omega), newSession_idle.round] at ho
    cases ho

/-- Taking the round leaves none. -/
theorem take (w : World σ) (i k : Nat) : (w.takeRound i).Numbers i k := by
  refine of_round_none ?_
  rw [takeRound]
  by_cases hi : i < w.sessions.length
  · rw [session_modifySession_self hi]
  · rw [session_of_le (by rw [length_modifySession]; omega), newSession_idle.round]

end World.Numbers

namespace Act

variable {σ : Type} {i k : Nat} {block : Act σ Failure Unit}

/-- Recording takes the rounds that it starts, whatever the block does. -/
theorem recordBlock_numbers (phase : Phase) : (recordBlock i block phase).Preserves (World.Numbers i k) := by
  have hpassing : Passing i block (World.Numbers i k) (World.Numbers i k) (World.Numbers i k) fun _ => True :=
    { pass := fun index hints w _ => pass_ensures (.of_world
        ⟨World.Numbers.of_round_none, fun _ _ => ⟨trivial, World.Numbers.take _ i k⟩⟩)
      again := fun _ h => h
      error := fun _ h => h }
  intro w hw
  refine (hpassing.recordBlock hw).mono (fun _ _ h => ?_) fun _ _ h => h
  rcases h.1 with h | ⟨-, rfl⟩
  · exact h
  · exact hw

/-- A nested recording leaves the number alone, in the session itself and in others. -/
theorem runRecordedBlock_numbers {j : Nat} (hb : block.Preserves (World.Numbers i k)) :
    (runRecordedBlock j block).Preserves (World.Numbers i k) := by
  have hsession := (World.Numbers.keptByOperations (σ := σ) i j k).session
  have hresolving : World.KeptByResolving j (World.Numbers (σ := σ) i k) := fun _ _ _ h => h.modifySession fun _ => h
  by_cases hij : i = j
  · subst hij
    exact runRecordedBlock_preserves_of_recordBlock hsession hresolving recordBlock_numbers
  · exact runRecordedBlock_preserves hsession hresolving (pass_preserves (World.Numbers.keptByStarting hij) hb)

end Act

theorem World.KeptByPrograms.numbers {μ : Type} (i : Nat) :
    KeptByPrograms (μ := μ) (fun _ _ => True) (Numbers i) where
  calls _ := Numbers.keptByCalls
  commands k j _ c := Act.command_preserves (Numbers.keptByOperations i j k) c
  statements j _ s _ hb k :=
    Act.statement_preserves (Numbers.keptByOperations i j k) (Act.runRecordedBlock_numbers (hb k)) s
  notes _ _ _ _ h := h
  memory _ _ _ h := h
  sessions k w h o ho := h o (by rwa [session_append_newSession] at ho)
  store _ _ _ _ h := h

/-- Whatever the code of a block does, the round in progress keeps its number, or is gone. -/
theorem Program.inBlock_numbers {μ : Type} (p : Program μ) (i j k : Nat) :
    (Act.inBlock j p.run).Preserves (World.Numbers i k) :=
  .inBlock (fun _ _ _ h => h) (p.run_preserves (World.KeptByPrograms.numbers i) p.uses_true k) j

/-! ## Rounds that are kept -/

namespace Act

variable {σ : Type} {i : Nat} {block : Act σ Failure Unit}

section

variable (hb : ∀ k, block.Preserves (World.Numbers i k))

include hb

theorem recordRound_numbers (phase : Phase) (index n : Nat) (hinting : Hinting) (w : World σ) :
    (recordRound i block phase index n hinting).Ensures w (fun r _ => r.1.index = index) fun _ _ => True := by
  have hpass (hints : Hints) (w : World σ) :
      (pass i index hints block).Ensures w (fun _ => World.Numbers i index) fun _ _ => True :=
    pass_ensures (hb index _ (.start w i index hints))
  exact recordRound_ensures (I := fun _ => True) (K := fun r _ => r.index = index)
    (fun hints w _ => (hpass hints w).mono (fun _ _ h => ⟨fun _ => trivial, h⟩) fun _ _ h => h)
    (fun _ _ _ => trivial) (fun _ h => h) n hinting w trivial

theorem recordMore_numbers (phase : Phase) : ∀ (n index : Nat) (hinting : Hinting) (w : World σ),
    (recordMore i block phase n index hinting).Ensures w
      (fun rounds _ => rounds.map (·.index) = List.range' index n) fun _ _ => True
  | 0, _, _, _ => .pure rfl
  | n + 1, index, hinting, w =>
      .bind ((recordRound_numbers hb phase index passLimit hinting.startRound w).mono (fun r w₁ h₁ =>
        .bind ((recordMore_numbers phase n (index + 1) r.2 w₁).mono (fun more _ h₂ =>
          .pure (by rw [List.map_cons, h₁, h₂, List.range'_succ])) fun _ _ h => h)) fun _ _ h => h)

/-- The rounds are numbered from 0 on, and the first decides how many there are. -/
theorem recordRounds_numbers (phase : Phase) {w : World σ} (hmin : w.settings.minRounds ≠ 0)
    (hmax : w.settings.maxRounds ≠ 0) : (recordRounds i block phase).Ensures w (fun rounds _ =>
      ∃ first, rounds.head? = some first ∧ rounds.map (·.index) =
        List.range (min (max w.settings.minRounds first.distinctCallCount) w.settings.maxRounds)) fun _ _ => True := by
  refine .bind (.get ?_)
  simp only [hmin, ↓reduceIte]
  refine .bind ((recordRound_numbers hb phase 0 passLimit {} w).mono (fun r w₁ h₁ => .bind ?_) fun _ _ h => h)
  refine (recordMore_numbers hb phase _ 1 r.2 w₁).mono (fun more _ h₂ => .pure ⟨r.1, rfl, ?_⟩) fun _ _ h => h
  obtain ⟨n, hn⟩ := Nat.exists_eq_succ_of_ne_zero
    (n := min (max w.settings.minRounds r.1.distinctCallCount) w.settings.maxRounds) (by omega)
  rw [List.map_cons, h₁, h₂, hn, List.range_eq_range', List.range'_succ]
  rfl

end

end Act

end TestDouble
