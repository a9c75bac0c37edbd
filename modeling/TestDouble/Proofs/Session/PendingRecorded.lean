import TestDouble.Proofs.Session.Passes
import TestDouble.Proofs.Session.Pending

/-!
# Recorded blocks and what is pending

However a block uses its own session: the round that was started for it is gone when the block has been
recorded, and the statement is still the same, or else recording has failed.
-/

namespace TestDouble

namespace World

variable {μ : Type} {w w₁ w₂ : World (Log μ)} {i : Nat} {phase : Phase}

/-- A round has been started for the statement of the session. -/
structure Started (i : Nat) (w w₁ : World (Log μ)) : Prop where
  sound : w₁.Sound
  memory : w₁.memory = w.memory
  others : ∀ j, i ≠ j → w₁.session j = w.session j
  phase : (w₁.session i).phase = (w.session i).phase
  request : (w₁.session i).request = (w.session i).request

namespace Started

theorem within (h : w.Started i w₁) (hw : w.Within w.memory.running) : w₁.Within (i :: w₁.memory.running) := by
  intro j hj
  rw [h.memory]
  by_cases hij : i = j
  · exact List.mem_cons.mpr (.inl hij.symm)
  · exact List.mem_cons_of_mem _ (hw j (h.others j hij ▸ hj))

/-- Once the round is gone, nothing is left of having started it. -/
theorem next (h : w.Started i w₁) (hn : w₁.Next w₂) (hr : (w₂.session i).round = none) : w.Next w₂ where
  sound := hn.sound
  running := by rw [hn.running, h.memory]
  rounds j hj := by
    by_cases hij : i = j
    · subst hij; rw [hr] at hj; cases hj
    · rw [← h.others j hij]; exact hn.rounds j hj

end Started

/-- The session is still in the same statement, with no round in progress. -/
structure Records (i : Nat) (w w₁ : World (Log μ)) : Prop where
  next : w.Next w₁
  round : (w₁.session i).round = none
  phase : (w₁.session i).phase = (w.session i).phase
  request : (w₁.session i).request = (w.session i).request

theorem Records.trans (h : w.Records i w₁) (h' : w₁.Records i w₂) : w.Records i w₂ :=
  ⟨h.next.trans h'.next, h'.round, h'.phase.trans h.phase, h'.request.trans h.request⟩

/-- The block ran to its end in the round that was started for it. -/
theorem Started.records (h : w.Started i w₁) (hn : w₁.Next w₂) (hr : (w₂.session i).round.isSome) :
    w.Records i (w₂.modifySession i fun s => { s with round := none }) := by
  obtain ⟨-, hp, hq⟩ := hn.rounds i hr
  have hs : ((w₂.modifySession i fun s => { s with round := none }).session i) =
      { w₂.session i with round := none } := session_modifySession_self (lt_of_round hr)
  have hround : ((w₂.modifySession i fun s => { s with round := none }).session i).round = none := by rw [hs]
  refine ⟨h.next (hn.trans (.modifySession hn.sound (.of_round_none ?_ rfl))) hround, hround, ?_, ?_⟩
  · exact Session.Consistent.dropRound
  · rw [hs]; exact hp.trans h.phase
  · rw [hs]; exact hq.trans h.request

end World

namespace Act

variable {μ : Type} {block : Act (Log μ) Failure Unit} {phase : Phase} {i : Nat} {w : World (Log μ)}

theorem started (hw : w.Sound) (hp : phase = .stubbing ∨ phase = .verifying) (h : (w.session i).phase = phase)
    (index : Nat) (hints : Hints) : w.Started i (w.startRound i index hints) := by
  rw [World.startRound]
  refine ⟨⟨fun j => ?_, hw.moments⟩, rfl, fun j => World.session_modifySession_ne, ?_, ?_⟩
  all_goals rw [World.session_modifySession]; split
  case refine_1.isTrue hij =>
      exact (hw.consistent j).startRound (by rw [← hij.1, h]; exact hp)
  case refine_1.isFalse => exact hw.consistent j
  all_goals rfl

/-- Whatever the block does in a pass, its statement is the same afterwards, or the pass has failed. -/
theorem Blocks.passing (hb : block.Blocks i) (hp : phase = .stubbing ∨ phase = .verifying) (hw : w.Sound)
    (hr : w.Within w.memory.running) (h : (w.session i).phase = phase) :
    Passing i block (fun w' => w' = w ∨ w.Records i w') (w.Records i) w.Next fun _ => True where
  pass index hints w₁ hw₁ := by
    have hnext : w.Next w₁ := by
      rcases hw₁ with rfl | hrec
      · exact .refl hw
      · exact hrec.next
    have hphase : (w₁.session i).phase = phase := by
      rcases hw₁ with rfl | hrec
      · exact h
      · exact hrec.phase.trans h
    have hstart := started hnext.sound hp hphase index hints
    refine pass_ensures ((hb _ hstart.sound (hstart.within (hnext.within_running hr))).mono
      (fun _ w₂ hn => ?_) fun _ w₂ hn => ?_)
    all_goals
      refine ⟨fun hround => hnext.trans (hstart.next hn hround), fun o hround => ⟨trivial, ?_⟩⟩
      have hrecords := hstart.records hn (by rw [hround]; rfl)
      rcases hw₁ with rfl | hrec
      · exact hrecords
      · exact hrec.trans hrecords
  again _ h := .inr h
  error := by
    rintro w₁ (rfl | hrec)
    · exact .refl hw
    · exact hrec.next

/-- Nothing has been recorded in no rounds; only a block that verifies may do with that. -/
theorem recordBlock_records (hb : block.Blocks i) (hp : phase = .stubbing ∨ phase = .verifying)
    (hw : w.Sound) (hr : w.Within w.memory.running) (h : (w.session i).phase = phase) :
    (recordBlock i block phase).Ensures w (fun _ w₁ => w.Records i w₁ ∨ phase = .verifying ∧ w₁ = w)
      fun _ => w.Next :=
  ((hb.passing hp hw hr h).recordBlock (.inl rfl)).mono (fun _ _ h => h.1) fun _ _ h => h

end Act

end TestDouble
