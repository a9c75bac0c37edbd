import TestDouble.Proofs.Session.PendingStatements
import TestDouble.Proofs.Session.PreservingStatements

/-!
# Sessions as programs observe them

A program may take a round away, but never brings one about; and unless it runs another block, no statement waits for
an answer afterwards that did not wait before. Each operation on a session is one step of this kind.
-/

namespace TestDouble

/-- What an operation without a block may do to the round of its session, and to the statement that waits. -/
structure Session.Follows (s s' : Session) : Prop where
  round : s'.round.isSome → s.round.isSome
  pending : s'.phase = .awaitingAnswer → s.phase = .awaitingAnswer ∧ s'.resolution = s.resolution

namespace Session.Follows

variable {s s' s'' : Session}

theorem refl : s.Follows s := ⟨id, fun h => ⟨h, rfl⟩⟩

theorem trans (h : s.Follows s') (h' : s'.Follows s'') : s.Follows s'' where
  round hr := h.round (h'.round hr)
  pending hp := by
    obtain ⟨hp', hres'⟩ := h'.pending hp
    obtain ⟨hp, hres⟩ := h.pending hp'
    exact ⟨hp, hres'.trans hres⟩

theorem of_idle (h : s'.Idle) : s.Follows s' where
  round hr := by rw [h.round] at hr; cases hr
  pending hp := by rw [h.phase] at hp; cases hp

end Session.Follows

/-- The session has lost its round, an operation on it has failed, or more than `n` of its blocks are running. -/
def Moment.Disturbs (m : Moment) (i n : Nat) : Prop :=
  (m.session i).round = none ∨ (∃ f, m.failed = some f ∧ f.session = i) ∨ n < m.running.count i

section

variable {μ : Type} {w w' w'' : World (Log μ)} {i j : Nat} {new new' : List Moment}

/-- Only the store and one session have changed, and that session in one step. -/
structure World.Steps (i : Nat) (w w' : World (Log μ)) : Prop where
  memory : w'.memory = w.memory
  others : ∀ j, i ≠ j → w'.session j = w.session j
  session : (w.session i).Follows (w'.session i)

/-- On the way from `w` to `w'` these moments have been noted, the latest first. -/
structure World.Notes (new : List Moment) (w w' : World (Log μ)) : Prop where
  running : w'.memory.running = w.memory.running
  moments : w'.memory.moments = new ++ w.memory.moments

/-- Code of a user has led from `w` to `w'`. -/
structure World.Observes (i : Nat) (new : List Moment) (w w' : World (Log μ)) : Prop extends World.Notes new w w' where
  round : (w'.session i).round.isSome →
    (w.session i).round.isSome ∧ ∀ m ∈ new, ¬m.Disturbs i (w.memory.running.count i)
  pending : (w'.session i).phase = .awaitingAnswer →
    ((w.session i).phase = .awaitingAnswer ∧ (w'.session i).resolution = (w.session i).resolution) ∨
    ∃ m ∈ new, w.memory.running.count i < m.running.count i

namespace World

namespace Steps

theorem refl (w : World (Log μ)) : w.Steps i w := ⟨rfl, fun _ _ => rfl, .refl⟩

theorem trans (h : w.Steps i w') (h' : w'.Steps i w'') : w.Steps i w'' where
  memory := h'.memory.trans h.memory
  others j hij := (h'.others j hij).trans (h.others j hij)
  session := h.session.trans h'.session

theorem store (h : w.Steps i w') (s : Store) : w.Steps i { w' with store := s } := ⟨h.memory, h.others, h.session⟩

theorem modifySession {f : Session → Session} (h : (w.session i).Follows (f (w.session i))) :
    w.Steps i (w.modifySession i f) where
  memory := rfl
  others _ hij := session_modifySession_ne hij
  session := by
    rw [session_modifySession]
    split
    · exact h
    · exact .refl

theorem cleared (w : World (Log μ)) : w.Steps i (w.modifySession i Session.cleared) :=
  modifySession (.of_idle Session.cleared_idle)

end Steps

namespace Notes

theorem of_memory (h : w'.memory = w.memory) : Notes [] w w' := ⟨by rw [h], by rw [h, List.nil_append]⟩

theorem trans (h : Notes new w w') (h' : Notes new' w' w'') : Notes (new' ++ new) w w'' where
  running := h'.running.trans h.running
  moments := by rw [h'.moments, h.moments, List.append_assoc]

end Notes

namespace Observes

theorem of_follows (hn : Notes [] w w') (h : (w.session i).Follows (w'.session i)) : w.Observes i [] w' where
  toNotes := hn
  round hr := ⟨h.round hr, fun _ hm => absurd hm List.not_mem_nil⟩
  pending hp := .inl (h.pending hp)

theorem refl (w : World (Log μ)) : w.Observes i [] w := of_follows (.of_memory rfl) .refl

theorem trans (h : w.Observes i new w') (h' : w'.Observes i new' w'') : w.Observes i (new' ++ new) w'' where
  toNotes := h.toNotes.trans h'.toNotes
  round hr := by
    obtain ⟨hr', hnew'⟩ := h'.round hr
    obtain ⟨hr, hnew⟩ := h.round hr'
    rw [h.running] at hnew'
    exact ⟨hr, fun m hm => (List.mem_append.mp hm).elim (hnew' m) (hnew m)⟩
  pending hp := by
    rcases h'.pending hp with ⟨hp', hres'⟩ | ⟨m, hm, hcount⟩
    · refine (h.pending hp').imp (fun ⟨hp, hres⟩ => ⟨hp, hres'.trans hres⟩) fun ⟨m, hm, hcount⟩ => ?_
      exact ⟨m, List.mem_append_right _ hm, hcount⟩
    · exact .inr ⟨m, List.mem_append_left _ hm, h.running ▸ hcount⟩

/-- A step of any session is one that its own code and the code of other sessions may find. -/
theorem of_steps (h : w.Steps j w') : w.Observes i [] w' := by
  refine of_follows (.of_memory h.memory) ?_
  by_cases hij : j = i
  · exact hij ▸ h.session
  · rw [h.others i hij]; exact .refl

/-- A moment after an operation that has failed has to find nothing in progress. -/
theorem note (w : World (Log μ)) {failed : Option Failed}
    (h : ∀ f, failed = some f → f.session = i → (w.session i).round = none) :
    w.Observes i [⟨w.memory.running, w.session, failed⟩] { w with memory := { w.memory with
      moments := ⟨w.memory.running, w.session, failed⟩ :: w.memory.moments } } where
  running := rfl
  moments := rfl
  round hr := by
    refine ⟨hr, fun m hm => ?_⟩
    have hsome : (w.session i).round ≠ none := fun hnone => by
      change (w.session i).round.isSome at hr
      rw [hnone] at hr
      cases hr
    cases List.mem_singleton.mp hm
    rintro (hnone | ⟨f, hf, hsession⟩ | hcount)
    · exact hsome hnone
    · exact hsome (h f hf hsession)
    · exact Nat.lt_irrefl _ hcount
  pending hp := .inl ⟨hp, rfl⟩

end Observes

end World

end

end TestDouble
