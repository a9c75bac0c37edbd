import TestDouble.Proofs.Session.Ensures
import TestDouble.Proofs.Session.Program

/-!
# What is pending after an operation

Every operation leads from consistent sessions to consistent sessions. A round that is still there afterwards
was there before, in the same statement; an operation that fails leaves nothing pending.
-/

namespace TestDouble

namespace Session

variable {s s' : Session}

theorem Idle.consistent (h : s.Idle) : s.Consistent := by
  rw [Consistent, h.phase]
  exact ⟨h.request, h.resolution, h.notCalled, h.round⟩

theorem Consistent.idle (h : s.Consistent) (hp : s.phase = .answering) : s.Idle := by
  rw [Consistent, hp] at h
  exact ⟨hp, h.1, h.2.1, h.2.2.1, h.2.2.2⟩

theorem Consistent.dropRound (h : s.Consistent) : Consistent { s with round := none } := by
  unfold Consistent at h ⊢
  cases hp : s.phase with
  | answering => rw [hp] at h; exact ⟨h.1, h.2.1, h.2.2.1, rfl⟩
  | stubbing => rw [hp] at h; exact h
  | awaitingAnswer => rw [hp] at h; exact ⟨h.1, h.2.1, h.2.2.1, rfl⟩
  | verifying => rw [hp] at h; exact h

theorem Consistent.startRound (h : s.Consistent) (hp : s.phase = .stubbing ∨ s.phase = .verifying)
    {round : Option OpenRound} {generator : Generator} :
    Consistent { s with generator, notCalled := [], round } := by
  unfold Consistent at h ⊢
  rcases hp with hp | hp <;> rw [hp] at h ⊢
  · exact ⟨h.1, h.2.1, rfl⟩
  · exact h

theorem cleared_idle : s.cleared.Idle := ⟨rfl, rfl, rfl, rfl, rfl⟩

/-- What one step may do to a session. -/
structure Passes (s s' : Session) : Prop where
  consistent : s.Consistent → s'.Consistent
  round : s'.round.isSome → s.round.isSome ∧ s'.phase = s.phase ∧ s'.request = s.request

namespace Passes

theorem refl : s.Passes s := ⟨id, fun h => ⟨h, rfl, rfl⟩⟩

theorem cleared : s.Passes s.cleared := ⟨fun _ => cleared_idle.consistent, nofun⟩

/-- The round in progress goes on. -/
theorem record (hr : s.round.isSome) (round : OpenRound) (generator : Generator) :
    s.Passes { s with round := some round, generator } where
  consistent hs := by
    unfold Consistent at hs ⊢
    cases hp : s.phase with
    | answering => rw [hp] at hs; rw [hs.2.2.2] at hr; cases hr
    | stubbing => rw [hp] at hs; exact hs
    | awaitingAnswer => rw [hp] at hs; rw [hs.2.2.2] at hr; cases hr
    | verifying => rw [hp] at hs; exact hs
  round _ := ⟨hr, rfl, rfl⟩

/-- A step that ends without a round only has to stay consistent. -/
theorem of_round_none (hs : s.Consistent → s'.Consistent) (hr : s'.round = none) : s.Passes s' :=
  ⟨hs, fun h => by rw [hr] at h; cases h⟩

end Passes

end Session

namespace World

variable {σ : Type} {w : World σ} {i j : Nat}

theorem session_of_le (h : w.sessions.length ≤ i) : w.session i = w.newSession i := by
  rw [session, List.getD_eq_getElem?_getD, List.getElem?_eq_none h, Option.getD_none]

theorem newSession_idle : (w.newSession i).Idle := ⟨rfl, rfl, rfl, rfl, rfl⟩

/-- What holds of all sessions and of new ones holds wherever one looks. -/
theorem session_forall {P : Session → Prop} (hw : ∀ s ∈ w.sessions, P s) (hnew : ∀ i, P (w.newSession i)) (i : Nat) :
    P (w.session i) := by
  by_cases hi : i < w.sessions.length
  · rw [session, List.getD_eq_getElem?_getD, List.getElem?_eq_getElem hi]
    exact hw _ (List.getElem_mem hi)
  · rw [session_of_le (by omega)]; exact hnew i

theorem session_idle (hw : ∀ s ∈ w.sessions, s.Idle) (i : Nat) : (w.session i).Idle :=
  session_forall hw (fun _ => newSession_idle) i

theorem lt_of_round (h : (w.session i).round.isSome) : i < w.sessions.length := by
  refine Nat.lt_of_not_le fun hi => ?_
  rw [session_of_le hi, newSession_idle.round] at h
  cases h

theorem idle_modifySession_cleared : ((w.modifySession i Session.cleared).session i).Idle := by
  by_cases hi : i < w.sessions.length
  · rw [session_modifySession_self hi]; exact Session.cleared_idle
  · rw [session_of_le (by rw [length_modifySession]; omega)]; exact newSession_idle

theorem session_append_newSession :
    ({ w with sessions := w.sessions ++ [w.newSession w.sessions.length] } : World σ).session j = w.session j := by
  rw [session, session, List.getD_eq_getElem?_getD, List.getD_eq_getElem?_getD]
  change ((w.sessions ++ [w.newSession w.sessions.length])[j]?).getD (w.newSession j) = _
  by_cases hj : j < w.sessions.length
  · rw [List.getElem?_append_left hj]
  · rw [List.getElem?_append_right (by omega), List.getElem?_eq_none (l := w.sessions) (by omega)]
    cases hk : j - w.sessions.length with
    | zero => rw [show j = w.sessions.length by omega]; rfl
    | succ k => rfl

end World

/-! ## Steps of the world -/

section

variable {μ : Type} {w w' w'' : World (Log μ)} {blocks : List Nat} {i j : Nat}

structure World.Sound (w : World (Log μ)) : Prop where
  consistent : ∀ j, (w.session j).Consistent
  moments : ∀ m ∈ w.memory.moments, m.Sound

/-- Rounds are in progress for these blocks only. -/
def World.Within (blocks : List Nat) (w : World (Log μ)) : Prop := ∀ j, (w.session j).round.isSome → j ∈ blocks

/-- What the world may come to: a round that is left was there before. -/
structure World.Next (w w' : World (Log μ)) : Prop where
  sound : w'.Sound
  running : w'.memory.running = w.memory.running
  rounds : ∀ j, (w'.session j).round.isSome → (w.session j).round.isSome ∧
    (w'.session j).phase = (w.session j).phase ∧ (w'.session j).request = (w.session j).request

namespace World

namespace Next

theorem refl (h : w.Sound) : w.Next w := ⟨h, rfl, fun _ h => ⟨h, rfl, rfl⟩⟩

theorem trans (h : w.Next w') (h' : w'.Next w'') : w.Next w'' where
  sound := h'.sound
  running := h'.running.trans h.running
  rounds j hr := by
    obtain ⟨hr', hp', hq'⟩ := h'.rounds j hr
    obtain ⟨hr, hp, hq⟩ := h.rounds j hr'
    exact ⟨hr, hp'.trans hp, hq'.trans hq⟩

theorem within (h : w.Next w') (hw : w.Within blocks) : w'.Within blocks := fun j hr => hw j (h.rounds j hr).1

theorem within_running (h : w.Next w') (hw : w.Within w.memory.running) : w'.Within w'.memory.running := by
  rw [h.running]; exact h.within hw

theorem of_sessions (hw : w.Sound) (hm : w'.memory = w.memory)
    (h : ∀ j, (w.session j).Passes (w'.session j)) : w.Next w' where
  sound := ⟨fun j => (h j).consistent (hw.consistent j), by rw [hm]; exact hw.moments⟩
  running := by rw [hm]
  rounds j := (h j).round

theorem modifySession (hw : w.Sound) {f : Session → Session} (h : (w.session i).Passes (f (w.session i))) :
    w.Next (w.modifySession i f) := by
  refine .of_sessions hw rfl fun j => ?_
  rw [session_modifySession]
  split
  case isTrue hij => rw [← hij.1]; exact h
  case isFalse => exact .refl

theorem record (hw : w.Sound) (hr : (w.session i).round.isSome) {round : OpenRound} {generator : Generator} :
    w.Next (w.modifySession i fun s => { s with round := some round, generator }) :=
  modifySession hw (.record hr round generator)

theorem store (hw : w.Sound) (s : Store) : w.Next { w with store := s } := .of_sessions hw rfl fun _ => .refl

end Next

/-- The session is left with nothing pending. -/
def Clears (i : Nat) (w w' : World (Log μ)) : Prop := w.Next w' ∧ (w'.session i).Idle

namespace Clears

theorem trans (h : w.Next w') (h' : w'.Clears i w'') : w.Clears i w'' := ⟨h.trans h'.1, h'.2⟩

theorem cleared (h : w.Next w') : w.Clears i (w'.modifySession i Session.cleared) :=
  ⟨h.trans (.modifySession h.sound .cleared), idle_modifySession_cleared⟩

theorem store (h : w.Clears i w') (s : Store) : w.Clears i { w' with store := s } :=
  ⟨h.1.trans (.store h.1.sound s), h.2⟩

end Clears

end World

end

/-! ## Steps of a computation -/

namespace Act

variable {μ ε ε' α β : Type} {i : Nat} {x : Act (Log μ) ε α}

/-- Code that may run where only running blocks have rounds. -/
def Keeps (x : Act (Log μ) ε α) : Prop :=
  ∀ w, w.Sound → w.Within w.memory.running → x.Ensures w (fun _ => w.Next) fun _ => w.Next

/-- An operation that leaves nothing pending when it fails. -/
def Drops (i : Nat) (x : Act (Log μ) ε α) : Prop :=
  ∀ w, w.Sound → w.Within w.memory.running → x.Ensures w (fun _ => w.Next) fun _ => w.Clears i

/-- Code that may run as a block of the session. -/
def Blocks (i : Nat) (x : Act (Log μ) ε α) : Prop :=
  ∀ w, w.Sound → w.Within (i :: w.memory.running) → x.Ensures w (fun _ => w.Next) fun _ => w.Next

namespace Keeps

theorem pure (a : α) : (Pure.pure a : Act (Log μ) ε α).Keeps := fun _ hw _ => .pure (.refl hw)

theorem ofExcept (r : Except ε α) : (Act.ofExcept r : Act (Log μ) ε α).Keeps := fun _ hw _ =>
  .ofExcept (fun _ _ => .refl hw) fun _ _ => .refl hw

theorem bind {f : α → Act (Log μ) ε β} (hx : x.Keeps) (hf : ∀ a, (f a).Keeps) : (x >>= f).Keeps := by
  intro w hw hr
  refine .bind ((hx w hw hr).mono (fun a w' hn => ?_) fun _ _ hn => hn)
  exact (hf a w' hn.sound (hn.within_running hr)).mono (fun _ _ => hn.trans) fun _ _ => hn.trans

theorem attempt (hx : x.Keeps) : (Act.attempt x : Act (Log μ) ε' (Except ε α)).Keeps := fun w hw hr =>
  .attempt (hx w hw hr)

theorem get : (MonadState.get : Act (Log μ) ε (World (Log μ))).Keeps := fun _ hw _ => .get (.refl hw)

theorem of_storeOnly (hx : x.StoreOnly fun _ => True) : x.Keeps := fun _ hw _ =>
  (hx.ensures (.store hw)).mono (fun _ _ h => h) fun _ _ h => h.2

end Keeps

namespace Drops

theorem pure (a : α) : (Pure.pure a : Act (Log μ) ε α).Drops i := fun _ hw _ => .pure (.refl hw)

theorem bind {f : α → Act (Log μ) ε β} (hx : x.Drops i) (hf : ∀ a, (f a).Drops i) : (x >>= f).Drops i := by
  intro w hw hr
  refine .bind ((hx w hw hr).mono (fun a w' hn => ?_) fun _ _ hn => hn)
  exact (hf a w' hn.sound (hn.within_running hr)).mono (fun _ _ => hn.trans) fun _ _ => .trans hn

end Drops

end Act

end TestDouble
