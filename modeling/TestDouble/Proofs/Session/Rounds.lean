import TestDouble.Proofs.Recording.Recorded
import TestDouble.Proofs.Session.Passes
import TestDouble.Session.Statement

/-!
# Recording rounds

What registering and calling do while a round is recorded. A block that completes every pass is run for as many
rounds as its first one asks for, and each of them is as one pass makes it.
-/

namespace TestDouble

/-- Identities and sequence numbers may have been taken. -/
def Store.Spent (s s' : Store) : Prop := ∃ n k, s.nextObject ≤ n ∧ s' = { s with nextObject := n, nextSequence := k }

namespace Store.Spent

theorem refl (s : Store) : s.Spent s := ⟨s.nextObject, s.nextSequence, Nat.le_refl _, rfl⟩

theorem trans {a b c : Store} (h : a.Spent b) (h' : b.Spent c) : a.Spent c := by
  obtain ⟨n, k, hn, rfl⟩ := h
  obtain ⟨n', k', hn', rfl⟩ := h'
  exact ⟨n', k', Nat.le_trans hn hn', rfl⟩

theorem registry {s s' : Store} (h : s.Spent s') : s'.registry = s.registry := by
  obtain ⟨n, k, -, rfl⟩ := h
  rfl

theorem le {s s' : Store} (h : s.Spent s') : s.nextObject ≤ s'.nextObject := by
  obtain ⟨n, k, hn, rfl⟩ := h
  exact hn

end Store.Spent

theorem OpenRound.Registers.spent {o : OpenRound} {g g' : Generator} {s s' : Store} {m : Matcher} {shape : Shape}
    {reg : RegisteredMatcher} (h : o.Registers g s m shape reg g' s') : s.Spent s' := by
  obtain ⟨n, hn, hs⟩ := h.store
  exact ⟨n, s.nextSequence, hn, hs⟩

theorem OpenRound.Captures.spent {o : OpenRound} {g g' : Generator} {s s' : Store} {target : ObjectRef}
    {method : Method} {args : List Value} {caller : Option Frame} {c : CapturedCall}
    (h : o.Captures g s target method args caller c g' s') : s.Spent s' := by
  obtain ⟨n, hn, hs⟩ := h.store
  exact ⟨n, s.nextSequence + 1, hn, hs⟩

namespace World

variable {σ : Type} {w : World σ} {i : Nat} {o o' : Option OpenRound} {g g' : Generator} {s : Store}

/-- The world while a block is recorded, in a round or between two rounds. -/
def inRound (w : World σ) (i : Nat) (o : Option OpenRound) (g : Generator) (s : Store) : World σ :=
  { w.modifySession i fun x => { x with notCalled := [], round := o, generator := g } with store := s }

theorem session_inRound (hi : i < w.sessions.length) : (w.inRound i o g s).session i =
    { w.session i with notCalled := [], round := o, generator := g } :=
  session_modifySession_self (w := { w with store := s }) hi

@[simp] theorem length_inRound : (w.inRound i o g s).sessions.length = w.sessions.length := by
  rw [inRound]
  exact length_modifySession

@[simp] theorem store_inRound : (w.inRound i o g s).store = s := rfl

theorem inRound_modifySession : (w.inRound i o g s).modifySession i
    (fun x => { x with round := o', generator := g' }) = w.inRound i o' g' s := by
  simp [inRound, modifySession, List.modify_modify_eq, Function.comp_def]

theorem inRound_close : (w.inRound i o g s).modifySession i (fun x => { x with round := none }) =
    w.inRound i none g s := by
  simp [inRound, modifySession, List.modify_modify_eq, Function.comp_def]

theorem inRound_inRound {s' : Store} : (w.inRound i o g s).inRound i o' g' s' = w.inRound i o' g' s' := by
  simp [inRound, modifySession, List.modify_modify_eq, Function.comp_def]

theorem inRound_self (hr : (w.session i).round = none) (hn : (w.session i).notCalled = []) :
    w.inRound i none (w.session i).generator w.store = w := by
  refine modifySession_self (w := w) (f := fun x => { x with
    notCalled := [], round := none, generator := (w.session i).generator }) ?_
  simp only [← hr, ← hn]

end World

namespace Act

variable {σ : Type} {w : World σ} {i : Nat} {o : OpenRound} {g g' : Generator} {s s' : Store}

/-- A registration during a round, whatever else the session is doing. -/
theorem runOn_registerMatcher_of_round (hround : (w.session i).round = some o) {m : Matcher} {shape : Shape}
    {reg : RegisteredMatcher} (h : o.Registers (w.session i).generator w.store m shape reg g' s') :
    (registerMatcher i m shape).runOn w = (.ok reg.signature, ({ w with store := s' } : World σ).modifySession i
      fun x => { x with
        round := some { o with round := { o.round with matchers := o.round.matchers ++ [reg] } }
        generator := g' }) := by
  rw [registerMatcher, runOn_bind_ok (runOn_session i _), hround]
  dsimp only
  rw [runOn_bind_ok (runOn_get _), h.result, runOn_bind_ok (runOn_modifyStore _ _),
    runOn_bind_ok (runOn_modifySession _ _ _), runOn_pure]

theorem runOn_registerMatcher (hi : i < w.sessions.length) {m : Matcher} {shape : Shape} {reg : RegisteredMatcher}
    (h : o.Registers g s m shape reg g' s') : (registerMatcher i m shape).runOn (w.inRound i (some o) g s) =
      (.ok reg.signature, w.inRound i
        (some { o with round := { o.round with matchers := o.round.matchers ++ [reg] } }) g' s') := by
  have hs : (w.inRound i (some o) g s).session i = _ := World.session_inRound hi
  have hround : ((w.inRound i (some o) g s).session i).round = some o := by rw [hs]
  rw [runOn_registerMatcher_of_round hround (by rw [hs]; exact h)]
  exact congrArg (Prod.mk _) (World.inRound_modifySession (w := w) (s := s'))

/-- A call during a round is captured, whatever could answer it. -/
theorem runOn_intercept (hi : i < w.sessions.length) {target : ObjectRef} {method : Method} {args : List Value}
    {c : CapturedCall} (underlying : Option (Underlying σ))
    (h : o.Captures g s target method args (w.session i).frames.head? c g' s') :
    (intercept i target method args underlying).runOn (w.inRound i (some o) g s) =
      (.ok c.returned, w.inRound i
        (some { o with round := { o.round with calls := o.round.calls ++ [c] } }) g' s') := by
  have hs : (w.inRound i (some o) g s).session i = _ := World.session_inRound hi
  have hwith : ∀ caller, (interceptWith caller i target method args underlying).runOn (w.inRound i (some o) g s) =
      (.ok c.returned, w.inRound i
        (some { o with round := { o.round with calls := o.round.calls ++ [c] } }) g' s') := by
    intro caller
    rw [interceptWith, runOn_bind_ok (runOn_session i _), hs]
    dsimp only
    rw [runOn_bind_ok (runOn_get _), World.store_inRound, h.result, runOn_bind_ok (runOn_modifyStore _ _),
      runOn_bind_ok (runOn_modifySession _ _ _), runOn_pure]
    exact congrArg (Prod.mk _) (World.inRound_modifySession (w := w) (s := s'))
  rw [intercept, runOn_bind_ok (runOn_get _)]
  cases (w.inRound i (some o) g s).depth with
  | zero => exact hwith _
  | succ n => exact hwith _

theorem startRound_eq_inRound (w : World σ) (i index : Nat) (hints : Hints) : w.startRound i index hints =
    w.inRound i (some (.start index hints)) ((w.session i).generator.startRound index) w.store :=
  congrArg (World.mk w.settings w.store · w.entropy w.depth w.memory) (World.sessions_modify_congr rfl)

/-- What becomes of a round, after a pass that leaves it open, is what the review of the pass says. -/
theorem runOn_recordRound {block : Act σ Failure Unit} {v : World σ} {index : Nat} {hinting : Hinting}
    {outcome : Except Failure Unit}
    (hrun : block.runOn (w.inRound i (some (.start index hinting.hints)) ((w.session i).generator.startRound index)
      w.store) = (outcome, v.inRound i (some o) g s)) (hi : i < v.sessions.length) (phase : Phase) (n : Nat) :
    (recordRound i block phase index (n + 1) hinting).runOn w =
      match hinting.review outcome o.round with
      | (.ok .complete, hinting) => (.ok (o.round, hinting), v.inRound i none g s)
      | (.ok .retry, hinting) => (recordRound i block phase index n hinting).runOn (v.inRound i none g s)
      | (.error e, _) => (.error e, v.inRound i none g s) := by
  rw [← startRound_eq_inRound] at hrun
  have hsucc := runOn_recordRound_succ hrun phase n
  rw [World.session_inRound hi, World.takeRound, World.inRound_close] at hsucc
  exact hsucc

/-- So many passes may be made, and one more. -/
theorem exists_limit {n : Nat} (h : n < passLimit) : ∃ limit, passLimit = limit + 1 + n :=
  ⟨passLimit - 1 - n, by omega⟩

section Rounds

variable {block : Act σ Failure Unit} {phase : Phase} {w₁ w₂ : World σ}

theorem runOn_recordRounds_nil (h : w.settings.minRounds = 0) : (recordRounds i block phase).runOn w = (.ok [], w) := by
  rw [recordRounds, runOn_bind_ok (runOn_get _)]
  simp only [h, ↓reduceIte, runOn_pure]

/-- The first round decides how many there are. -/
theorem runOn_recordRounds_cons {first : Round} {rest : List Round} {hinting : Hinting}
    (h : w.settings.minRounds ≠ 0)
    (hfirst : (recordRound i block phase 0 passLimit {}).runOn w = (.ok (first, hinting), w₁))
    (hrest : (recordMore i block phase (min (max w.settings.minRounds first.distinctCallCount) w.settings.maxRounds - 1)
      1 hinting).runOn w₁ = (.ok rest, w₂)) :
    (recordRounds i block phase).runOn w = (.ok (first :: rest), w₂) := by
  rw [recordRounds, runOn_bind_ok (runOn_get _)]
  simp only [h, ↓reduceIte]
  rw [runOn_bind_ok hfirst]
  dsimp only
  rw [runOn_bind_ok hrest, runOn_pure]

theorem runOn_recordRounds_error {e : MockError} (h : w.settings.minRounds ≠ 0)
    (hfirst : (recordRound i block phase 0 passLimit {}).runOn w = (.error e, w₁)) :
    (recordRounds i block phase).runOn w = (.error e, w₁) := by
  rw [recordRounds, runOn_bind_ok (runOn_get _)]
  simp only [h, ↓reduceIte]
  rw [runOn_bind_error hfirst]

end Rounds

/-! ## Blocks that complete every pass -/

/-- With every number a pass of the block makes a round as `P` says, and the store stays as `Q` says. -/
def Completes (w : World σ) (i : Nat) (block : Act σ Failure Unit) (P : Nat → Round → Prop) (Q : Store → Prop) : Prop :=
  ∀ g s, Q s → ∃ r g' s', block.runOn (w.inRound i (some (.start g.round [])) g s) =
    (.ok (), w.inRound i (some ⟨r, []⟩) g' s') ∧ P g.round r ∧ Q s'

namespace Completes

variable {block : Act σ Failure Unit} {P : Nat → Round → Prop} {Q : Store → Prop}

theorem recordRound (h : Completes w i block P Q) (hi : i < w.sessions.length) (phase : Phase) (index n : Nat)
    {hinting : Hinting} (hh : hinting.hints = []) (g : Generator) {s : Store} (hs : Q s) : ∃ r hinting' g' s',
      (Act.recordRound i block phase index (n + 1) hinting).runOn (w.inRound i none g s) =
        (.ok (r, hinting'), w.inRound i none g' s') ∧ hinting'.hints = [] ∧ P index r ∧ Q s' := by
  obtain ⟨r, g', s', hrun, hr, hs'⟩ := h (g.startRound index) s hs
  have hpass : block.runOn ((w.inRound i none g s).inRound i (some (.start index hinting.hints))
      (((w.inRound i none g s).session i).generator.startRound index) (w.inRound i none g s).store) =
        (.ok (), w.inRound i (some ⟨r, []⟩) g' s') := by
    rw [World.session_inRound hi, World.inRound_inRound, hh]
    exact hrun
  exact ⟨r, _, g', s', runOn_recordRound hpass hi phase n, hh, hr, hs'⟩

theorem recordMore (h : Completes w i block P Q) (hi : i < w.sessions.length) (phase : Phase) (n index : Nat)
    {hinting : Hinting} (hh : hinting.hints = []) (g : Generator) {s : Store} (hs : Q s) : ∃ rounds g' s',
      (Act.recordMore i block phase n index hinting).runOn (w.inRound i none g s) =
        (.ok rounds, w.inRound i none g' s') ∧ rounds.length = n ∧
      (∀ k r, rounds[k]? = some r → P (index + k) r) ∧ Q s' := by
  obtain ⟨limit, hlimit⟩ := exists_limit (n := 0) (by decide)
  induction n generalizing index hinting g s with
  | zero => exact ⟨[], g, s, rfl, rfl, by simp, hs⟩
  | succ n ih =>
      have hstart : hinting.startRound.hints = [] := hh
      obtain ⟨r, hinting', g₁, s₁, hrun, hh', hr, hs₁⟩ := h.recordRound hi phase index limit hstart g hs
      obtain ⟨rounds, g', s', hruns, hlen, hall, hs'⟩ := ih (index + 1) hh' g₁ hs₁
      refine ⟨r :: rounds, g', s', ?_, by rw [List.length_cons, hlen], fun k r' hr' => ?_, hs'⟩
      · rw [Act.recordMore, hlimit, runOn_bind_ok hrun]
        dsimp only
        rw [runOn_bind_ok hruns, runOn_pure]
      · cases k with
        | zero => cases hr'; exact hr
        | succ k => rw [← Nat.add_assoc, Nat.add_right_comm]; exact hall k r' hr'

theorem recordRounds (h : Completes w i block P Q) (hi : i < w.sessions.length) (phase : Phase)
    (hmin : w.settings.minRounds ≠ 0) (g : Generator) {s : Store} (hs : Q s) : ∃ first rest g' s',
      (Act.recordRounds i block phase).runOn (w.inRound i none g s) =
        (.ok (first :: rest), w.inRound i none g' s') ∧
      rest.length = min (max w.settings.minRounds first.distinctCallCount) w.settings.maxRounds - 1 ∧
      (∀ k r, (first :: rest)[k]? = some r → P k r) ∧ Q s' := by
  obtain ⟨limit, hlimit⟩ := exists_limit (n := 0) (by decide)
  have hnone : ({} : Hinting).hints = [] := rfl
  obtain ⟨first, hinting, g₁, s₁, hrun, hh, hfirst, hs₁⟩ := h.recordRound hi phase 0 limit hnone g hs
  obtain ⟨rest, g', s', hruns, hlen, hall, hs'⟩ := h.recordMore hi phase
    (min (max w.settings.minRounds first.distinctCallCount) w.settings.maxRounds - 1) 1 hh g₁ hs₁
  refine ⟨first, rest, g', s', ?_, hlen, fun k r hr => ?_, hs'⟩
  · rw [← Nat.add_zero (limit + 1), ← hlimit] at hrun
    exact runOn_recordRounds_cons hmin hrun hruns
  · cases k with
    | zero => cases hr; exact hfirst
    | succ k => rw [Nat.add_comm]; exact hall k r hr

end Completes

end Act

end TestDouble
