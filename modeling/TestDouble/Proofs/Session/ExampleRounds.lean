import TestDouble.Proofs.Session.Example
import TestDouble.Proofs.Session.Rounds

/-!
# Recording a call by example

A block that makes one call by example is recorded without fail: every round it makes is one that was written,
and nothing but identities and sequence numbers is taken from the store.
-/

namespace TestDouble

namespace CallExample

variable {σ : Type} {w : World σ} {i : Nat}

/-- What passing the arguments does to a round. -/
structure Passing (w : World σ) (i : Nat) (as : List Argument) (o : OpenRound) (g : Generator) (s : Store)
    (vs : List Value) (regs : List RegisteredMatcher) (g' : Generator) (s' : Store) : Prop where
  runs : (Argument.passEach i as).runOn (w.inRound i (some o) g s) = (.ok vs, w.inRound i
    (some { o with round := { o.round with matchers := o.round.matchers ++ regs } }) g' s')
  passed : Argument.Passed g.round as vs regs
  round : g'.round = g.round
  spent : s.Spent s'
  recorded : OpenRound.Recorded o s.nextObject →
    OpenRound.Recorded { o with round := { o.round with matchers := o.round.matchers ++ regs } } s'.nextObject

theorem exists_passing (hi : i < w.sessions.length) (as : List Argument) (o : OpenRound) (hc : o.round.calls = [])
    (g : Generator) (s : Store) : ∃ vs regs g' s', Passing w i as o g s vs regs g' s' := by
  induction as generalizing o g s with
  | nil =>
      refine ⟨[], [], g, s, ?_, .nil, rfl, .refl s, ?_⟩
      · simp [Argument.passEach]
      · simp
  | cons a as ih =>
      cases a with
      | literal v =>
          obtain ⟨vs, regs, g', s', h⟩ := ih o hc g s
          refine ⟨v :: vs, regs, g', s', ?_, .literal v h.passed, h.round, h.spent, h.recorded⟩
          rw [Argument.passEach, Argument.pass, Act.runOn_bind_ok (Act.runOn_pure v _), Act.runOn_bind_ok h.runs,
            Act.runOn_pure]
      | matcher m shape =>
          obtain ⟨reg, g₁, s₁, hreg⟩ := o.exists_registers g s m shape
          obtain ⟨vs, regs, g', s', h⟩ := ih
            { o with round := { o.round with matchers := o.round.matchers ++ [reg] } } hc g₁ s₁
          have hstands : Argument.StandsFor g.round m shape reg :=
            ⟨hreg.matcher, by rw [hreg.pendingFor, hc]; rfl, hreg.distinguishable, hreg.self, hreg.flag⟩
          refine ⟨reg.signature :: vs, reg :: regs, g', s', ?_, .matcher hstands (hreg.round ▸ h.passed),
            h.round.trans hreg.round, hreg.spent.trans h.spent, fun ho => ?_⟩
          · have hruns := h.runs
            rw [Argument.passEach, Argument.pass, Act.runOn_bind_ok (Act.runOn_registerMatcher hi hreg),
              Act.runOn_bind_ok hruns, Act.runOn_pure]
            simp
          · have hrec := h.recorded
            have hstep := OpenRound.Recorded.register ho g m shape
            rw [hreg.result] at hstep
            simpa using hrec hstep

variable {e : CallExample}

/-- The block makes a round that was written. -/
theorem exists_block (hi : i < w.sessions.length) (e : CallExample) (index : Nat) (hints : Hints) (g : Generator)
    (s : Store) (hg : g.round = index) : ∃ r g' s',
      (e.block i).runOn (w.inRound i (some (.start index hints)) g s) =
        (.ok (), w.inRound i (some ⟨r, hints⟩) g' s') ∧ e.Written index r ∧ s.Spent s' := by
  obtain ⟨vs, regs, g₁, s₁, hpass⟩ := exists_passing (w := w) hi e.args (.start index hints) rfl g s
  let o : OpenRound := ⟨{ index, matchers := regs }, hints⟩
  obtain ⟨c, g', s', hcap⟩ := o.exists_captures g₁ s₁ e.target e.method vs (w.session i).frames.head?
  have hruns : (Argument.passEach i e.args).runOn (w.inRound i (some (.start index hints)) g s) =
      (.ok vs, w.inRound i (some o) g₁ s₁) := hpass.runs
  refine ⟨{ index, calls := [c], matchers := regs }, g', s', ?_, ⟨?_, c, rfl, hcap.target, hcap.method, ?_⟩, ?_⟩
  · rw [block, Act.runOn_adapt, Act.runOn_bind_ok hruns, Act.runOn_bind_ok (Act.runOn_intercept hi none hcap),
      Act.runOn_pure]
    rfl
  · have hopen : OpenRound.Recorded o s₁.nextObject := hpass.recorded (.start index hints _)
    have hrec := hopen.capture g₁ e.target e.method vs (w.session i).frames.head?
    rw [hcap.result] at hrec
    exact ⟨_, _, hrec, rfl⟩
  · rw [hcap.args, ← hg]
    exact hpass.passed
  · exact hpass.spent.trans hcap.spent

/-! ## Rounds -/

theorem completes (hi : i < w.sessions.length) (e : CallExample) (s : Store) :
    Act.Completes w i (e.block i) e.Written s.Spent := by
  intro g s₁ hs
  obtain ⟨r, g', s', hrun, hw, hs'⟩ := exists_block hi e g.round [] g s₁ rfl
  exact ⟨r, g', s', hrun, hw, hs.trans hs'⟩

/-- The block is run for the least number of rounds, as it makes one call. -/
theorem exists_recordRounds (hi : i < w.sessions.length) (e : CallExample) (phase : Phase)
    (hmin : 2 ≤ w.settings.minRounds) (hmax : w.settings.minRounds ≤ w.settings.maxRounds) (g : Generator)
    (s : Store) : ∃ rounds g' s', (Act.recordRounds i (e.block i) phase).runOn (w.inRound i none g s) =
        (.ok rounds, w.inRound i none g' s') ∧ 2 ≤ rounds.length ∧
      (∀ k r, rounds[k]? = some r → e.Written k r) ∧ s.Spent s' := by
  obtain ⟨first, rest, g', s', hrun, hlen, hall, hs'⟩ :=
    (completes hi e s).recordRounds hi phase (by omega) g (.refl s)
  refine ⟨first :: rest, g', s', hrun, ?_, hall, hs'⟩
  have hcount : first.distinctCallCount = 1 := by
    obtain ⟨-, c, hc, -⟩ := hall 0 first rfl
    simp [Round.distinctCallCount, Round.distinctBy, hc]
  rw [List.length_cons, hlen]
  omega

end CallExample

end TestDouble
