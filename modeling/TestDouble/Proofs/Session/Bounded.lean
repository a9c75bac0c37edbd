import TestDouble.Proofs.Session.Numbering

/-!
# How often a block is run

A round may take one pass more than a pass of it makes different calls, and there are no more rounds than the settings
allow. So there is a bound on how often a block is run, however it changes from pass to pass. What a block does is
journaled to tell: a journal stands beside the memory, out of reach of the block, and leaves everything else alone.
-/

namespace TestDouble

/-! ## Settings -/

/-- The settings that a user may have: the defaults, those of the environment, and changes to these. -/
inductive Settings.Configured : Settings → Prop
  | default : Configured {}
  | ofEnvironment (seed rounds : Option String) : Configured (.ofEnvironment seed rounds)
  | withMinRounds {s : Settings} (h : Configured s) (n : Nat) : Configured (s.withMinRounds n)
  | withMaxRounds {s : Settings} (h : Configured s) (n : Nat) : Configured (s.withMaxRounds n)
  | withSeed {s : Settings} (h : Configured s) (n : Nat) : Configured (s.withSeed n)
  | withPollInterval {s : Settings} (h : Configured s) (d : Duration) : Configured (s.withPollInterval d)
  | withLogSelfCalls {s : Settings} (h : Configured s) (b : Bool) : Configured (s.withLogSelfCalls b)

theorem Settings.normalized_bounds (s : Settings) :
    1 ≤ s.normalized.minRounds ∧ s.normalized.minRounds ≤ s.normalized.maxRounds :=
  ⟨Nat.le_max_right _ _, Nat.le_max_right _ _⟩

/-- There is at least one round, and no maximum below the minimum. -/
theorem Settings.Configured.bounds {s : Settings} (h : s.Configured) : 1 ≤ s.minRounds ∧ s.minRounds ≤ s.maxRounds := by
  induction h with
  | default => exact ⟨by decide, by decide⟩
  | ofEnvironment seed rounds => exact normalized_bounds _
  | withMinRounds _ n _ => exact normalized_bounds _
  | withMaxRounds _ n _ => exact normalized_bounds _
  | withSeed _ _ ih => exact ih
  | withPollInterval _ _ ih => exact ih
  | withLogSelfCalls _ _ ih => exact ih

/-! ## Journals -/

/-- One run of a recorded block: the number of its round, and the round as it is when the block ends, unless it is
gone. -/
structure BlockPass where
  number : Option Nat
  captured : Option Round

/-- What a session tells before and after the run. -/
def BlockPass.ofSessions (before after : Session) : BlockPass :=
  ⟨before.round.map (·.round.index), after.round.map (·.round)⟩

theorem BlockPass.number_ofSessions {σ : Type} {w : World σ} {i index : Nat} (h : w.Numbers i index) (after : Session) :
    ∀ k ∈ (ofSessions (w.session i) after).number, k = index := by
  intro k hk
  obtain ⟨o, ho, rfl⟩ := Option.map_eq_some_iff.mp hk
  exact h o ho

/-- With a journal beside the memory. -/
def World.withJournal {σ : Type} (w : World σ) (passes : List BlockPass) : World (σ × List BlockPass) :=
  { w with memory := (w.memory, passes) }

def World.withoutJournal {σ : Type} (w : World (σ × List BlockPass)) : World σ := { w with memory := w.memory.1 }

namespace Act

variable {σ ε α : Type}

/-- Out of reach of the computation there is a journal. -/
def besideJournal (x : Act σ ε α) : Act (σ × List BlockPass) ε α := ExceptT.mk do
  let w ← get
  let (r, w') := x.runOn w.withoutJournal
  set (w'.withJournal w.memory.2)
  return r

/-- The block of the session, each run of which is entered in the journal. -/
def journaled (i : Nat) (block : Act σ Failure Unit) : Act (σ × List BlockPass) Failure Unit := do
  let before ← session i
  let outcome ← attempt (besideJournal block)
  let after ← session i
  modify fun w => w.withoutJournal.withJournal (w.memory.2 ++ [.ofSessions before after])
  ofExcept outcome

theorem runOn_journaled (i : Nat) (block : Act σ Failure Unit) (w : World σ) (passes : List BlockPass) :
    (journaled i block).runOn (w.withJournal passes) = ((block.runOn w).1,
      (block.runOn w).2.withJournal (passes ++ [.ofSessions (w.session i) ((block.runOn w).2.session i)])) := by
  have hblock : (besideJournal block).runOn (w.withJournal passes) =
      ((block.runOn w).1, (block.runOn w).2.withJournal passes) := rfl
  rw [journaled, runOn_bind_ok (runOn_session i _), runOn_bind_ok (runOn_attempt _ _), hblock,
    runOn_bind_ok (runOn_session i _)]
  exact runOn_ofExcept _ _

end Act

/-! ## Bounds -/

namespace BlockPass

/-- No pass has captured more different calls than this. -/
def CapturesAtMost (D : Nat) (passes : List BlockPass) : Prop :=
  ∀ pass ∈ passes, ∀ r ∈ pass.captured, r.distinctInvocationCount ≤ D

/-- These are passes of one round, `q` others of which have been made before. -/
structure OfRound (index q : Nat) (passes : List BlockPass) : Prop where
  number : ∀ pass ∈ passes, ∀ k ∈ pass.number, k = index
  bounded : ∀ D, CapturesAtMost D passes → passes.length ≤ 1 ∨ q + passes.length ≤ D + 1

/-- These are passes of `n` rounds, from the round `index` on, each within the bound. -/
structure OfRounds (D index n : Nat) (passes : List BlockPass) : Prop where
  number : ∀ pass ∈ passes, ∀ k ∈ pass.number, index ≤ k
  each : ∀ k, passes.countP (·.number == some k) ≤ D + 1
  total : passes.length ≤ n * (D + 1)

variable {D index n q : Nat} {pass : BlockPass} {passes more : List BlockPass}

/-- A pass after which the round is run again has not used up what its calls allow. -/
theorem OfRound.cons (hpass : ∀ k ∈ pass.number, k = index) {r : Round} (hr : pass.captured = some r)
    (hq : q + 1 ≤ r.distinctInvocationCount) (h : OfRound index (q + 1) passes) : OfRound index q (pass :: passes) where
  number := List.forall_mem_cons.mpr ⟨hpass, h.number⟩
  bounded D hD := by
    obtain ⟨hfirst, hrest⟩ := List.forall_mem_cons.mp hD
    have hle : r.distinctInvocationCount ≤ D := hfirst r hr
    have hbound := h.bounded D hrest
    rw [List.length_cons]
    omega

theorem OfRound.last (hpass : ∀ k ∈ pass.number, k = index) : OfRound index q [pass] where
  number := List.forall_mem_singleton.mpr hpass
  bounded _ _ := .inl (Nat.le_refl 1)

theorem OfRounds.nil (D index n : Nat) : OfRounds D index n [] := ⟨nofun, fun _ => Nat.zero_le _, Nat.zero_le _⟩

/-- One round, and then others. -/
theorem OfRound.append (h : OfRound index 0 passes) (hD : CapturesAtMost D passes)
    (hmore : OfRounds D (index + 1) n more) : OfRounds D index (n + 1) (passes ++ more) := by
  have hlength : passes.length ≤ D + 1 := by have := h.bounded D hD; omega
  refine ⟨List.forall_mem_append.mpr ⟨fun p hp k hk => Nat.le_of_eq (h.number p hp k hk).symm,
    fun p hp k hk => Nat.le_of_succ_le (hmore.number p hp k hk)⟩, fun k => ?_, ?_⟩
  · rw [List.countP_append]
    by_cases hk : k = index
    · -- a later round has another number
      have hzero : more.countP (·.number == some k) = 0 := by
        refine List.countP_eq_zero.mpr fun p hp hnumber => ?_
        have := hmore.number p hp k (beq_iff_eq.mp hnumber)
        omega
      exact hzero ▸ Nat.le_trans List.countP_le_length hlength
    · have hzero : passes.countP (·.number == some k) = 0 :=
        List.countP_eq_zero.mpr fun p hp hnumber => hk (h.number p hp k (beq_iff_eq.mp hnumber))
      rw [hzero, Nat.zero_add]
      exact hmore.each k
  · rw [List.length_append, Nat.succ_mul, Nat.add_comm]
    exact Nat.add_le_add hmore.total hlength

theorem OfRounds.mono (h : OfRounds D index n passes) {m : Nat} (hnm : n ≤ m) : OfRounds D index m passes :=
  ⟨h.number, h.each, Nat.le_trans h.total (Nat.mul_le_mul_right _ hnm)⟩

end BlockPass

/-- A round is run again only while it has made fewer passes than it made different calls, and one. -/
theorem Hinting.review_retry {h h' : Hinting} {outcome : Except Failure Unit} {r : Round}
    (hretry : h.review outcome r = (.ok .retry, h')) :
    h'.passes = h.passes + 1 ∧ h.passes + 1 ≤ r.distinctInvocationCount := by
  unfold review at hretry
  dsimp only at hretry
  split at hretry
  case h_1 => cases hretry
  case h_2 failure =>
    split at hretry
    case h_1 =>
      split at hretry
      case h_1 => cases hretry
      case h_2 =>
        split at hretry
        case isTrue => cases hretry
        case isFalse hbudget =>
          cases hretry
          exact ⟨rfl, by omega⟩
    case h_2 => cases hretry

/-! ## Journaled recordings -/

namespace Act

variable {σ α β : Type} (i : Nat) (block : Act σ Failure Unit)

/-- The second computation is the first one, but for the passes that it enters in the journal, which are as `P` says. -/
def JournaledBy (x : Act σ MockError α) (x' : Act (σ × List BlockPass) MockError α) (P : List BlockPass → Prop) :
    Prop :=
  ∀ (w : World σ) (passes : List BlockPass), ∃ new,
    x'.runOn (w.withJournal passes) = ((x.runOn w).1, (x.runOn w).2.withJournal (passes ++ new)) ∧ P new

namespace JournaledBy

variable {x : Act σ MockError α} {x' : Act (σ × List BlockPass) MockError α} {P Q R : List BlockPass → Prop}

/-- What comes after it may enter more passes. -/
theorem bind {f : α → Act σ MockError β} {f' : α → Act (σ × List BlockPass) MockError β} (hx : x.JournaledBy x' P)
    (hf : ∀ a, (f a).JournaledBy (f' a) Q) (herror : ∀ new, P new → R new)
    (hok : ∀ new more, P new → Q more → R (new ++ more)) : (x >>= f).JournaledBy (x' >>= f') R := by
  intro w passes
  obtain ⟨new, hrun', hnew⟩ := hx w passes
  rcases hrun : x.runOn w with ⟨e | a, w₁⟩
  all_goals rw [hrun] at hrun'
  · rw [runOn_bind_error hrun, runOn_bind_error hrun']
    exact ⟨new, rfl, herror new hnew⟩
  · obtain ⟨more, hmore', hmore⟩ := hf a w₁ (passes ++ new)
    rw [runOn_bind_ok hrun, runOn_bind_ok hrun', hmore', List.append_assoc]
    exact ⟨new ++ more, rfl, hok new more hnew hmore⟩

theorem pure (a : α) : (Pure.pure a : Act σ MockError α).JournaledBy (Pure.pure a) (· = []) := fun w passes =>
  ⟨[], by rw [List.append_nil, runOn_pure, runOn_pure], rfl⟩

theorem mono (h : x.JournaledBy x' P) (hPQ : ∀ new, P new → Q new) : x.JournaledBy x' Q := fun w passes =>
  (h w passes).imp fun new hnew => ⟨hnew.1, hPQ new hnew.2⟩

/-- Nothing is entered when only the result is changed. -/
theorem map (h : x.JournaledBy x' P) (f : α → β) :
    (x >>= fun a => Pure.pure (f a)).JournaledBy (x' >>= fun a => Pure.pure (f a)) P :=
  h.bind (fun a => pure (f a)) (fun _ hnew => hnew) fun new more hnew hmore => by
    rw [hmore, List.append_nil]
    exact hnew

end JournaledBy

/-- A pass of the round is entered, with the round that is then reviewed. -/
theorem recordRound_journaled (phase : Phase) (index n : Nat) (hinting : Hinting) :
    JournaledBy (recordRound i block phase index n hinting) (recordRound i (journaled i block) phase index n hinting)
      (BlockPass.OfRound index hinting.passes) := by
  induction n generalizing hinting with
  | zero => exact fun w passes => ⟨[], by rw [List.append_nil]; rfl, nofun, fun _ _ => .inl (Nat.zero_le 1)⟩
  | succ n ih =>
      intro w passes
      rcases hrun : block.runOn (w.startRound i index hinting.hints) with ⟨outcome, w₁⟩
      let pass : BlockPass := .ofSessions ((w.startRound i index hinting.hints).session i) (w₁.session i)
      have hpass : ∀ k ∈ pass.number, k = index := BlockPass.number_ofSessions (.start w i index hinting.hints) _
      have hrun' : (journaled i block).runOn ((w.withJournal passes).startRound i index hinting.hints) =
          (outcome, w₁.withJournal (passes ++ [pass])) := by
        have hentered := runOn_journaled i block (w.startRound i index hinting.hints) passes
        rwa [hrun] at hentered
      have hsession : (w₁.withJournal (passes ++ [pass])).session i = w₁.session i := rfl
      rw [runOn_recordRound_succ hrun, runOn_recordRound_succ hrun', hsession]
      cases hround : (w₁.session i).round with
      | none => exact ⟨[pass], rfl, .last hpass⟩
      | some finished =>
          have hcaptured : pass.captured = some finished.round := congrArg (Option.map OpenRound.round) hround
          dsimp only
          rcases hreview : hinting.review outcome finished.round with ⟨_ | verdict, hinting'⟩
          · exact ⟨[pass], rfl, .last hpass⟩
          · cases verdict with
            | complete => exact ⟨[pass], rfl, .last hpass⟩
            | retry =>
                obtain ⟨hpasses, hbudget⟩ := Hinting.review_retry hreview
                obtain ⟨new, hrest, hnew⟩ := ih hinting' (w₁.takeRound i) (passes ++ [pass])
                refine ⟨pass :: new, ?_, .cons hpass hcaptured hbudget (hpasses ▸ hnew)⟩
                rw [List.append_cons passes pass new]
                exact hrest

/-- The bound holds of what is entered, round by round. -/
theorem recordMore_journaled (phase : Phase) (n index : Nat) (hinting : Hinting) :
    JournaledBy (recordMore i block phase n index hinting) (recordMore i (journaled i block) phase n index hinting)
      fun new => ∀ D, BlockPass.CapturesAtMost D new → BlockPass.OfRounds D index n new := by
  induction n generalizing index hinting with
  | zero =>
      refine (JournaledBy.pure []).mono fun new hnew D _ => ?_
      exact hnew ▸ .nil D index 0
  | succ n ih =>
      refine (recordRound_journaled i block phase index passLimit hinting.startRound).bind
        (fun r => (ih (index + 1) r.2).map (r.1 :: ·)) (fun new hnew D hD => ?_) fun new more hnew hmore D hD => ?_
      · exact List.append_nil new ▸ hnew.append hD (.nil D (index + 1) n)
      · obtain ⟨hfirst, hrest⟩ := List.forall_mem_append.mp hD
        exact hnew.append hfirst (hmore D hrest)

/-- There are no more rounds than the settings allow. -/
theorem recordRounds_journaled (phase : Phase) (w : World σ) (hmin : w.settings.minRounds ≠ 0)
    (hmax : w.settings.maxRounds ≠ 0) : ∃ passes,
      (recordRounds i (journaled i block) phase).runOn (w.withJournal []) =
        (((recordRounds i block phase).runOn w).1, ((recordRounds i block phase).runOn w).2.withJournal passes) ∧
      ∀ D, BlockPass.CapturesAtMost D passes → BlockPass.OfRounds D 0 w.settings.maxRounds passes := by
  have hsettings : (w.withJournal []).settings = w.settings := rfl
  rw [recordRounds, recordRounds, runOn_bind_ok (runOn_get _), runOn_bind_ok (runOn_get _)]
  simp only [hsettings, hmin, ↓reduceIte]
  obtain ⟨n, hn⟩ := Nat.exists_eq_succ_of_ne_zero hmax
  have hmore (r : Round × Hinting) := ((recordMore_journaled i block phase
    (min (max w.settings.minRounds r.1.distinctCallCount) w.settings.maxRounds - 1) 1 r.2).map (r.1 :: ·)).mono
      (Q := fun more => ∀ D, BlockPass.CapturesAtMost D more → BlockPass.OfRounds D 1 n more)
      fun more hmore D hD => (hmore D hD).mono (by omega)
  refine ((recordRound_journaled i block phase 0 passLimit {}).bind hmore (fun new hnew D hD => ?_)
    fun new more hnew hmore D hD => ?_) w []
  · exact hn ▸ List.append_nil new ▸ hnew.append hD (.nil D 1 n)
  · obtain ⟨hfirst, hrest⟩ := List.forall_mem_append.mp hD
    exact hn ▸ hnew.append hfirst (hmore D hrest)

end Act

namespace Program

variable {μ : Type}

/-- Whatever the code of a block does, no round takes more passes than the different calls of the pass that makes the
most of them, and one more, and no more rounds are begun than the settings allow. Where recording succeeds, the rounds
that are kept are numbered from 0 on, and there are as many as the first makes calls of different methods, within the
limits of the settings. -/
theorem recording_bounded (p : Program μ) {w : World (Log μ)} (hw : w.settings.Configured) (i : Nat) (phase : Phase) :
    ∃ passes, (Act.recordRounds i (Act.journaled i (Act.inBlock i p.run)) phase).runOn (w.withJournal []) =
        (((Act.recordRounds i (Act.inBlock i p.run) phase).runOn w).1,
          ((Act.recordRounds i (Act.inBlock i p.run) phase).runOn w).2.withJournal passes) ∧
      (∀ D, BlockPass.CapturesAtMost D passes → (∀ k, passes.countP (·.number == some k) ≤ D + 1) ∧
        passes.length ≤ w.settings.maxRounds * (D + 1)) ∧
      ∀ rounds, ((Act.recordRounds i (Act.inBlock i p.run) phase).runOn w).1 = .ok rounds → ∃ first,
        rounds.head? = some first ∧ rounds.map (·.index) = List.range rounds.length ∧
        rounds.length = min (max w.settings.minRounds first.distinctCallCount) w.settings.maxRounds := by
  obtain ⟨hmin, hmax⟩ := hw.bounds
  have hmin : w.settings.minRounds ≠ 0 := by omega
  have hmax : w.settings.maxRounds ≠ 0 := by omega
  obtain ⟨passes, hrun, hpasses⟩ := Act.recordRounds_journaled i (Act.inBlock i p.run) phase w hmin hmax
  refine ⟨passes, hrun, fun D hD => ⟨(hpasses D hD).each, (hpasses D hD).total⟩, fun rounds hrounds => ?_⟩
  obtain ⟨first, hfirst, hnumbers⟩ :=
    (Act.recordRounds_numbers (p.inBlock_numbers i i) phase hmin hmax).ok (Prod.ext hrounds rfl)
  have hlength := congrArg List.length hnumbers
  rw [List.length_map, List.length_range] at hlength
  exact ⟨first, hfirst, hlength ▸ hnumbers, hlength⟩

/-- A number of undeclared shape is needed as an integer. -/
def counting : Program Unit :=
  call 0 ⟨1, "Counter"⟩ { name := "count", params := [], returns := .generic } [] fun
    | .ok (.int _) => done (.ok .unit)
    | .ok v => done (.error (.mock (.rejected .int v)))
    | .error e => done (.error (.mock e))

/-- One session, and no more than three rounds. -/
def countingWorld : World (Log Unit) :=
  { settings := ({} : Settings).withMaxRounds 3, sessions := [{ generator := .ofSeed none }],
    memory := { memory := () } }

/-- The first round takes a second pass, for which there is a hint; the second round needs none, and there is no third,
for there is only one method. -/
theorem recording_bounded_counting : countingWorld.settings.Configured ∧ ∃ passes rounds first,
    ((Act.recordRounds 0 (Act.journaled 0 (Act.inBlock 0 counting.run)) .stubbing).runOn
      (countingWorld.withJournal [])).2.memory.2 = passes ∧
    passes.map (fun pass => (pass.number, pass.captured.map (·.distinctInvocationCount))) =
      [(some 0, some 1), (some 0, some 1), (some 1, some 1)] ∧
    (∀ k, passes.countP (·.number == some k) ≤ 1 + 1) ∧ passes.length ≤ 3 * (1 + 1) ∧
    ((Act.recordRounds 0 (Act.inBlock 0 counting.run) .stubbing).runOn countingWorld).1 = .ok rounds ∧
    rounds.map (·.index) = [0, 1] ∧ rounds.head? = some first ∧
    rounds.length = min (max 2 first.distinctCallCount) 3 := by
  have hconfigured : countingWorld.settings.Configured := .withMaxRounds .default 3
  have hcounts : (((Act.recordRounds 0 (Act.journaled 0 (Act.inBlock 0 counting.run)) .stubbing).runOn
      (countingWorld.withJournal [])).2.memory.2.map fun pass =>
        (pass.number, pass.captured.map (·.distinctInvocationCount))) =
      [(some 0, some 1), (some 0, some 1), (some 1, some 1)] := by decide +kernel
  have hindices : ((Act.recordRounds 0 (Act.inBlock 0 counting.run) .stubbing).runOn countingWorld).1.toOption.map
      (·.map (·.index)) = some [0, 1] := by decide +kernel
  obtain ⟨passes, hrun, hbound, hkept⟩ := counting.recording_bounded hconfigured 0 .stubbing
  have hjournal : ((Act.recordRounds 0 (Act.journaled 0 (Act.inBlock 0 counting.run)) .stubbing).runOn
      (countingWorld.withJournal [])).2.memory.2 = passes := congrArg (·.2.memory.2) hrun
  rw [hjournal] at hcounts
  have hcaptured : BlockPass.CapturesAtMost 1 passes := by
    intro pass hpass r hr
    have hmem := List.mem_map_of_mem (f := fun pass : BlockPass =>
      (pass.number, pass.captured.map (·.distinctInvocationCount))) hpass
    rw [hcounts, Option.mem_def.mp hr] at hmem
    grind
  obtain ⟨heach, htotal⟩ := hbound 1 hcaptured
  rcases hrounds : ((Act.recordRounds 0 (Act.inBlock 0 counting.run) .stubbing).runOn countingWorld).1 with e | rounds
  · rw [hrounds] at hindices
    cases hindices
  · rw [hrounds, Except.toOption, Option.map_some, Option.some_inj] at hindices
    obtain ⟨first, hfirst, -, hlength⟩ := hkept rounds hrounds
    exact ⟨hconfigured, passes, rounds, first, hjournal, hcounts, heach, htotal, rfl, hindices, hfirst, hlength⟩

end Program

end TestDouble
