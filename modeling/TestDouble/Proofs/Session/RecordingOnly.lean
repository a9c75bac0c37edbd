import TestDouble.Proofs.Recording.PureRounds
import TestDouble.Proofs.Session.Passes
import TestDouble.Proofs.Session.Pending
import TestDouble.Proofs.Session.Preserving
import TestDouble.Proofs.Session.Rounds

/-!
# Blocks that only record

A block that makes calls and registers pure matchers through its own session stays in its round, pass after pass.
Of the store it takes identities and sequence numbers, and nothing else.
-/

namespace TestDouble

/-! ## What only records -/

/-- Of the operations without a block only two are made in recorded ones; `declares` allows the second. -/
def Command.Records (declares : Bool) {α : Type} : Command α → Prop
  | registerMatcher m _ => m.Pure
  | wasNotCalled _ => declares = true
  | _ => False

/-- The program registers pure matchers and makes calls, all through this session, and looks at results. -/
def Program.OnlyRecords {μ : Type} (i : Nat) (declares : Bool) : Program μ → Prop
  | done _ => True
  | look next => ∀ w, (next w).OnlyRecords i declares
  | remember _ next => next.OnlyRecords i declares
  | useStore _ _ => False
  | openSession _ => False
  | command j c next => j = i ∧ c.Records declares ∧ ∀ r, (next r).OnlyRecords i declares
  | statement _ _ _ _ => False
  | call j _ _ _ next => j = i ∧ ∀ r, (next r).OnlyRecords i declares
  | callThrough j _ _ _ _ next => j = i ∧ ∀ r, (next r).OnlyRecords i declares

namespace World

variable {σ : Type} {w₀ w : World σ} {i : Nat}

/-- The statement of the session goes on, and the mocks are as they were. -/
structure GoesOn (w₀ : World σ) (i : Nat) (w : World σ) : Prop where
  spent : w₀.store.Spent w.store
  phase : (w.session i).phase = (w₀.session i).phase
  request : (w.session i).request = (w₀.session i).request

/-- A round with pure matchers is in progress as well. -/
structure InPass (w₀ : World σ) (i : Nat) (w : World σ) : Prop extends w₀.GoesOn i w where
  round : ∃ o, (w.session i).round = some o ∧ o.round.Pure

theorem GoesOn.lt (h : w₀.GoesOn i w) (hphase : (w₀.session i).phase ≠ .answering) : i < w.sessions.length := by
  refine Nat.lt_of_not_le fun hle => hphase ?_
  rw [← h.phase, session_of_le hle]
  rfl

theorem GoesOn.modifySession (h : w₀.GoesOn i w) {f : Session → Session} (hphase : ∀ s, (f s).phase = s.phase)
    (hrequest : ∀ s, (f s).request = s.request) : w₀.GoesOn i (w.modifySession i f) := by
  refine ⟨h.spent, ?_, ?_⟩
  · rw [session_modifySession]
    split
    · rw [hphase, h.phase]
    · exact h.phase
  · rw [session_modifySession]
    split
    · rw [hrequest, h.request]
    · exact h.request

/-- The round goes on. -/
theorem InPass.record (h : w₀.InPass i w) {s : Store} (hs : w.store.Spent s) {f : Session → Session}
    (hphase : ∀ s, (f s).phase = s.phase) (hrequest : ∀ s, (f s).request = s.request)
    (hround : ∃ o, (f (w.session i)).round = some o ∧ o.round.Pure) :
    w₀.InPass i ({ w with store := s }.modifySession i f) := by
  obtain ⟨o, ho, -⟩ := h.round
  have hi : i < w.sessions.length := lt_of_round (by rw [ho]; rfl)
  have hstore : w₀.GoesOn i { w with store := s } := ⟨h.spent.trans hs, h.phase, h.request⟩
  refine ⟨hstore.modifySession hphase hrequest, ?_⟩
  rw [session_modifySession_self (w := { w with store := s }) hi]
  exact hround

end World

theorem Round.Pure.add {r : Round} (h : r.Pure) {reg : RegisteredMatcher} (hreg : reg.matcher.Pure) :
    Round.Pure { r with matchers := r.matchers ++ [reg] } := fun m hm => by
  rcases List.mem_append.mp hm with hm | hm
  · exact h m hm
  · cases List.mem_singleton.mp hm
    exact hreg

namespace Act

variable {σ : Type} {w₀ : World σ} {i : Nat}

theorem registerMatcher_inPass {m : Matcher} (hm : m.Pure) (shape : Shape) :
    (registerMatcher i m shape).Preserves (w₀.InPass i) := by
  intro w hw
  obtain ⟨o, ho, hpure⟩ := hw.round
  obtain ⟨reg, g', s', hreg⟩ := o.exists_registers (w.session i).generator w.store m shape
  refine .bind (.session ?_)
  rw [ho]
  refine .bind (.get ?_)
  rw [hreg.result]
  refine .bind (.of_ok rfl (.bind (.modifySession (.pure ?_))))
  exact hw.record hreg.spent (fun _ => rfl) (fun _ => rfl) ⟨_, rfl, hpure.add (hreg.matcher ▸ hm)⟩

/-- In a round every call is captured, whatever could answer it. -/
theorem intercept_inPass (target : ObjectRef) (method : Method) (args : List Value)
    (underlying : Option (Underlying σ)) : (intercept i target method args underlying).Preserves (w₀.InPass i) := by
  intro w hw
  obtain ⟨o, ho, hpure⟩ := hw.round
  obtain ⟨c, g', s', hcap⟩ :=
    o.exists_captures (w.session i).generator w.store target method args (w.session i).frames.head?
  have hwith : ∀ caller, (interceptWith caller i target method args underlying).Ensures w (fun _ => w₀.InPass i)
      fun _ => w₀.InPass i := by
    intro caller
    refine .bind (.session ?_)
    rw [ho]
    refine .bind (.get ?_)
    rw [hcap.result]
    refine .bind (.of_ok rfl (.bind (.modifySession (.pure ?_))))
    exact hw.record hcap.spent (fun _ => rfl) (fun _ => rfl) ⟨_, rfl, hpure⟩
  refine .bind (.get ?_)
  cases w.depth with
  | zero => exact hwith _
  | succ n => exact hwith _

theorem wasNotCalled_inPass (hphase : (w₀.session i).phase = .verifying) (o : ObjectRef) :
    (wasNotCalled i o).Preserves (w₀.InPass i) := by
  intro w hw
  refine .bind (.session ?_)
  obtain ⟨round, hround, hpure⟩ := hw.round
  have hverifying : (w.session i).phase = .verifying := hw.phase.trans hphase
  simp only [hround, hverifying, Option.isSome_some, decide_true, Bool.and_self, ↓reduceIte]
  exact .modifySession (hw.record (.refl _) (fun _ => rfl) (fun _ => rfl) ⟨round, hround, hpure⟩)

theorem command_inPass {α : Type} {declares : Bool} (hd : declares = true → (w₀.session i).phase = .verifying) :
    ∀ c : Command α, c.Records declares → (c.act i : Act σ MockError α).Preserves (w₀.InPass i)
  | .registerMatcher _ shape, h => registerMatcher_inPass h shape
  | .wasNotCalled o, h => wasNotCalled_inPass (hd h) o

end Act

/-! ## Programs -/

namespace Act

variable {μ ε α : Type} {w₀ : World (Log μ)} {i : Nat}

/-- Nothing depends on what has been noted. -/
theorem note_inPass (failed : Option Failed) : (note failed : Act (Log μ) ε Unit).Preserves (w₀.InPass i) :=
  fun _ hw => .of_ok rfl ⟨⟨hw.spent, hw.phase, hw.request⟩, hw.round⟩

theorem setRunning_inPass (f : List Nat → List Nat) : (setRunning f : Act (Log μ) ε Unit).Preserves (w₀.InPass i) :=
  fun _ hw => .of_ok rfl ⟨⟨hw.spent, hw.phase, hw.request⟩, hw.round⟩

theorem operation_inPass {x : Act (Log μ) MockError α} (hx : x.Preserves (w₀.InPass i)) (name : String) :
    (operation name i x).Preserves (w₀.InPass i) := by
  refine hx.attempt.bind fun r => ?_
  cases r with
  | ok _ => exact (note_inPass _).bind fun _ => .pure _
  | error _ => exact (note_inPass _).bind fun _ => .pure _

theorem side_inPass {x : Act (Log μ) MockError α} (hx : x.Preserves (w₀.InPass i)) :
    (side x).Preserves (w₀.InPass i) := hx.attempt.bind fun _ => (note_inPass none).bind fun _ => .pure _

theorem inBlock_inPass {x : Act (Log μ) Failure Value} (hx : x.Preserves (w₀.InPass i)) :
    (inBlock i x).Preserves (w₀.InPass i) := by
  refine (setRunning_inPass _).bind fun _ => (note_inPass none).bind fun _ => hx.attempt.bind fun r => ?_
  refine (setRunning_inPass _).bind fun _ => ?_
  cases r with
  | ok _ => exact .pure _
  | error e => exact .throw e

end Act

/-- A program that only records leaves the round in progress. -/
theorem Program.run_inPass {μ : Type} {w₀ : World (Log μ)} {i : Nat} {declares : Bool} (p : Program μ)
    (h : p.OnlyRecords i declares) (hd : declares = true → (w₀.session i).phase = .verifying) :
    p.run.Preserves (w₀.InPass i) := by
  induction p with
  | done result => exact .ofExcept result
  | look next ih => exact Act.Preserves.get.bind fun w => ih w (h w)
  | remember memory next ih =>
      exact Act.Preserves.bind (fun _ hw => .of_ok rfl ⟨⟨hw.spent, hw.phase, hw.request⟩, hw.round⟩) fun _ => ih h
  | useStore f next _ => exact absurd h id
  | openSession next _ => exact absurd h id
  | command j c next ih =>
      obtain ⟨rfl, hc, hnext⟩ := h
      exact (Act.operation_inPass (Act.command_inPass hd c hc) c.name).bind fun r => ih r (hnext r)
  | statement j s block next _ _ => exact absurd h id
  | call j target method args next ih =>
      obtain ⟨rfl, hnext⟩ := h
      exact (Act.side_inPass (Act.intercept_inPass target method args none)).bind fun r => ih r (hnext r)
  | callThrough j target method args underlying next _ ih =>
      obtain ⟨rfl, hnext⟩ := h
      exact (Act.side_inPass (Act.intercept_inPass target method args _)).bind fun r => ih r (hnext r)

/-! ## Rounds -/

namespace Act

variable {σ : Type} {w₀ : World σ} {i : Nat} {block : Act σ Failure Unit} {phase : Phase}

/-- A pass starts a round of its own, and ends in it. -/
theorem passing_goesOn (hphase : (w₀.session i).phase ≠ .answering) (hb : block.Preserves (w₀.InPass i)) :
    Passing i block (w₀.GoesOn i) (w₀.GoesOn i) (w₀.GoesOn i) Round.Pure where
  pass index hints w hw := by
    have hstarted : w₀.InPass i (w.startRound i index hints) := by
      refine ⟨hw.modifySession (fun _ => rfl) fun _ => rfl, ?_⟩
      rw [World.startRound, World.session_modifySession_self (hw.lt hphase)]
      exact ⟨_, rfl, fun m hm => absurd hm List.not_mem_nil⟩
    refine pass_ensures ((hb _ hstarted).mono (fun _ w₁ h₁ => ?_) fun _ w₁ h₁ => ?_)
    all_goals
      obtain ⟨o, hround, hpure⟩ := h₁.round
      refine ⟨fun _ => h₁.toGoesOn, fun o' ho' => ?_⟩
      cases hround.symm.trans ho'
      exact ⟨hpure, h₁.toGoesOn.modifySession (fun _ => rfl) fun _ => rfl⟩
  again _ h := h
  error _ h := h

/-- What is recorded is pure, and recording has left the mocks alone. -/
theorem runRecordedBlock_leaves (w : World σ)
    (hb : (w.session i).phase ≠ .answering → block.Preserves (w.InPass i)) :
    (runRecordedBlock i block).Ensures w
      (fun _ w' => w.store.Spent w'.store ∧ (w.session i).phase ≠ .answering ∧
        ∃ res : Resolution, res.Pure ∧ (w'.session i).resolution = some res ∧
          (w'.session i).request = (w.session i).request ∧
          ((w.session i).phase = .verifying → (w'.session i).phase = .verifying))
      fun _ w' => w.store.Spent w'.store := by
  have hstart : w.GoesOn i w := ⟨.refl _, rfl, rfl⟩
  refine .bind (expectPhase_ensures (fun hallowed => .bind (.session ?_)) fun _ => .refl _)
  have hphase : (w.session i).phase ≠ .answering := fun h => by rw [h] at hallowed; simp at hallowed
  dsimp only
  split
  · exact .bind (.fail (.refl _))
  · refine .bind (.orFail (((passing_goesOn hphase (hb hphase)).recordBlock hstart).mono (fun res w₁ h₁ => ?_)
      fun _ _ h => h.spent))
    obtain ⟨hend, rounds, hrounds, hres⟩ := h₁
    have hgoes : w.GoesOn i w₁ := by
      rcases hend with h | ⟨-, rfl⟩
      · exact h
      · exact hstart
    refine .modifySession ⟨hgoes.spent, hphase, res, Resolution.ofRounds_pure hrounds hres, ?_⟩
    rw [World.session_modifySession_self (hgoes.lt hphase)]
    refine ⟨rfl, hgoes.request, fun hverifying => ?_⟩
    dsimp only
    rw [if_neg (by rw [hverifying]; decide), hgoes.phase, hverifying]

end Act

end TestDouble
