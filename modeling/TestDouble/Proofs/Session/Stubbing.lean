import TestDouble.Proofs.Session.Installing
import TestDouble.Proofs.Session.Rounds

/-!
# Stubbing a recorded block

In an idle session a block that is recorded without fail gets its answer, and the session is idle again.
-/

namespace TestDouble

/-- The world in which the recorded block of a statement waits for its answer. -/
def World.awaiting {σ : Type} (w : World σ) (i : Nat) (res : Resolution) (g : Generator) (s : Store) : World σ :=
  (w.inRound i none g s).modifySession i fun x => { x with phase := .awaitingAnswer, resolution := some res }

theorem World.session_awaiting {σ : Type} {w : World σ} {i : Nat} (hi : i < w.sessions.length) (res : Resolution)
    (g : Generator) (s : Store) : ((w.awaiting i res g s).session i).phase = .awaitingAnswer ∧
      ((w.awaiting i res g s).session i).resolution = some res := by
  rw [awaiting, session_modifySession_self (w := w.inRound i none g s) (length_inRound.symm ▸ hi)]
  exact ⟨rfl, rfl⟩

namespace Act

variable {σ : Type} {w : World σ} {i : Nat} {block : Act σ Failure Unit} {res : Resolution} {g : Generator}
  {s s' : Store}

/-- The statement that gives the calls of a block an answer. -/
def stubbing (i : Nat) (block : Act σ Failure Unit) (answer : Answer) : Act σ MockError Unit := do
  let pending ← every i block
  finish pending answer

theorem runOn_beginStubbing (hidle : (w.session i).Idle) : (beginStubbing i).runOn w =
    (.ok (), w.modifySession i fun x => { x with request := none, phase := .stubbing }) := by
  rw [beginStubbing, runOn_bind_ok (runOn_expectPhase hidle.phase rfl), runOn_modifySession]
  exact congrArg (Prod.mk _) (congrArg (World.mk w.settings w.store · w.entropy w.depth w.memory)
    (World.sessions_modify_congr (by simp [hidle.request])))

theorem runOn_recordBlock {phase : Phase} {rounds : List Round} {w' : World σ}
    (hrounds : (recordRounds i block phase).runOn w = (.ok rounds, w'))
    (hres : Resolution.ofRounds rounds phase = .ok res) (hne : res ≠ []) :
    (recordBlock i block phase).runOn w = (.ok res, w') := by
  rw [recordBlock, runOn_bind_ok hrounds, hres, runOn_bind_ok (runOn_ofExcept _ _), runOn_bind_ok (runOn_session i _)]
  simp [hne]

/-- In a statement whose block has not been recorded, the block is recorded and kept. -/
theorem runOn_runRecordedBlock_eq {phase : Phase} (hphase : (w.session i).phase = phase)
    (hallowed : phase = .stubbing ∨ phase = .verifying) (hnone : (w.session i).resolution = none) :
    (runRecordedBlock i block).runOn w = (orFail i (recordBlock i block phase) >>= fun res =>
      modifySession i fun x => { x with
        resolution := some res
        phase := if phase = .stubbing then .awaitingAnswer else x.phase }).runOn w := by
  have hcontains : [Phase.stubbing, .verifying].contains phase = true := by
    rcases hallowed with rfl | rfl <;> rfl
  rw [runRecordedBlock, runOn_bind_ok (runOn_expectPhase hphase hcontains), runOn_bind_ok (runOn_session i w)]
  simp only [hnone, Option.isSome_none, Bool.false_eq_true, ↓reduceIte]

theorem runOn_runRecordedBlock {phase : Phase} {w' : World σ} (hphase : (w.session i).phase = phase)
    (hallowed : phase = .stubbing ∨ phase = .verifying) (hnone : (w.session i).resolution = none)
    (hrun : (recordBlock i block phase).runOn w = (.ok res, w')) : (runRecordedBlock i block).runOn w =
      (.ok (), w'.modifySession i fun x => { x with
        resolution := some res
        phase := if phase = .stubbing then .awaitingAnswer else x.phase }) := by
  rw [runOn_runRecordedBlock_eq hphase hallowed hnone, runOn_bind_ok (runOn_orFail_ok hrun), runOn_modifySession]

/-- A block that cannot be recorded drops its statement. -/
theorem runOn_runRecordedBlock_error {phase : Phase} {w' : World σ} {e : MockError}
    (hphase : (w.session i).phase = phase) (hallowed : phase = .stubbing ∨ phase = .verifying)
    (hnone : (w.session i).resolution = none) (hrun : (recordBlock i block phase).runOn w = (.error e, w')) :
    (runRecordedBlock i block).runOn w = (.error e, w'.modifySession i Session.cleared) := by
  rw [runOn_runRecordedBlock_eq hphase hallowed hnone, runOn_bind_error (runOn_orFail_error hrun)]

theorem runOn_attachAnswer {answer : Answer} {links : Links} (hphase : (w.session i).phase = .awaitingAnswer)
    (hres : (w.session i).resolution = some res) (hinst : Installs answer [] w.store res links s') :
    (attachAnswer i answer).runOn w = (.ok (), { w with store := s' }.modifySession i fun x =>
      { x with resolution := none, phase := .answering }) := by
  have hinstall : (install answer [] res).runOn (w.modifySession i fun x => { x with resolution := none }) =
      (.ok (), { w.modifySession i (fun x => { x with resolution := none }) with store := s' }) := by
    have := hinst.runOn (w := w.modifySession i fun x => { x with resolution := none }) []
    rwa [List.append_nil, install, runOn_pure] at this
  rw [attachAnswer, runOn_bind_ok (runOn_expectPhase hphase rfl), runOn_bind_ok (runOn_session i w),
    runOn_bind_ok (runOn_modifySession i _ w), hres]
  dsimp only
  rw [runOn_bind_ok (runOn_orFail_ok hinstall), runOn_modifySession]
  exact congrArg (Prod.mk _) (World.modifySession_modifySession (w := { w with store := s' }))

/-- The first call on a mock that is not registered ends the statement. -/
theorem runOn_attachAnswer_unknown {answer : Answer} {done rest : Resolution} {c : ResolvedCall} {links : Links}
    (hphase : (w.session i).phase = .awaitingAnswer) (hres : (w.session i).resolution = some (done ++ c :: rest))
    (hinst : Installs answer [] w.store done links s')
    (hstub : s'.registry.stub? (links.apply c.matcher).target.id = none) : (attachAnswer i answer).runOn w =
      (.error (.unknown (links.apply c.matcher).target.id), { w with store := s' }.modifySession i Session.cleared) := by
  have hinstall : (install answer [] (done ++ c :: rest)).runOn
      (w.modifySession i fun x => { x with resolution := none }) = (.error (.unknown (links.apply c.matcher).target.id),
        { w.modifySession i (fun x => { x with resolution := none }) with store := s' }) := by
    rw [hinst.runOn (w := w.modifySession i fun x => { x with resolution := none }) (c :: rest),
      runOn_install_unknown answer hstub]
  rw [attachAnswer, runOn_bind_ok (runOn_expectPhase hphase rfl), runOn_bind_ok (runOn_session i w),
    runOn_bind_ok (runOn_modifySession i _ w), hres]
  dsimp only
  rw [runOn_bind_error (runOn_orFail_error hinstall)]
  exact congrArg (Prod.mk _) (World.modifySession_modifySession (w := { w with store := s' }))

/-- A block that is recorded without fail waits for its answer. -/
theorem runOn_every (hi : i < w.sessions.length) (hidle : (w.session i).Idle)
    (hrec : (recordBlock i block .stubbing).runOn
      (w.modifySession i fun x => { x with request := none, phase := .stubbing }) =
        (.ok res, (w.modifySession i fun x => { x with request := none, phase := .stubbing }).inRound i none g s)) :
    (every i block).runOn w = (.ok ⟨i⟩, w.awaiting i res g s) := by
  have hbegin := runOn_beginStubbing hidle
  generalize hw₁ : (w.modifySession i fun x => { x with request := none, phase := .stubbing }) = w₁ at *
  have hs₁ : w₁.session i = { w.session i with request := none, phase := .stubbing } := by
    rw [← hw₁, World.session_modifySession_self hi]
  have hrun := runOn_runRecordedBlock (by rw [hs₁]) (.inl rfl) (by rw [hs₁]; exact hidle.resolution) hrec
  rw [every, runOn_bind_ok hbegin, runOn_bind_ok hrun, runOn_pure, ← hw₁]
  refine congrArg (Prod.mk _) ?_
  simp only [World.awaiting, World.inRound, World.modifySession, List.modify_modify_eq, Function.comp_def]
  exact congrArg (World.mk w.settings s · w.entropy w.depth w.memory)
    (World.sessions_modify_congr (by simp [hidle.request]))

/-- Once its answer has been given or refused, a statement leaves nothing to abandon. -/
theorem runOn_finish {p : PendingAnswer} {answer : Answer} {r : Except MockError Unit} {w' : World σ}
    (hattach : (attachAnswer p.session answer).runOn w = (r, w')) (hphase : (w'.session p.session).phase = .answering) :
    (finish p answer).runOn w = (r, w') := by
  have habandon : (abandon p).runOn w' = (.ok (), w') := by
    rw [abandon, runOn_bind_ok (runOn_session p.session _), hphase]
    simp
  rw [finish, runOn_bind_ok (runOn_attempt _ _), hattach, runOn_bind_ok habandon, runOn_ofExcept]

/-- The session is again what it was, but for its generator. -/
theorem runOn_stubbing {answer : Answer} {links : Links} (hi : i < w.sessions.length) (hidle : (w.session i).Idle)
    (hrec : (recordBlock i block .stubbing).runOn
      (w.modifySession i fun x => { x with request := none, phase := .stubbing }) =
        (.ok res, (w.modifySession i fun x => { x with request := none, phase := .stubbing }).inRound i none g s))
    (hinst : Installs answer [] s res links s') :
    (stubbing i block answer).runOn w = (.ok (), w.inRound i none g s') := by
  obtain ⟨hphase, hres⟩ := World.session_awaiting hi res g s
  have hattach := runOn_attachAnswer hphase hres hinst
  have hend : { w.awaiting i res g s with store := s' }.modifySession i
      (fun x => { x with resolution := none, phase := .answering }) = w.inRound i none g s' := by
    simp only [World.awaiting, World.inRound, World.modifySession, List.modify_modify_eq, Function.comp_def]
    exact congrArg (World.mk w.settings s' · w.entropy w.depth w.memory)
      (World.sessions_modify_congr (by simp [hidle.phase, hidle.resolution]))
  rw [hend] at hattach
  rw [stubbing, runOn_bind_ok (runOn_every hi hidle hrec)]
  exact runOn_finish hattach (by rw [World.session_inRound hi]; exact hidle.phase)

/-- A recorded call on a mock that is not registered makes the statement fail. -/
theorem runOn_stubbing_unknown {answer : Answer} {done rest : Resolution} {c : ResolvedCall} {links : Links}
    (hi : i < w.sessions.length) (hidle : (w.session i).Idle)
    (hrec : (recordBlock i block .stubbing).runOn
      (w.modifySession i fun x => { x with request := none, phase := .stubbing }) = (.ok (done ++ c :: rest),
        (w.modifySession i fun x => { x with request := none, phase := .stubbing }).inRound i none g s))
    (hinst : Installs answer [] s done links s')
    (hstub : s'.registry.stub? (links.apply c.matcher).target.id = none) : ∃ w',
      (stubbing i block answer).runOn w = (.error (.unknown (links.apply c.matcher).target.id), w') := by
  obtain ⟨hphase, hres⟩ := World.session_awaiting hi (done ++ c :: rest) g s
  have hattach := runOn_attachAnswer_unknown hphase hres hinst hstub
  refine ⟨{ w.awaiting i (done ++ c :: rest) g s with store := s' }.modifySession i Session.cleared, ?_⟩
  rw [stubbing, runOn_bind_ok (runOn_every hi hidle hrec)]
  refine runOn_finish hattach ?_
  rw [World.session_modifySession_self (by simpa [World.awaiting] using hi)]
  rfl

end Act

end TestDouble
