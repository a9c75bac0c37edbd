import TestDouble.Proofs.Session.Disturbed
import TestDouble.Proofs.Session.Halfway

/-!
# Finishing a statement later

A statement that waits for its answer is finished, or given up, through its session. What is answered is the block
that the session waits with, so it is the statement's own block unless another block was run in between.
-/

namespace TestDouble.Act

variable {σ : Type} {w w' w₁ : World σ} {i : Nat} {block : Act σ Failure Unit} {answer : Answer}

/-! ## Statements that wait for an answer -/

/-- A session in which rounds have been recorded is there. -/
theorem recordRounds_bounded {phase : Phase} (w : World σ) : (recordRounds i block phase).Ensures w
    (fun rounds w' => rounds = [] ∨ i < w'.sessions.length) fun _ _ => True := by
  have hpassing : Passing i block (fun _ => True) (fun w => i < w.sessions.length) (fun _ => True) fun _ => True :=
    { pass := fun index hints w _ => pass_ensures (.of_world ⟨fun _ => trivial, fun o ho => ⟨trivial, by
        rw [World.length_takeRound]
        exact World.lt_of_round (by rw [ho]; rfl)⟩⟩)
      again := fun _ _ => trivial
      error := fun _ _ => trivial }
  exact (hpassing.recordRounds trivial).mono (fun _ _ h => h.2.symm.imp_left And.left) fun _ _ h => h

/-- What a session waits with are the calls of the recorded block. -/
structure Awaits (i : Nat) (block : Act σ Failure Unit) (w w₁ : World σ) (rounds : List Round) (own : Resolution) :
    Prop where
  recorded : ∃ w₂, (recordRounds i block .stubbing).runOn (w.modifySession i fun s => { s with phase := .stubbing }) =
    (.ok rounds, w₂) ∧ w₁.store = w₂.store
  resolved : Resolution.ofRounds rounds .stubbing = .ok own
  calls : own ≠ []
  phase : (w₁.session i).phase = .awaitingAnswer
  resolution : (w₁.session i).resolution = some own

theorem every_awaits (w : World σ) : (every i block).Ensures w
    (fun pending w₁ => pending = ⟨i⟩ ∧ ∃ rounds own, Awaits i block w w₁ rounds own) fun _ _ => True := by
  refine .bind (.bind (expectPhase_ensures (fun _ => .modifySession ?_) fun _ => trivial))
  refine .bind (.bind (expectPhase_ensures (fun hphase => .bind (.session ?_)) fun _ => trivial))
  have hstubbing : ((w.modifySession i fun s => { s with phase := .stubbing }).session i).phase = .stubbing := by
    by_cases hi : i < w.sessions.length
    · rw [World.session_modifySession_self hi]
    · rw [World.session_of_le (by rw [World.length_modifySession]; omega), World.newSession_idle.phase] at hphase
      simp at hphase
  rw [hstubbing]
  dsimp only
  split
  · exact .bind (.fail trivial)
  · refine .bind (.orFail ?_)
    have hbounded : (recordRounds i block .stubbing).Ensures _ _ _ :=
      recordRounds_bounded (w.modifySession i fun s => { s with phase := .stubbing })
    rcases hrounds : (recordRounds i block .stubbing).runOn (w.modifySession i fun s => { s with phase := .stubbing })
      with ⟨_ | rounds, w₂⟩
    · exact .bind (.of_error hrounds trivial)
    · refine .bind (.of_ok hrounds (.bind (.ofExcept (fun own hown => .bind (.session ?_)) fun _ _ => trivial)))
      dsimp only
      split
      · exact .bind (.throw trivial)
      · rename_i hdeclares
        have hi : i < w₂.sessions.length := by
          refine (hbounded.ok hrounds).resolve_left fun hnil => hdeclares ?_
          subst hnil
          cases hown
          simp
        refine .pure (.modifySession (.pure ⟨rfl, rounds, own, ⟨w₂, hrounds, rfl⟩, hown, ?_, ?_, ?_⟩))
        · rintro rfl
          simp at hdeclares
        · rw [World.session_modifySession_self hi]
          rfl
        · rw [World.session_modifySession_self hi]

/-! ## Finishing and giving up -/

/-- An answer is attached to the block that the session waits with. -/
theorem attachAnswer_ok (h : (attachAnswer i answer).runOn w = (.ok (), w')) : (w.session i).phase = .awaitingAnswer ∧
    ∃ res links, (w.session i).resolution = some res ∧ Installs answer [] w.store res links w'.store := by
  by_cases hphase : (w.session i).phase = .awaitingAnswer
  · refine ⟨hphase, ?_⟩
    cases hres : (w.session i).resolution with
    | none =>
        rw [attachAnswer, runOn_bind_ok (runOn_expectPhase hphase rfl), runOn_bind_ok (runOn_session i w),
          runOn_bind_ok (runOn_modifySession i _ w), hres] at h
        cases h
    | some res =>
        obtain ⟨done, rest, links, s', rfl, hdone, hrest⟩ := Installs.exists_prefix answer [] res w.store
        cases rest with
        | nil =>
            rw [List.append_nil] at hres ⊢
            rw [runOn_attachAnswer hphase hres hdone] at h
            cases h
            exact ⟨done, links, rfl, hdone⟩
        | cons c rest =>
            rw [runOn_attachAnswer_unknown hphase hres hdone (hrest c rfl)] at h
            cases h
  · have herror : (expectPhase i "attach_answer" [.awaitingAnswer]).runOn w = _ :=
      runOn_expectPhase_error (by simpa using hphase)
    rw [attachAnswer, runOn_bind_error herror] at h
    cases h

/-- Giving up only ever takes away what the session waits with. -/
theorem runOn_abandon (w : World σ) : (abandon ⟨i⟩).runOn w =
    (.ok (), if (w.session i).phase = .awaitingAnswer then w.modifySession i Session.cleared else w) := by
  rw [abandon, runOn_bind_ok (runOn_session i w)]
  split <;> rfl

/-- For the mocks finishing is attaching the answer. -/
theorem runOn_finish_store (i : Nat) (answer : Answer) (w : World σ) :
    ((finish ⟨i⟩ answer).runOn w).1 = ((attachAnswer i answer).runOn w).1 ∧
      ((finish ⟨i⟩ answer).runOn w).2.store = ((attachAnswer i answer).runOn w).2.store := by
  rw [finish, runOn_bind_ok (runOn_attempt _ _), runOn_bind_ok (runOn_abandon _), runOn_ofExcept]
  refine ⟨rfl, ?_⟩
  dsimp only
  split <;> rfl

/-- A session that does not wait for an answer takes none. -/
theorem finish_of_not_awaiting (answer : Answer) (h : (w.session i).phase ≠ .awaitingAnswer) :
    (∃ e, ((finish ⟨i⟩ answer).runOn w).1 = .error e) ∧ ((finish ⟨i⟩ answer).runOn w).2.store = w.store := by
  have herror : (expectPhase i "attach_answer" [.awaitingAnswer]).runOn w = _ :=
    runOn_expectPhase_error (by simpa using h)
  have hattach : (attachAnswer i answer).runOn w = (.error (.badSequence "attach_answer" (w.session i).phase none),
      w.modifySession i Session.cleared) := runOn_bind_error herror
  obtain ⟨hresult, hstore⟩ := runOn_finish_store i answer w
  rw [hattach] at hresult hstore
  exact ⟨⟨_, hresult⟩, hstore⟩

theorem finish_ok (h : ((finish ⟨i⟩ answer).runOn w).1 = .ok ()) : (w.session i).phase = .awaitingAnswer ∧
    ∃ res links, (w.session i).resolution = some res ∧
      Installs answer [] w.store res links ((finish ⟨i⟩ answer).runOn w).2.store := by
  obtain ⟨hresult, hstore⟩ := runOn_finish_store i answer w
  rw [hstore]
  exact attachAnswer_ok (Prod.ext (hresult.symm.trans h) rfl)

/-- A session that waits for an answer takes it for all its calls, or for those before one on an unknown mock. -/
theorem finish_error {own : Resolution} {e : MockError} (hres : (w.session i).resolution = some own)
    (h : ((finish ⟨i⟩ answer).runOn w).1 = .error e) : ((finish ⟨i⟩ answer).runOn w).2.store = w.store ∨
      ∃ done c rest links, own = done ++ c :: rest ∧
        Installs answer [] w.store done links ((finish ⟨i⟩ answer).runOn w).2.store ∧
        e = .unknown (links.apply c.matcher).target.id := by
  obtain ⟨hresult, hstore⟩ := runOn_finish_store i answer w
  rw [hstore]
  rcases attachAnswer_error (Prod.ext (hresult.symm.trans h) rfl) with ⟨-, hsame⟩ |
    ⟨done, c, rest, links, hsplit, hdone, -, he⟩
  · exact .inl hsame
  · rw [hres] at hsplit
    cases hsplit
    exact .inr ⟨done, c, rest, links, rfl, hdone, he⟩

end TestDouble.Act

namespace TestDouble.Program

/-- What is done between a statement and its answer decides what is answered. Finishing and giving up act on what the
session waits with by then; unless another block of the session has run, that is the statement's own block, or
nothing. -/
theorem finish_later {μ : Type} (i : Nat) (block : Act (Log μ) Failure Unit) (p : Program μ) (answer : Answer)
    {w w₁ w₂ : World (Log μ)} {pending : PendingAnswer} {r : Except Failure Value}
    (h : (Act.every i block).runOn w = (.ok pending, w₁)) (hp : p.run.runOn w₁ = (r, w₂)) :
    let finished := (Act.finish pending answer).runOn w₂
    let dropped := (Act.abandon pending).runOn w₂
    ∃ rounds own new, Act.Awaits i block w w₁ rounds own ∧ w₂.memory.moments = new ++ w₁.memory.moments ∧
      ((w₂.session i).phase ≠ .awaitingAnswer →
        (∃ e, finished.1 = .error e) ∧ finished.2.store = w₂.store ∧ dropped.2 = w₂) ∧
      ((w₂.session i).phase = .awaitingAnswer → dropped.2 = w₂.modifySession i Session.cleared) ∧
      (finished.1 = .ok () → ∃ res links, (w₂.session i).resolution = some res ∧
        Installs answer [] w₂.store res links finished.2.store) ∧
      ((∀ m ∈ new, m.running.count i ≤ w₁.memory.running.count i) →
        ((w₂.session i).phase = .awaitingAnswer → (w₂.session i).resolution = some own) ∧
        (finished.1 = .ok () → ∃ links, Installs answer [] w₂.store own links finished.2.store) ∧
        ∀ e, finished.1 = .error e → finished.2.store = w₂.store ∨ ∃ done c rest links, own = done ++ c :: rest ∧
          Installs answer [] w₂.store done links finished.2.store ∧ e = .unknown (links.apply c.matcher).target.id) := by
  intro finished dropped
  obtain ⟨rfl, rounds, own, hawaits⟩ := (Act.every_awaits w).ok h
  have hleads := (p.run_leads i w₁ w₁ (.refl w₁)).world
  rw [hp] at hleads
  obtain ⟨new, hobs⟩ := hleads
  have hdropped : dropped.2 = if (w₂.session i).phase = .awaitingAnswer then w₂.modifySession i Session.cleared else w₂ :=
    congrArg Prod.snd (Act.runOn_abandon w₂)
  refine ⟨rounds, own, new, hawaits, hobs.moments, fun hp => ?_, fun hp => ?_, fun hok => ?_, fun hnew => ?_⟩
  · obtain ⟨herror, hstore⟩ := Act.finish_of_not_awaiting answer hp
    exact ⟨herror, hstore, by rw [hdropped, if_neg hp]⟩
  · rw [hdropped, if_pos hp]
  · exact (Act.finish_ok hok).2
  · have hown : (w₂.session i).phase = .awaitingAnswer → (w₂.session i).resolution = some own := by
      intro hp
      rcases hobs.pending hp with ⟨-, hres⟩ | ⟨m, hm, hcount⟩
      · rw [hres, hawaits.resolution]
      · exact absurd (hnew m hm) (Nat.not_le.mpr hcount)
    refine ⟨hown, fun hok => ?_, fun e herror => ?_⟩
    · obtain ⟨hp, res, links, hres, hinst⟩ := Act.finish_ok hok
      rw [hown hp] at hres
      cases hres
      exact ⟨links, hinst⟩
    · by_cases hp : (w₂.session i).phase = .awaitingAnswer
      · exact Act.finish_error (hown hp) herror
      · exact .inl (Act.finish_of_not_awaiting answer hp).2

/-- The block of the statement that is to wait. -/
def doubled : Act (Log Unit) Failure Unit := Act.inBlock 0 (double 0 1 (done (.ok .unit))).run

/-- In the meantime a statement of another session gets its answer. -/
def meanwhile : Program Unit :=
  openSession fun j => statement j .every (double j 2 (done (.ok .unit))) fun _ =>
    command j (.finish (.constant (.int 4))) fun _ => done (.ok .unit)

/-- In the meantime the session drops its statement, and records another block. -/
def instead : Program Unit :=
  command 0 .reset fun _ => command 0 .beginStubbing fun _ =>
    statement 0 .runRecordedBlock (double 0 2 (done (.ok .unit))) fun _ => done (.ok .unit)

/-- The world after a statement, and after what is done until it gets its answer. -/
def waiting (p : Program Unit) : World (Log Unit) :=
  (p.run.runOn ((Act.every 0 doubled).runOn calculator).2).2

/-- Both statements get their answers. -/
theorem finish_later_meanwhile : ∃ rounds own links,
    Act.Awaits 0 doubled calculator ((Act.every 0 doubled).runOn calculator).2 rounds own ∧
      Installs (.constant (.int 2)) [] (waiting meanwhile).store own links
        ((Act.finish ⟨0⟩ (.constant (.int 2))).runOn (waiting meanwhile)).2.store ∧
      (((Act.finish ⟨0⟩ (.constant (.int 2))).runOn (waiting meanwhile)).2.store.registry.stub? 1).map (·.registered) =
        some ["Calculator#1.add(eq(2), eq(2))", "Calculator#1.add(eq(1), eq(1))"] := by
  have hevery : ((Act.every 0 doubled).runOn calculator).1.isOk = true := by decide +kernel
  have hfinished : ((Act.finish ⟨0⟩ (.constant (.int 2))).runOn (waiting meanwhile)).1.isOk = true := by decide +kernel
  have hlength : (waiting meanwhile).memory.moments.length =
      7 + ((Act.every 0 doubled).runOn calculator).2.memory.moments.length := by decide +kernel
  have hothers : (((waiting meanwhile).memory.moments.take 7).all fun m => m.running.count 0 == 0) = true := by
    decide +kernel
  have hregistered : (((Act.finish ⟨0⟩ (.constant (.int 2))).runOn (waiting meanwhile)).2.store.registry.stub? 1).map
      (·.registered) = some ["Calculator#1.add(eq(2), eq(2))", "Calculator#1.add(eq(1), eq(1))"] := by decide +kernel
  rcases hrun : (Act.every 0 doubled).runOn calculator with ⟨e | pending, w₁⟩
  · rw [hrun] at hevery; cases hevery
  · obtain ⟨rfl, -⟩ := (Act.every_awaits calculator).ok hrun
    rcases hp : meanwhile.run.runOn w₁ with ⟨r, w₂⟩
    have hwaiting : waiting meanwhile = w₂ := by rw [waiting, hrun, hp]
    rw [hwaiting, hrun] at hlength
    rw [hwaiting] at hfinished hothers hregistered ⊢
    obtain ⟨rounds, own, new, hawaits, hmoments, -, -, -, hown⟩ :=
      finish_later 0 doubled meanwhile (.constant (.int 2)) hrun hp
    have hnew : new.length = 7 := by
      rw [hmoments, List.length_append] at hlength
      exact Nat.add_right_cancel hlength
    have hsame : new = w₂.memory.moments.take 7 := by rw [hmoments, ← hnew, List.take_left]
    obtain ⟨-, hok, -⟩ := hown fun m hm => by
      have hcount := List.all_eq_true.mp hothers m (hsame ▸ hm)
      rw [beq_iff_eq.mp hcount]
      exact Nat.zero_le _
    cases hend : ((Act.finish ⟨0⟩ (.constant (.int 2))).runOn w₂).1 with
    | error e => rw [hend] at hfinished; cases hfinished
    | ok _ =>
        obtain ⟨links, hinst⟩ := hok hend
        exact ⟨rounds, own, links, hawaits, hinst, hregistered⟩

/-- The first statement is answered with the calls of the later one; given up, it takes the later one away. -/
theorem finish_later_instead :
    let w₁ := ((Act.every 0 doubled).runOn calculator).2
    let finished := (Act.finish ⟨0⟩ (.constant (.int 5))).runOn (waiting instead)
    let dropped := (Act.abandon ⟨0⟩).runOn (waiting instead)
    ((Act.every 0 doubled).runOn calculator).1.isOk = true ∧
      (w₁.session 0).resolution.map (·.matchers.map CallMatcher.text) = some ["Calculator#1.add(eq(1), eq(1))"] ∧
      ((waiting instead).session 0).phase = .awaitingAnswer ∧
      ((waiting instead).session 0).resolution.map (·.matchers.map CallMatcher.text) =
        some ["Calculator#1.add(eq(2), eq(2))"] ∧
      finished.1.isOk = true ∧
      (finished.2.store.registry.stub? 1).map (·.registered) = some ["Calculator#1.add(eq(2), eq(2))"] ∧
      (dropped.2.session 0).phase = .answering ∧ (dropped.2.session 0).resolution.isNone = true := by
  decide +kernel

end TestDouble.Program
