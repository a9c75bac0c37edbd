import TestDouble.Proofs.Session.ExampleRounds
import TestDouble.Proofs.Session.Stubbing

/-!
# Stubbing a call by example

A statement by example is recorded without fail, and its answer becomes the newest entry of the mock.
-/

namespace TestDouble

namespace CallExample

variable {σ : Type} {w : World σ} {i : Nat} {e : CallExample}

/-- The rounds that the block would make here tell literals from stand-ins. -/
def DrawsApart (e : CallExample) (i : Nat) (phase : Phase) (w : World σ) : Prop :=
  ∀ rounds w', (Act.recordRounds i (e.block i) phase).runOn w = (.ok rounds, w') → ∀ r ∈ rounds, e.ToldApart r

/-- A session that is ready to record a block, under settings that ask for more than one round. -/
structure Ready (w : World σ) (i : Nat) (phase : Phase) : Prop where
  inRange : i < w.sessions.length
  phase : (w.session i).phase = phase
  resolution : (w.session i).resolution = none
  round : (w.session i).round = none
  notCalled : (w.session i).notCalled = []
  least : 2 ≤ w.settings.minRounds
  most : w.settings.minRounds ≤ w.settings.maxRounds

/-- An idle session, under settings that ask for more than one round. -/
structure Listening (w : World σ) (i : Nat) : Prop where
  inRange : i < w.sessions.length
  idle : (w.session i).Idle
  least : 2 ≤ w.settings.minRounds
  most : w.settings.minRounds ≤ w.settings.maxRounds

/-- To begin a statement only a phase has to be entered. -/
theorem Listening.ready (h : Listening w i) (request : Option Request) (phase : Phase) :
    Ready (w.modifySession i fun x => { x with request, phase }) i phase := by
  have hs := World.session_modifySession_self (f := fun x => { x with request, phase }) h.inRange
  refine ⟨?_, ?_, ?_, ?_, ?_, h.least, h.most⟩
  · rw [World.length_modifySession]; exact h.inRange
  · rw [hs]
  · rw [hs]; exact h.idle.resolution
  · rw [hs]; exact h.idle.round
  · rw [hs]; exact h.idle.notCalled

theorem Listening.runOn_beginStubbing (h : Listening w i) : (Act.beginStubbing i).runOn w =
    (.ok (), w.modifySession i fun x => { x with request := none, phase := .stubbing }) :=
  Act.runOn_beginStubbing h.idle

theorem Listening.runOn_beginVerification (h : Listening w i) (r : Request) : (Act.beginVerification i r).runOn w =
    (.ok (), w.modifySession i fun x => { x with request := some r, phase := .verifying }) := by
  rw [Act.beginVerification, Act.runOn_bind_ok (Act.runOn_expectPhase h.idle.phase rfl), Act.runOn_modifySession]

/-- Where every matcher stands for a flag there is nothing to tell apart. -/
theorem drawsApart_of_flags {phase : Phase} (hr : Ready w i phase)
    (hf : ∀ m shape, .matcher m shape ∈ e.args → shape.isDistinguishable = false) : e.DrawsApart i phase w := by
  intro rounds w' hrun r hmem reg hreg hd v _
  obtain ⟨rounds', g, s, hrun', -, hall, -⟩ := exists_recordRounds hr.inRange e phase hr.least hr.most
    (w.session i).generator w.store
  rw [World.inRound_self hr.round hr.notCalled, hrun] at hrun'
  cases hrun'
  obtain ⟨k, hk⟩ := List.getElem?_of_mem hmem
  obtain ⟨j, hj⟩ := List.getElem?_of_mem hreg
  obtain ⟨t, -, -, m, shape, harg, hstands⟩ := (hall k r hk).valueAt?_place hj
  rw [hstands.distinguishable, hf m shape (List.mem_of_getElem? harg)] at hd
  cases hd

theorem exists_recordBlock {phase : Phase} (hr : Ready w i phase) (hp : e.Plain) (hd : e.DrawsApart i phase w) :
    ∃ v g s, (Act.recordBlock i (e.block i) phase).runOn w =
      (.ok [⟨e.matcher, v, none, false⟩], w.inRound i none g s) ∧ w.store.Spent s := by
  obtain ⟨rounds, g, s, hrun, hlen, hall, hs⟩ := exists_recordRounds hr.inRange e phase hr.least hr.most
    (w.session i).generator w.store
  rw [World.inRound_self hr.round hr.notCalled] at hrun
  have hzero : rounds[0]? = some rounds[0] := List.getElem?_eq_getElem (by omega)
  have hone : rounds[1]? = some rounds[1] := List.getElem?_eq_getElem (by omega)
  have hrecords : e.Records rounds :=
    { written := fun r hr => by
        obtain ⟨k, hk⟩ := List.getElem?_of_mem hr
        exact ⟨k, hall k r hk⟩
      even := ⟨_, List.mem_of_getElem? hzero, hall 0 _ hzero, hd rounds _ hrun _ (List.mem_of_getElem? hzero)⟩
      odd := ⟨_, List.mem_of_getElem? hone, hall 1 _ hone⟩ }
  obtain ⟨v, hres⟩ := hrecords.resolved hp phase
  refine ⟨v, g, s, ?_, hs⟩
  exact Act.runOn_recordBlock hrun hres (List.cons_ne_nil _ _)

theorem exists_runRecordedBlock {phase : Phase} (hr : Ready w i phase) (hp : e.Plain) (hd : e.DrawsApart i phase w)
    (hphase : phase = .stubbing ∨ phase = .verifying) : ∃ v g s,
      (Act.runRecordedBlock i (e.block i)).runOn w = (.ok (), (w.inRound i none g s).modifySession i fun x =>
        { x with
          resolution := some [⟨e.matcher, v, none, false⟩]
          phase := if phase = .stubbing then .awaitingAnswer else x.phase }) ∧ w.store.Spent s := by
  obtain ⟨v, g, s, hrun, hs⟩ := exists_recordBlock hr hp hd
  exact ⟨v, g, s, Act.runOn_runRecordedBlock hr.phase hphase hr.resolution hrun, hs⟩

/-! ## The answer -/

/-- A single call that is no link only adds an entry. -/
theorem installs {m : CallMatcher} {s : Store} {stub : Stub} (hstub : s.registry.stub? m.target.id = some stub)
    (answer : Answer) (v : Value) : Installs answer [] s [⟨m, v, none, false⟩] []
      (s.modify m.target.id (·.addAnswer m answer)) := by
  have hcall : s.installCall answer [] ⟨m, v, none, false⟩ stub = ([], s.modify m.target.id (·.addAnswer m answer)) := by
    rw [Store.installCall, ← Registry.id_of_stub? hstub]
    rfl
  refine .cons hstub ?_
  rw [hcall]
  exact .nil _ _

/-- The statement that gives the described calls an answer. -/
def stubbing (e : CallExample) (i : Nat) (answer : Answer) : Act σ MockError Unit := do
  let pending ← Act.every i (e.block i)
  Act.finish pending answer

/-- The statement succeeds: the answer is the newest entry of the mock. -/
theorem exists_stubbing {stub : Stub} (h : Listening w i) (hp : e.Plain)
    (hstub : w.store.registry.stub? e.target.id = some stub) (answer : Answer)
    (hd : e.DrawsApart i .stubbing ((Act.beginStubbing i).runOn w).2) : ∃ g s,
      (e.stubbing i answer).runOn w =
        (.ok (), w.inRound i none g (s.modify e.target.id (·.addAnswer e.matcher answer))) ∧ w.store.Spent s := by
  rw [h.runOn_beginStubbing] at hd
  obtain ⟨r, g, s, hrun, hspent⟩ := exists_recordBlock (h.ready none .stubbing) hp hd
  refine ⟨g, s, ?_, hspent⟩
  have hstub' : s.registry.stub? e.matcher.target.id = some stub := by rw [hspent.registry]; exact hstub
  exact Act.runOn_stubbing h.inRange h.idle hrun (installs hstub' answer r)

end CallExample

end TestDouble
