import TestDouble.Proofs.Session.ExampleAnswered
import TestDouble.Proofs.Session.Expecting

/-!
# Verifying calls by example

A verification by example counts the logged calls that were described. With the statement that stubs and the
calls in between this gives the meaning of a call by example.
-/

namespace TestDouble

namespace CallExample

variable {σ : Type} {w : World σ} {i : Nat} {e : CallExample} {v : Value} {stub : Stub} {logged : List Call}

theorem Serves.visible {s : Store} (h : e.Serves v s stub logged) : stub.visible = logged := by
  rw [Stub.visible, h.log]
  simp [List.filter_map, Function.comp_def]

/-- The verification passes if the described calls were made as often as demanded. -/
theorem Serves.verify (h : e.Serves v w.store stub logged) (hl : Listening w i) (hp : e.Plain) (k : Nat)
    (hd : e.DrawsApart i .verifying ((Act.beginVerification i (({} : Request).times k)).runOn w).2) :
    ∃ report w', (Act.verify i (({} : Request).times k) (e.block i)).runOn w =
      (if k = logged.countP e.matcher.accepts then .ok report else .error (.verificationFailed report), w') := by
  have hbegin := hl.runOn_beginVerification (({} : Request).times k)
  rw [hbegin] at hd
  have hready := hl.ready (some (({} : Request).times k)) .verifying
  have hs₁ := World.session_modifySession_self (w := w)
    (f := fun x => { x with request := some (({} : Request).times k), phase := .verifying }) hl.inRange
  have hstore : (w.modifySession i fun x =>
    { x with request := some (({} : Request).times k), phase := .verifying }).store = w.store := rfl
  generalize (w.modifySession i fun x =>
    { x with request := some (({} : Request).times k), phase := .verifying }) = w₁ at *
  obtain ⟨r, g, s, hrun, hspent⟩ := exists_runRecordedBlock hready hp hd (.inr rfl)
  rw [hstore] at hspent
  generalize hw₂ : ((w₁.inRound i none g s).modifySession i fun x => { x with
    resolution := some [⟨e.matcher, r, none, false⟩]
    phase := if Phase.verifying = .stubbing then .awaitingAnswer else x.phase }) = w₂ at *
  have hs₂ : w₂.session i = { w.session i with
      phase := .verifying, request := some (({} : Request).times k), notCalled := [], round := none, generator := g
      resolution := some [⟨e.matcher, r, none, false⟩] } := by
    rw [← hw₂, World.session_modifySession_self (by rw [World.inRound]; simpa using hready.inRange),
      World.session_inRound hready.inRange, hs₁]
    rfl
  have hserves : e.Serves v w₂.store stub logged := by
    refine h.of_registry (Eq.trans ?_ hspent.registry)
    rw [← hw₂]
    rfl
  have hexpects : Act.Expects i w₂ (({} : Request).times k) [⟨e.matcher, r, none, false⟩] e.matcher := by
    refine ⟨?_, ?_, ?_, ?_, rfl, rfl, rfl, hp.pureEach⟩ <;> rw [hs₂]
  have hmocks : Act.examined w₂ [⟨e.matcher, r, none, false⟩] e.matcher = [e.target.id] := rfl
  obtain ⟨report, hpassed, -, hfinal⟩ := hexpects.judged fun mock hmock => by
    rw [hmocks] at hmock
    cases List.mem_singleton.mp hmock
    rw [hserves.found]
    rfl
  have hcount : report.passed = (k == logged.countP e.matcher.accepts) := by
    rw [hpassed, hmocks, CallMatcher.admits_eq_accepts hp.isNotCalled, Act.countP_mergedLog hserves.found,
      hserves.visible, Verification.countSuits, hp.isNotCalled]
    exact BEq.comm
  refine ⟨report, ((Act.finalizeVerification i).runOn w₂).2, ?_⟩
  rw [Act.verify, Act.runOn_bind_ok hbegin, Act.runOn_bind_ok hrun]
  refine Prod.ext (hfinal.trans ?_) rfl
  rw [hcount]
  by_cases hk : k = logged.countP e.matcher.accepts <;> simp [hk]

theorem Listening.inRound (h : Listening w i) (g : Generator) (s : Store) : Listening (w.inRound i none g s) i := by
  have hs : (w.inRound i none g s).session i = _ := World.session_inRound h.inRange
  refine ⟨?_, ?_, h.least, h.most⟩
  · rw [World.inRound]; simpa using h.inRange
  · rw [hs]; exact ⟨h.idle.phase, h.idle.request, h.idle.resolution, rfl, rfl⟩

theorem Quiet.inRound {j : Nat} (h : e.Quiet w j) (i : Nat) (g : Generator) (s : Store) :
    e.Quiet (w.inRound i none g s) j := by
  have hs : (w.inRound i none g s).session j = if i = j ∧ i < w.sessions.length then
      { w.session j with notCalled := [], round := none, generator := g } else w.session j :=
    World.session_modifySession w i j _
  refine ⟨?_, ?_⟩
  · rw [hs]
    split
    · rfl
    · exact h.round
  · rw [hs]
    split
    · exact h.logs
    · exact h.logs

/-- Statements by example mean what was written. On a fresh strict mock the described calls are answered, all other
calls are refused, and exactly the described ones are counted. -/
theorem stubbed_and_verified (hl : Listening w i) (hp : e.Plain)
    (hstub : w.store.registry.stub? e.target.id = some stub)
    (hkind : stub.kind = .strict) (hentries : stub.entries = []) (hlog : stub.log = []) (v : Value)
    (hd : e.DrawsApart i .stubbing ((Act.beginStubbing i).runOn w).2) :
    ∃ w₁, (e.stubbing i (.constant v)).runOn w = (.ok (), w₁) ∧
      ∀ calls : List (RealCall σ), (∀ c ∈ calls, e.Quiet w c.session) →
        ∃ results w₂, (e.makeCalls calls).runOn w₁ = (.ok results, w₂) ∧
          List.Forall₂ (fun c r => e.Answered v c.args r) calls results ∧ Listening w₂ i ∧
          ∀ k, e.DrawsApart i .verifying ((Act.beginVerification i (({} : Request).times k)).runOn w₂).2 →
            ∃ report w₃, (Act.verify i (({} : Request).times k) (e.block i)).runOn w₂ =
              (if k = calls.countP (fun c => e.accepts c.args) then .ok report else .error (.verificationFailed report),
                w₃) := by
  obtain ⟨g, s, hstubbing, hspent⟩ := exists_stubbing hl hp hstub (.constant v) hd
  have hserves : e.Serves v (s.modify e.target.id (·.addAnswer e.matcher (.constant v)))
      (stub.addAnswer e.matcher (.constant v)) [] :=
    { found := Store.stub?_modify (by rw [hspent.registry]; exact hstub) fun _ => rfl
      kind := hkind
      entries := ⟨stub.nextEntry, 0, by rw [Stub.addAnswer, hentries]; rfl⟩
      log := hlog }
  refine ⟨_, hstubbing, fun calls hq => ?_⟩
  have hl₁ : Listening (w.inRound i none g (s.modify e.target.id (·.addAnswer e.matcher (.constant v)))) i :=
    hl.inRound g _
  have hq₁ : ∀ c ∈ calls, e.Quiet (w.inRound i none g (s.modify e.target.id (·.addAnswer e.matcher (.constant v))))
      c.session := fun c hc => (hq c hc).inRound i g _
  generalize hw₁ : w.inRound i none g (s.modify e.target.id (·.addAnswer e.matcher (.constant v))) = w₁ at *
  obtain ⟨results, s₂, stub', logged, hcalls, hall, hserves', hcount⟩ :=
    (show e.Serves v w₁.store _ [] by rw [← hw₁]; exact hserves).makeCalls hp calls hq₁
  have hl₂ : Listening { w₁ with store := s₂ } i := ⟨hl₁.inRange, hl₁.idle, hl₁.least, hl₁.most⟩
  refine ⟨results, { w₁ with store := s₂ }, hcalls, hall, hl₂, fun k hd' => ?_⟩
  rw [← hcount]
  exact Serves.verify (w := { w₁ with store := s₂ }) hserves' hl₂ hp k hd'

/-- A flag that is matched, next to an equal flag and a number. -/
def switchExample : CallExample where
  target := ⟨1, "Switch"⟩
  method := { name := "set", params := [.bool, .bool, .int], returns := .int }
  args := [.literal (.bool true), .matcher .any .bool, .literal (.int 7)]

/-- A world with one strict mock and one session. -/
def switchWorld : World Unit where
  store := { registry := ⟨[{ object := ⟨1, "Switch"⟩, kind := .strict }]⟩, nextObject := 2 }
  sessions := [{ generator := .ofSeed none }]
  memory := ()

theorem switchExample_plain : switchExample.Plain where
  noVararg := rfl
  args a ha := by
    simp only [switchExample, List.mem_cons, List.not_mem_nil, or_false] at ha
    rcases ha with rfl | rfl | rfl
    · trivial
    · exact ⟨by simp only [Matcher.Pure], by simp, by simp⟩
    · trivial

theorem switchWorld_listening : Listening switchWorld 0 :=
  ⟨by decide, ⟨rfl, rfl, rfl, rfl, rfl⟩, by decide, by decide⟩

theorem switchExample_drawsApart {w : World Unit} {phase : Phase} (h : Ready w 0 phase) :
    switchExample.DrawsApart 0 phase w := by
  refine drawsApart_of_flags h fun m shape harg => ?_
  simp only [switchExample, List.mem_cons, Argument.matcher.injEq, List.not_mem_nil, or_false, reduceCtorEq,
    false_or] at harg
  rw [harg.2]
  rfl

theorem stubbed_and_verified_switch :
    ∃ w₁, (switchExample.stubbing 0 (.constant (.int 5))).runOn switchWorld = (.ok (), w₁) ∧
      ∀ calls : List (RealCall Unit), (∀ c ∈ calls, switchExample.Quiet switchWorld c.session) →
        ∃ results w₂, (switchExample.makeCalls calls).runOn w₁ = (.ok results, w₂) ∧
          List.Forall₂ (fun c r => switchExample.Answered (.int 5) c.args r) calls results ∧
          ∀ k, ∃ report w₃, (Act.verify 0 (({} : Request).times k) (switchExample.block 0)).runOn w₂ =
            (if k = calls.countP (fun c => switchExample.accepts c.args) then .ok report
              else .error (.verificationFailed report), w₃) := by
  have hd : switchExample.DrawsApart 0 .stubbing ((Act.beginStubbing 0).runOn switchWorld).2 := by
    rw [switchWorld_listening.runOn_beginStubbing]
    exact switchExample_drawsApart (switchWorld_listening.ready none .stubbing)
  obtain ⟨w₁, hrun, hcalls⟩ :=
    stubbed_and_verified switchWorld_listening switchExample_plain rfl rfl rfl rfl (.int 5) hd
  refine ⟨w₁, hrun, fun calls hq => ?_⟩
  obtain ⟨results, w₂, hmake, hall, hl, hverify⟩ := hcalls calls hq
  refine ⟨results, w₂, hmake, hall, fun k => hverify k ?_⟩
  rw [hl.runOn_beginVerification]
  exact switchExample_drawsApart (hl.ready _ .verifying)

end CallExample

end TestDouble
