import TestDouble.Proofs.Session.Disturbed
import TestDouble.Proofs.Session.Halfway
import TestDouble.Proofs.Session.RecordingOnly
import TestDouble.Proofs.Session.Verifying

/-!
# Statements that leave mocks alone

A statement whose block only records leaves all mocks as they were when it is given up, when it verifies and when it
fails. Only a verification that passes flags the calls that it has matched.
-/

namespace TestDouble

namespace Act

variable {μ : Type} {i : Nat} {p : Program μ}

theorem every_leaves (hp : p.OnlyRecords i false) (w : World (Log μ)) : (every i (inBlock i p.run)).Ensures w
    (fun pending w' => pending = ⟨i⟩ ∧ w.store.Spent w'.store) fun _ w' => w.store.Spent w'.store := by
  refine .bind (.bind (expectPhase_ensures (fun _ => .modifySession ?_) fun _ => .refl _))
  have hrun := runRecordedBlock_leaves (w.modifySession i fun s => { s with phase := .stubbing }) fun _ =>
    inBlock_inPass (p.run_inPass hp nofun)
  exact .bind (hrun.mono (fun _ _ h => .pure ⟨rfl, h.1⟩) fun _ _ h => h)

/-- A statement that is given up leaves the mocks alone. -/
theorem abandoned_leaves (hp : p.OnlyRecords i false) (w : World (Log μ)) :
    (every i (inBlock i p.run) >>= abandon).Ensures w (fun _ w' => w.store.Spent w'.store)
      fun _ w' => w.store.Spent w'.store := by
  refine .bind ((every_leaves hp w).mono (fun pending w₁ h => ?_) fun _ _ h => h)
  obtain ⟨rfl, hspent⟩ := h
  exact abandon_ensures (fun _ => hspent) hspent

theorem finalizeVerification_leaves {w : World (Log μ)} {r : Request} {res : Resolution} (hres : res.Pure)
    (hphase : (w.session i).phase = .verifying) (hrequest : (w.session i).request = some r)
    (hresolution : (w.session i).resolution = some res) : (finalizeVerification i).Ensures w
      (fun report w' => ∃ expected notCalled mocks matched, mocks ⊆ Verification.targets (expected ++ notCalled) ∧
        Verification.verifyWith r expected notCalled (mergedLog w.store r mocks) = .done (.passed matched) ∧
        report = .of r (.passed matched) (expected ++ notCalled) (mergedLog w.store r mocks) ∧
        (∀ n ∈ matched, ∃ c ∈ mergedLog w.store r mocks, c.sequence = n) ∧
        w'.store = w.store.marked mocks matched)
      fun _ w' => w'.store = w.store := by
  refine .bind (.of_ok (runOn_takeVerification hphase hresolution) ?_)
  rw [hrequest]
  refine .bind ((evaluate_ensures _ hres _).mono (fun report w' h => ?_) fun _ _ h => by rw [h]; rfl)
  obtain ⟨expected, notCalled, mocks, outcome, hmocks, hverify, hmatches, hreport, rfl⟩ := h
  subst hreport
  cases outcome with
  | passed matched => exact .pure ⟨expected, notCalled, mocks, matched, hmocks, hverify, rfl, hmatches, rfl⟩
  | failed reason => exact .throw (Store.marked_nil _ mocks)

/-- The block of a verification is recorded as a pure one, and the mocks stay as they were. -/
theorem beginVerification_records (r : Request) (hp : p.OnlyRecords i true) (w : World (Log μ)) :
    (beginVerification i r >>= fun _ => runRecordedBlock i (inBlock i p.run)).Ensures w
      (fun _ w₁ => w.store.Spent w₁.store ∧ (w₁.session i).phase = .verifying ∧ (w₁.session i).request = some r ∧
        ∃ res : Resolution, res.Pure ∧ (w₁.session i).resolution = some res)
      fun _ w₁ => w.store.Spent w₁.store := by
  refine .bind (.bind (expectPhase_ensures (fun _ => .modifySession ?_) fun _ => .refl _))
  generalize hw₁ : (w.modifySession i fun s => { s with request := some r, phase := .verifying }) = w₁
  have hstarted : (w₁.session i).phase ≠ .answering →
      (w₁.session i).phase = .verifying ∧ (w₁.session i).request = some r := by
    intro hphase
    have hi : i < w.sessions.length := by
      refine Nat.lt_of_not_le fun hle => hphase ?_
      rw [World.session_of_le (by rw [← hw₁, World.length_modifySession]; exact hle)]
      rfl
    rw [← hw₁, World.session_modifySession_self hi]
    exact ⟨rfl, rfl⟩
  have hstore : w₁.store = w.store := by rw [← hw₁]; rfl
  rw [← hstore]
  have hrun := runRecordedBlock_leaves w₁ fun hphase => inBlock_inPass (p.run_inPass hp fun _ => (hstarted hphase).1)
  refine hrun.mono (fun _ w₂ h => ?_) fun _ _ h => h
  obtain ⟨hspent, hphase, res, hres, hresolution, hrequest, hverifying⟩ := h
  obtain ⟨hphase₁, hrequest₁⟩ := hstarted hphase
  exact ⟨hspent, hverifying hphase₁, hrequest.trans hrequest₁, res, hres, hresolution⟩

theorem verify_leaves (r : Request) (hp : p.OnlyRecords i true) (w : World (Log μ)) :
    (verify i r (inBlock i p.run)).Ensures w
      (fun report w' => ∃ expected notCalled mocks matched, mocks ⊆ Verification.targets (expected ++ notCalled) ∧
        Verification.verifyWith r expected notCalled (mergedLog w.store r mocks) = .done (.passed matched) ∧
        report = .of r (.passed matched) (expected ++ notCalled) (mergedLog w.store r mocks) ∧
        (∀ n ∈ matched, ∃ c ∈ mergedLog w.store r mocks, c.sequence = n) ∧
        (w.store.marked mocks matched).Spent w'.store)
      fun _ w' => w.store.Spent w'.store := by
  rw [verify, ← bind_assoc]
  refine .bind ((beginVerification_records r hp w).mono (fun _ w₁ h => ?_) fun _ _ h => h)
  obtain ⟨hspent, hphase, hrequest, res, hres, hresolution⟩ := h
  refine (finalizeVerification_leaves hres hphase hrequest hresolution).mono (fun report w' h => ?_)
    fun _ w' h => h ▸ hspent
  obtain ⟨expected, notCalled, mocks, matched, hmocks, hverify, hreport, hmatched, hmarked⟩ := h
  have hlog : mergedLog w₁.store r mocks = mergedLog w.store r mocks := by rw [mergedLog, hspent.registry, ← mergedLog]
  rw [hlog] at hverify hreport hmatched
  exact ⟨expected, notCalled, mocks, matched, hmocks, hverify, hreport, hmatched, hmarked ▸ hspent.marked mocks matched⟩

end Act

/-- Recording takes identities and sequence numbers from the store. Nothing else changes, unless a verification passes:
then exactly the calls that were reported as matched are flagged. -/
theorem Program.recording_leaves_alone {μ : Type} (i : Nat) (p : Program μ) (r : Request) (w : World (Log μ)) :
    let block := Act.inBlock i p.run
    let abandoned := (Act.every i block >>= Act.abandon).runOn w
    let verified := (Act.verify i r block).runOn w
    (p.OnlyRecords i false → w.store.Spent abandoned.2.store) ∧
      (p.OnlyRecords i true → (∀ e, verified.1 = .error e → w.store.Spent verified.2.store) ∧
        ∀ report, verified.1 = .ok report → ∃ expected notCalled mocks matched,
          mocks ⊆ Verification.targets (expected ++ notCalled) ∧
          Verification.verifyWith r expected notCalled (Act.mergedLog w.store r mocks) = .done (.passed matched) ∧
          report = .of r (.passed matched) (expected ++ notCalled) (Act.mergedLog w.store r mocks) ∧
          (∀ n ∈ matched, ∃ c ∈ Act.mergedLog w.store r mocks, c.sequence = n) ∧
          (w.store.marked mocks matched).Spent verified.2.store ∧
          (w.store.NumbersApart → w.store.marked mocks matched =
            { w.store with registry := ⟨w.store.registry.stubs.map (·.markVerified matched)⟩ })) := by
  intro block abandoned verified
  refine ⟨fun hp => (Act.abandoned_leaves hp w).world, fun hp => ⟨fun e he => ?_, fun report hreport => ?_⟩⟩
  · exact (Act.verify_leaves r hp w).error (Prod.ext he rfl)
  · obtain ⟨expected, notCalled, mocks, matched, hmocks, hverify, hreport, hmatched, hspent⟩ :=
      (Act.verify_leaves r hp w).ok (Prod.ext hreport rfl)
    exact ⟨expected, notCalled, mocks, matched, hmocks, hverify, hreport, hmatched, hspent,
      fun hapart => Act.marked_eq hapart hmatched⟩

namespace Program

def add : Method := { name := "add", params := [.int, .int], returns := .int }

/-- Adding two, to any number. -/
def addTwo : Program Unit :=
  command 0 (.registerMatcher .any .int) fun
    | .ok n => call 0 ⟨1, "Calculator"⟩ add [n, .int 2] fun _ => done (.ok .unit)
    | .error e => done (.error (.mock e))

theorem addTwo_onlyRecords (declares : Bool) : addTwo.OnlyRecords 0 declares := by
  refine ⟨rfl, ?_, fun r => ?_⟩
  · simp only [Command.Records, Matcher.Pure]
  · cases r with
    | ok n => exact ⟨rfl, fun _ => trivial⟩
    | error e => trivial

/-- Two has been added once, and three once. -/
def usedCalculator : World (Log Unit) where
  store :=
    { registry := ⟨[{ object := ⟨1, "Calculator"⟩, kind := .strict
                      log := [{ call := ⟨⟨1, "Calculator"⟩, add, [.int 1, .int 2], 1, none⟩ },
                        { call := ⟨⟨1, "Calculator"⟩, add, [.int 1, .int 3], 2, none⟩ }] }]⟩
      nextObject := 2
      nextSequence := 3 }
  sessions := [{ generator := .ofSeed none }]
  memory := { memory := () }

/-- To verify that two was added twice fails; to verify that it was added flags one call. -/
theorem recording_leaves_alone_addTwo :
    let block := Act.inBlock 0 addTwo.run
    let verified := (Act.verify 0 {} block).runOn usedCalculator
    usedCalculator.store.Spent ((Act.every 0 block >>= Act.abandon).runOn usedCalculator).2.store ∧
      usedCalculator.store.Spent ((Act.verify 0 (({} : Request).times 2) block).runOn usedCalculator).2.store ∧
      (∃ mocks matched, (usedCalculator.store.marked mocks matched).Spent verified.2.store) ∧
      (verified.2.store.registry.stub? 1).map (·.log.map (·.verified)) = some [true, false] := by
  have hfails : ((Act.verify 0 (({} : Request).times 2) (Act.inBlock 0 addTwo.run)).runOn usedCalculator).1.isOk =
      false := by decide +kernel
  have hpasses : ((Act.verify 0 {} (Act.inBlock 0 addTwo.run)).runOn usedCalculator).1.isOk = true := by
    decide +kernel
  refine ⟨(recording_leaves_alone 0 addTwo {} usedCalculator).1 (addTwo_onlyRecords false), ?_, ?_, by decide +kernel⟩
  · obtain ⟨herror, -⟩ :=
      (recording_leaves_alone 0 addTwo (({} : Request).times 2) usedCalculator).2 (addTwo_onlyRecords true)
    cases hresult : ((Act.verify 0 (({} : Request).times 2) (Act.inBlock 0 addTwo.run)).runOn usedCalculator).1 with
    | error e => exact herror e hresult
    | ok _ => rw [hresult] at hfails; cases hfails
  · obtain ⟨-, hok⟩ := (recording_leaves_alone 0 addTwo {} usedCalculator).2 (addTwo_onlyRecords true)
    cases hresult : ((Act.verify 0 {} (Act.inBlock 0 addTwo.run)).runOn usedCalculator).1 with
    | error e => rw [hresult] at hpasses; cases hpasses
    | ok report =>
        obtain ⟨expected, notCalled, mocks, matched, -, -, -, -, hspent, -⟩ := hok report hresult
        exact ⟨mocks, matched, hspent⟩

end Program

end TestDouble
