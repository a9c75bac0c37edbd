import TestDouble.Proofs.Session.Stubbing
import TestDouble.Proofs.Store

/-!
# Statements that fail halfway

An answer is attached to one call after another, and logged calls are hidden for one matcher after another. At
the first mock that is not registered this ends, with what has been done so far left in place.
-/

namespace TestDouble

namespace Store

/-! ## Hidden calls -/

/-- For every logged call of a mock whether it is hidden. -/
def flags (s : Store) (mock : Nat) : Option (List Bool) :=
  (s.registry.stub? mock).map fun stub => stub.log.map (·.excluded)

def hiddenCount (s : Store) (mock : Nat) : Nat := ((s.flags mock).getD []).count true

/-- Predicates may clear answers, but never touch a log. -/
theorem log_probe {α : Type} (p : Probe α) (s : Store) (id : Nat) :
    ((s.probe p).2.registry.stub? id).map (·.log) = (s.registry.stub? id).map (·.log) := by
  refine probe_preserves (P := fun s' => (s'.registry.stub? id).map (·.log) = (s.registry.stub? id).map (·.log))
    (fun s' mock hs => ?_) (fun _ _ hs => hs) p rfl
  have hid : ∀ stub : Stub, (stub.clear .answersOnly).id = stub.id := fun _ => rfl
  rw [← hs, clearAnswers, modify]
  by_cases h : id = mock
  · subst h
    rw [Registry.stub?_modify hid, Option.map_map]
    rfl
  · rw [Registry.stub?_modify_of_ne hid h]

/-- Hiding makes no call visible. -/
theorem excluded_hide (stub : Stub) (sequences : List Nat) : (stub.hide sequences).log.map (·.excluded) =
    stub.log.map fun l => l.excluded || sequences.contains l.call.sequence := by
  rw [Stub.hide, List.map_map]
  refine List.map_congr_left fun l _ => ?_
  rw [Function.comp_apply]
  split
  case isTrue h => rw [h, Bool.or_true]
  case isFalse h => rw [Bool.eq_false_iff.mpr h, Bool.or_false]

/-- The number of calls that hiding hides is the number of flags that it sets. -/
theorem count_hide (stub : Stub) (sequences : List Nat) : ((stub.hide sequences).log.map (·.excluded)).count true =
    (stub.log.map (·.excluded)).count true + stub.hiddenBy sequences := by
  rw [excluded_hide, Stub.hiddenBy]
  induction stub.log with
  | nil => rfl
  | cons l log ih =>
      simp only [List.map_cons, List.count_cons, List.countP_cons, ih]
      cases l.excluded <;> cases sequences.contains l.call.sequence <;> simp <;> omega

/-- Hiding that hides no visible call changes nothing. -/
theorem excluded_hide_of_hiddenBy {stub : Stub} {sequences : List Nat} (h : stub.hiddenBy sequences = 0) :
    (stub.hide sequences).log.map (·.excluded) = stub.log.map (·.excluded) := by
  rw [excluded_hide]
  refine List.map_congr_left fun l hl => ?_
  have hl := List.countP_eq_zero.mp h l hl
  cases he : l.excluded
  · simpa [he] using hl
  · rfl

/-- What excluding does: the flags of other mocks stay, and the result is how many flags of the mock were set. -/
theorem flags_exclude {s : Store} {mock : Nat} {stub : Stub} (hstub : s.registry.stub? mock = some stub)
    (m : CallMatcher) : (∀ id, id ≠ mock → (s.exclude mock m).2.flags id = s.flags id) ∧
    ((s.exclude mock m).1 = 0 → (s.exclude mock m).2.flags mock = s.flags mock) ∧
    (s.exclude mock m).2.hiddenCount mock = s.hiddenCount mock + (s.exclude mock m).1 := by
  unfold exclude
  rw [hstub]
  dsimp only
  generalize hp : s.probe (Probe.filter m.test stub.visible) = probed
  have hlog := log_probe (Probe.filter m.test stub.visible) s
  rw [hp] at hlog
  have hid : ∀ x : Stub, (x.hide (probed.1.map Call.sequence)).id = x.id := fun _ => rfl
  obtain ⟨x, hx, hxlog⟩ := Option.map_eq_some_iff.mp ((hlog mock).trans (by rw [hstub, Option.map_some]))
  have hhidden := Store.stub?_modify hx hid
  have hlogs : (x.hide (probed.1.map Call.sequence)).log = (stub.hide (probed.1.map Call.sequence)).log := by
    rw [Stub.hide, Stub.hide, hxlog]
  refine ⟨fun id hne => ?_, fun hzero => ?_, ?_⟩
  · have hsame := congrArg (Option.map (List.map LoggedCall.excluded)) (hlog id)
    rw [Option.map_map, Option.map_map] at hsame
    rw [flags, modify, Registry.stub?_modify_of_ne hid hne]
    exact hsame
  · rw [flags, flags, hhidden, hstub, Option.map_some, Option.map_some, hlogs, excluded_hide_of_hiddenBy hzero]
  · rw [hiddenCount, hiddenCount, flags, flags, hhidden, hstub, Option.map_some, Option.map_some, Option.getD_some,
      Option.getD_some, hlogs, count_hide]

end Store

/-! ## Matchers, one by one -/

/-- Hiding the calls that the matchers accept leads from one store to another and hides so many calls: every
target is registered when its turn comes. -/
inductive Hides (detached : List Nat) : Store → List CallMatcher → Nat → Store → Prop where
  | nil (s : Store) : Hides detached s [] 0 s
  | skipped {s s' : Store} {m : CallMatcher} {ms : List CallMatcher} {n : Nat}
      (h : detached.contains m.target.id = true) (rest : Hides detached s ms n s') : Hides detached s (m :: ms) n s'
  | hidden {s s' : Store} {m : CallMatcher} {ms : List CallMatcher} {n : Nat} {stub : Stub}
      (h : detached.contains m.target.id = false) (hstub : s.registry.stub? m.target.id = some stub)
      (rest : Hides detached (s.exclude m.target.id m).2 ms n s') :
      Hides detached s (m :: ms) ((s.exclude m.target.id m).1 + n) s'

namespace Hides

variable {σ : Type} {detached : List Nat} {s s' : Store} {ms : List CallMatcher} {n : Nat}

/-- Hiding ends at the first mock that is not registered, if there is one. -/
theorem exists_prefix (detached : List Nat) (ms : List CallMatcher) (s : Store) : ∃ done rest n s',
    ms = done ++ rest ∧ Hides detached s done n s' ∧
      ∀ m ∈ rest.head?, detached.contains m.target.id = false ∧ s'.registry.stub? m.target.id = none := by
  induction ms generalizing s with
  | nil => exact ⟨[], [], 0, s, rfl, .nil s, by simp⟩
  | cons m ms ih =>
      cases hd : detached.contains m.target.id with
      | true =>
          obtain ⟨done, rest, n, s', rfl, hdone, hrest⟩ := ih s
          exact ⟨m :: done, rest, n, s', rfl, .skipped hd hdone, hrest⟩
      | false =>
          cases hstub : s.registry.stub? m.target.id with
          | none => exact ⟨[], m :: ms, 0, s, rfl, .nil s, fun _ hm => by cases hm; exact ⟨hd, hstub⟩⟩
          | some stub =>
              obtain ⟨done, rest, n, s', rfl, hdone, hrest⟩ := ih (s.exclude m.target.id m).2
              exact ⟨m :: done, rest, _, s', rfl, .hidden hd hstub hdone, hrest⟩

/-- Hiding goes on from where these matchers have led. -/
theorem runOn {w : World σ} (h : Hides detached w.store ms n s') (rest : List CallMatcher) :
    (Act.excludeEach detached (ms ++ rest)).runOn w =
      (((Act.excludeEach detached rest).runOn { w with store := s' }).1.map (n + ·),
        ((Act.excludeEach detached rest).runOn { w with store := s' }).2) := by
  generalize hs : w.store = s at h
  induction h generalizing w with
  | nil s =>
      subst hs
      rcases hrest : (Act.excludeEach detached rest).runOn w with ⟨_ | k, w'⟩ <;> simp [hrest, Except.map]
  | skipped hd _ ih =>
      rw [List.cons_append, Act.excludeEach, if_pos hd, ih hs]
  | @hidden s s' m ms n stub hd hstub _ ih =>
      subst hs
      rw [List.cons_append, Act.excludeEach, if_neg (by rw [hd]; exact Bool.false_ne_true),
        Act.runOn_bind_ok (Act.runOn_stub_ok hstub), Act.runOn_bind_ok (Act.runOn_onStore _ _), Act.runOn_bind, ih rfl]
      rcases (Act.excludeEach detached rest).runOn { w with store := s' } with ⟨_ | k, w'⟩
      · rfl
      · simp [Except.map, Nat.add_assoc]

theorem hiddenCount_le (h : Hides detached s ms n s') (id : Nat) : s.hiddenCount id ≤ s'.hiddenCount id := by
  induction h with
  | nil => exact Nat.le_refl _
  | skipped _ _ ih => exact ih
  | @hidden s _ m _ _ _ _ hstub _ ih =>
      obtain ⟨hother, -, hcount⟩ := Store.flags_exclude hstub m
      refine Nat.le_trans ?_ ih
      by_cases hid : id = m.target.id
      · rw [hid, hcount]
        exact Nat.le_add_right _ _
      · exact Nat.le_of_eq (by rw [Store.hiddenCount, Store.hiddenCount, hother id hid])

/-- The flags stay as they are exactly if no call is hidden. -/
theorem unchanged_iff (h : Hides detached s ms n s') : (∀ id, s'.flags id = s.flags id) ↔ n = 0 := by
  induction h with
  | nil => exact ⟨fun _ => rfl, fun _ _ => rfl⟩
  | skipped _ _ ih => exact ih
  | @hidden s s' m _ n _ _ hstub rest ih =>
      obtain ⟨hother, hsame, hcount⟩ := Store.flags_exclude hstub m
      rw [Nat.add_eq_zero_iff]
      have hstep : (s.exclude m.target.id m).1 = 0 → ∀ id, (s.exclude m.target.id m).2.flags id = s.flags id := by
        intro hzero id
        by_cases hid : id = m.target.id
        · rw [hid, hsame hzero]
        · exact hother id hid
      refine ⟨fun hflags => ?_, fun ⟨hzero, hn⟩ id => (ih.mpr hn id).trans (hstep hzero id)⟩
      -- A flag that was set is still set at the end.
      have hle := rest.hiddenCount_le m.target.id
      have hend : s'.hiddenCount m.target.id = s.hiddenCount m.target.id := by
        rw [Store.hiddenCount, hflags, Store.hiddenCount]
      have hzero : (s.exclude m.target.id m).1 = 0 := by omega
      exact ⟨hzero, ih.mp fun id => (hflags id).trans (hstep hzero id).symm⟩

end Hides

/-! ## Failing -/

namespace Act

variable {σ : Type} {w w' : World σ} {i : Nat}

/-- An answer is attached to the calls that come before the first one on a mock that is not registered. -/
theorem attachAnswer_error {answer : Answer} {e : MockError} (h : (attachAnswer i answer).runOn w = (.error e, w')) :
    (((w.session i).phase ≠ .awaitingAnswer ∨ (w.session i).resolution = none) ∧ w'.store = w.store) ∨
    ∃ done c rest links, (w.session i).resolution = some (done ++ c :: rest) ∧
      Installs answer [] w.store done links w'.store ∧
      w'.store.registry.stub? (links.apply c.matcher).target.id = none ∧
      e = .unknown (links.apply c.matcher).target.id := by
  by_cases hphase : (w.session i).phase = .awaitingAnswer
  · cases hres : (w.session i).resolution with
    | none =>
        rw [attachAnswer, runOn_bind_ok (runOn_expectPhase hphase rfl), runOn_bind_ok (runOn_session i w),
          runOn_bind_ok (runOn_modifySession i _ w), hres] at h
        cases h
        exact .inl ⟨.inr rfl, rfl⟩
    | some resolution =>
        right
        obtain ⟨done, rest, links, s', rfl, hdone, hrest⟩ := Installs.exists_prefix answer [] resolution w.store
        cases rest with
        | nil =>
            rw [List.append_nil] at hres
            rw [runOn_attachAnswer hphase hres hdone] at h
            cases h
        | cons c rest =>
            have hnone := hrest c rfl
            rw [runOn_attachAnswer_unknown hphase hres hdone hnone] at h
            cases h
            exact ⟨done, c, rest, links, rfl, hdone, hnone, rfl⟩
  · have herror : (expectPhase i "attach_answer" [.awaitingAnswer]).runOn w = _ :=
      runOn_expectPhase_error (by simpa using hphase)
    rw [attachAnswer, runOn_bind_error herror] at h
    cases h
    exact .inl ⟨.inl hphase, rfl⟩

theorem runOn_excludeEach_unknown {detached : List Nat} {m : CallMatcher}
    (hd : detached.contains m.target.id = false) (hstub : w.store.registry.stub? m.target.id = none)
    (ms : List CallMatcher) : (excludeEach detached (m :: ms)).runOn w = (.error (.unknown m.target.id), w) := by
  rw [excludeEach, if_neg (by rw [hd]; exact Bool.false_ne_true)]
  refine runOn_bind_error ?_
  rw [runOn_stub, Registry.get, hstub]

theorem runOn_takeVerification {operation : String} {resolution : Resolution} (hphase : (w.session i).phase = .verifying)
    (hres : (w.session i).resolution = some resolution) : (takeVerification i operation).runOn w =
      (.ok ((w.session i).request.getD {}, resolution, (w.session i).notCalled), w.modifySession i Session.cleared) := by
  rw [takeVerification, runOn_bind_ok (runOn_session i w), hphase, hres]
  rfl

theorem runOn_takeVerification_error {operation : String}
    (h : (w.session i).phase ≠ .verifying ∨ (w.session i).resolution = none) : (takeVerification i operation).runOn w =
      (.error (.badSequence operation (w.session i).phase none), w.modifySession i Session.cleared) := by
  rw [takeVerification, runOn_bind_ok (runOn_session i w)]
  split
  case h_1 hphase hres =>
    rcases h with h | h
    · exact absurd hphase h
    · rw [hres] at h; cases h
  case h_2 => rw [runOn_fail]

/-- Calls are hidden for the matchers that come before the first one for a mock that is not registered. -/
theorem excludeRecords_error {block : Act σ Failure Unit} {e : MockError} {w₁ : World σ}
    (hrec : (beginVerification i {} >>= fun _ => runRecordedBlock i block).runOn w = (.ok (), w₁))
    (h : (excludeRecords i block).runOn w = (.error e, w')) :
    (((w₁.session i).phase ≠ .verifying ∨ (w₁.session i).resolution = none) ∧ w'.store = w₁.store) ∨
    ∃ resolution done m rest n, (w₁.session i).resolution = some resolution ∧
      (Resolution.linked w₁.store.registry [] resolution).1.matchers = done ++ m :: rest ∧
      Hides (Resolution.linked w₁.store.registry [] resolution).2 w₁.store done n w'.store ∧
      w'.store.registry.stub? m.target.id = none ∧ e = .unknown m.target.id := by
  rw [excludeRecords, ← bind_assoc, runOn_bind_ok hrec] at h
  by_cases hready : (w₁.session i).phase ≠ .verifying ∨ (w₁.session i).resolution = none
  · rw [runOn_bind_error (runOn_takeVerification_error hready)] at h
    cases h
    exact .inl ⟨hready, rfl⟩
  · have hphase : (w₁.session i).phase = .verifying := Decidable.byContradiction fun hp => hready (.inl hp)
    obtain ⟨resolution, hres⟩ := Option.ne_none_iff_exists'.mp fun hr => hready (.inr hr)
    right
    rw [runOn_bind_ok (runOn_takeVerification hphase hres), runOn_bind_ok (runOn_get _)] at h
    dsimp only [World.store_modifySession] at h
    generalize hlinked : Resolution.linked w₁.store.registry [] resolution = linked at h ⊢
    obtain ⟨done, rest, n, s', hsplit, hdone, hrest⟩ := Hides.exists_prefix linked.2 linked.1.matchers w₁.store
    have hrun := Hides.runOn (w := w₁.modifySession i Session.cleared) hdone rest
    rw [← hsplit, h] at hrun
    cases rest with
    | nil => cases hrun
    | cons m rest =>
        obtain ⟨hkept, hnone⟩ := hrest m rfl
        rw [runOn_excludeEach_unknown hkept hnone] at hrun
        cases hrun
        exact ⟨resolution, done, m, rest, n, hres, hlinked ▸ hsplit, hlinked ▸ hdone, hnone, rfl⟩

/-- A statement that fails at a mock that is not registered has been carried out up to there, and no further. An
answer that could not be attached takes nothing away; it leaves no trace exactly if only links that children stand
for came before. Calls that could not all be hidden stay as they were exactly if none was hidden before. -/
theorem failing_statements (i : Nat) (answer : Answer) (block : Act σ Failure Unit) (w w' : World σ) :
    (∀ e, (attachAnswer i answer).runOn w = (.error e, w') → w.store.Extends w'.store ∧
      ((((w.session i).phase ≠ .awaitingAnswer ∨ (w.session i).resolution = none) ∧ w'.store = w.store) ∨
      ∃ done c rest links, (w.session i).resolution = some (done ++ c :: rest) ∧
        Installs answer [] w.store done links w'.store ∧
        w'.store.registry.stub? (links.apply c.matcher).target.id = none ∧
        e = .unknown (links.apply c.matcher).target.id ∧
        (w'.store = w.store ↔ Resolution.topLevel done = [] ∧ (Resolution.linked w.store.registry [] done).2 = []))) ∧
    (∀ e w₁, (beginVerification i {} >>= fun _ => runRecordedBlock i block).runOn w = (.ok (), w₁) →
      (excludeRecords i block).runOn w = (.error e, w') →
      (((w₁.session i).phase ≠ .verifying ∨ (w₁.session i).resolution = none) ∧ w'.store = w₁.store) ∨
      ∃ resolution done m rest n, (w₁.session i).resolution = some resolution ∧
        (Resolution.linked w₁.store.registry [] resolution).1.matchers = done ++ m :: rest ∧
        Hides (Resolution.linked w₁.store.registry [] resolution).2 w₁.store done n w'.store ∧
        w'.store.registry.stub? m.target.id = none ∧ e = .unknown m.target.id ∧
        ((∀ id, w'.store.flags id = w₁.store.flags id) ↔ n = 0)) := by
  refine ⟨fun e h => ?_, fun e w₁ hrec h => ?_⟩
  · rcases attachAnswer_error h with ⟨hphase, hstore⟩ | ⟨done, c, rest, links, hres, hdone, hnone, he⟩
    · exact ⟨hstore ▸ .refl w.store, .inl ⟨hphase, hstore⟩⟩
    · exact ⟨hdone.mono, .inr ⟨done, c, rest, links, hres, hdone, hnone, he, hdone.unchanged_iff⟩⟩
  · rcases excludeRecords_error hrec h with hphase | ⟨resolution, done, m, rest, n, hres, hsplit, hdone, hnone, he⟩
    · exact .inl hphase
    · exact .inr ⟨resolution, done, m, rest, n, hres, hsplit, hdone, hnone, he, hdone.unchanged_iff⟩

/-! ## Two calls of which one goes nowhere -/

/-- A number is added to itself. -/
def doubling (mock : Nat) (n : Int32) : Call :=
  ⟨⟨mock, "Calculator"⟩, { name := "add", params := [.int, .int], returns := .int }, [.int n, .int n], 1, none⟩

def callLike (c : Call) : Act Unit MockError Unit := discard (intercept 0 c.target c.method c.args none)

def doublings : Act Unit Failure Unit := ExceptT.adapt Failure.mock do
  callLike (doubling 1 1)
  callLike (doubling 2 2)

/-- The first of two mocks has been called. -/
def calculators : World Unit where
  store :=
    { registry := ⟨[{ object := ⟨1, "Calculator"⟩, kind := .strict, log := [{ call := doubling 1 1 }] },
        { object := ⟨2, "Calculator"⟩, kind := .strict }]⟩
      nextObject := 3, nextSequence := 2 }
  sessions := [{ generator := .ofSeed none }]
  memory := ()

/-- The second mock is released after the calls were recorded. -/
def releasedLate : World Unit :=
  ((do let _ ← every 0 doublings; updateStore (·.release 2) : Act Unit MockError Unit).runOn calculators).2

def releasedEarly : World Unit := ((updateStore (·.release 2) : Act Unit MockError Unit).runOn calculators).2

theorem failing_statements_doublings :
    (∃ e w', (attachAnswer 0 (.constant (.int 5))).runOn releasedLate = (.error e, w') ∧
      releasedLate.store.Extends w'.store) ∧
    ∃ e w₁ w', (beginVerification 0 {} >>= fun _ => runRecordedBlock 0 doublings).runOn releasedEarly = (.ok (), w₁) ∧
      (excludeRecords 0 doublings).runOn releasedEarly = (.error e, w') ∧
      (w'.store = w₁.store ∨ ∃ id, w'.store.registry.stub? id = none ∧ e = .unknown id) := by
  constructor
  · have hfails : ((attachAnswer 0 (.constant (.int 5))).runOn releasedLate).1.isOk = false := by decide +kernel
    rcases hrun : (attachAnswer 0 (.constant (.int 5))).runOn releasedLate with ⟨e | a, w'⟩
    · exact ⟨e, w', rfl, ((failing_statements 0 _ doublings releasedLate w').1 e hrun).1⟩
    · rw [hrun] at hfails; cases hfails
  · have hrecords : ((beginVerification 0 {} >>= fun _ => runRecordedBlock 0 doublings).runOn
        releasedEarly).1.isOk = true := by
      decide +kernel
    have hfails : ((excludeRecords 0 doublings).runOn releasedEarly).1.isOk = false := by decide +kernel
    rcases hrec : (beginVerification 0 {} >>= fun _ => runRecordedBlock 0 doublings).runOn releasedEarly with ⟨e | a, w₁⟩
    · rw [hrec] at hrecords; cases hrecords
    · rcases hrun : (excludeRecords 0 doublings).runOn releasedEarly with ⟨e | a, w'⟩
      · refine ⟨e, w₁, w', rfl, rfl, ?_⟩
        rcases (failing_statements 0 (.constant .unit) doublings releasedEarly w').2 e w₁ hrec hrun with
          ⟨-, hsame⟩ | ⟨-, -, m, -, -, -, -, -, hnone, he, -⟩
        · exact .inl hsame
        · exact .inr ⟨m.target.id, hnone, he⟩
      · rw [hrun] at hfails; cases hfails

/-- The answer stays attached to the first call, and the first call stays hidden. -/
theorem failing_statements_leave_traces :
    let attached := (attachAnswer 0 (.constant (.int 5))).runOn releasedLate
    let excluded := (excludeRecords 0 doublings).runOn releasedEarly
    (attached.1.isOk = false ∧ (releasedLate.store.registry.stub? 1).map (·.registered) = some [] ∧
      (attached.2.store.registry.stub? 1).map (·.registered) = some ["Calculator#1.add(eq(1), eq(1))"]) ∧
    ((beginVerification 0 {} >>= fun _ => runRecordedBlock 0 doublings).runOn releasedEarly).1.isOk = true ∧
      excluded.1.isOk = false ∧ releasedEarly.store.flags 1 = some [false] ∧ excluded.2.store.flags 1 = some [true] := by
  decide +kernel

end Act

end TestDouble
