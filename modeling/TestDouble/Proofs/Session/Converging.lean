import TestDouble.Proofs.Session.Pending
import TestDouble.Proofs.Session.Stubbing
import TestDouble.Proofs.Session.TypedRounds

/-!
# Converging rounds

A block of typed calls gets one hint from every pass that fails. The first round takes a pass for every call and one
more, and the rounds after it one pass each, as the hints stay. A call that is the same as an earlier one ends this:
the passes are limited by the number of different calls.
-/

namespace TestDouble

/-- A pass of this round is noted. -/
def World.noting (w : World (List Nat)) (index : Nat) : World (List Nat) := { w with memory := w.memory ++ [index] }

/-- So many passes have been noted, by their rounds. -/
structure World.Noted (w : World (List Nat)) (rounds : List Nat) (w' : World (List Nat)) : Prop where
  memory : w'.memory = w.memory ++ rounds
  length : w'.sessions.length = w.sessions.length

namespace World.Noted

variable {w w' w'' : World (List Nat)} {rounds rounds' : List Nat}

theorem refl (w : World (List Nat)) : w.Noted [] w := ⟨(List.append_nil w.memory).symm, rfl⟩

theorem trans (h : w.Noted rounds w') (h' : w'.Noted rounds' w'') : w.Noted (rounds ++ rounds') w'' :=
  ⟨by rw [h'.memory, h.memory, List.append_assoc], h'.length.trans h.length⟩

theorem noting (w : World (List Nat)) (i index : Nat) (g : Generator) (s : Store) :
    w.Noted [index] ((w.noting index).inRound i none g s) := ⟨rfl, length_inRound⟩

end World.Noted

namespace TypedCall

open Act

variable {w : World (List Nat)} {i : Nat} {cs : List TypedCall} {hinting : Hinting} {phase : Phase}

/-- Note the round that is running, then make the calls. -/
def notedBlock (cs : List TypedCall) (i : Nat) : Act (List Nat) Failure Unit := do
  let s ← session i
  modify (·.noting s.generator.round)
  block cs i

theorem runOn_notedBlock (hi : i < w.sessions.length) (o : OpenRound) (g : Generator) (s : Store) :
    (notedBlock cs i).runOn (w.inRound i (some o) g s) =
      (block cs i).runOn ((w.noting g.round).inRound i (some o) g s) := by
  rw [notedBlock, runOn_bind_ok (runOn_session i _), World.session_inRound hi]
  rfl

/-! ## One pass -/

/-- With all hints a round is complete after one pass. -/
theorem exists_recordRound (hi : i < w.sessions.length) (hh : Hinted cs hinting.hints) (phase : Phase)
    (index n : Nat) : ∃ r hinting' w', (recordRound i (notedBlock cs i) phase index (n + 1) hinting).runOn w =
      (.ok (r, hinting'), w') ∧ w.Noted [index] w' ∧ Hinted cs hinting'.hints ∧ Written cs r := by
  obtain ⟨ds, g, s, hrun, hds⟩ := exists_block (w := w.noting index) hi hh index
    ((w.session i).generator.startRound index) w.store
  exact ⟨{ index, calls := ds }, { hinting with passes := hinting.passes + 1 }, (w.noting index).inRound i none g s,
    runOn_recordRound ((runOn_notedBlock hi _ _ _).trans hrun) hi phase n, .noting w i index g s, hh, rfl, hds⟩

variable {c : TypedCall} {rest : List TypedCall}

/-- What a pass captures that ends with a call without a hint, and what the review of it sees. -/
theorem exists_pass_refused (hi : i < w.sessions.length) (hh : Hinted cs hinting.hints) (c : TypedCall)
    (rest : List TypedCall) (index : Nat) : ∃ r x g s,
      (notedBlock (cs ++ c :: rest) i).runOn (w.inRound i (some (.start index hinting.hints))
        ((w.session i).generator.startRound index) w.store) =
          (.error (.mock (.rejected c.type.shape (.object x))),
            (w.noting index).inRound i (some ⟨r, hinting.hints⟩) g s) ∧
      x.isPlaceholder = true ∧ r.callReturning? x.id = some cs.length ∧
      r.distinctInvocationCount = Round.countNew [] ((cs ++ [c]).map (·.call)) := by
  obtain ⟨ds, d, x, g, s, hrun, hds, hd⟩ := exists_block_refused (w := w.noting index) hi hh c rest
    index ((w.session i).generator.startRound index) w.store
  refine ⟨{ index, calls := ds ++ [d] }, x, g, s, (runOn_notedBlock hi _ _ _).trans hrun, hd.placeholder, ?_, ?_⟩
  · rw [hds.length_eq]
    exact Round.callReturning?_last rfl hds.object hd.returned
  · refine Round.countNew_repeats ?_ .nil
    rw [List.map_append, List.map_append]
    exact List.rel_append hds.repeats (.cons hd.repeats .nil)

theorem Apart.calls (h : Apart cs) : Call.Apart (cs.map (·.call)) := List.pairwise_map.mpr h

/-- A call that differs from all earlier ones gets its hint. -/
theorem recordRound_advance (hi : i < w.sessions.length) (hh : Hinted cs hinting.hints)
    (hpasses : hinting.passes ≤ cs.length) (hapart : Apart (cs ++ [c])) (rest : List TypedCall) (phase : Phase)
    (index n : Nat) : ∃ hinting' w',
      (recordRound i (notedBlock (cs ++ c :: rest) i) phase index (n + 1) hinting).runOn w =
        (recordRound i (notedBlock (cs ++ c :: rest) i) phase index n hinting').runOn w' ∧
      w.Noted [index] w' ∧ Hinted (cs ++ [c]) hinting'.hints ∧ hinting'.passes = hinting.passes + 1 := by
  obtain ⟨r, x, g, s, hrun, hx, hk, hcount⟩ := exists_pass_refused hi hh c rest index
  refine ⟨{ hints := hinting.hints.insert cs.length c.type.shape, passes := hinting.passes + 1 },
    (w.noting index).inRound i none g s, ?_, .noting w i index g s, hh.insert c, rfl⟩
  have hall : Round.countNew [] ((cs ++ [c]).map (·.call)) = cs.length + 1 := by
    rw [← List.append_nil (List.map _ _), Round.countNew_append [] hapart.calls]
    simp [Round.countNew]
  rw [runOn_recordRound hrun hi, Hinting.review_rejected hinting _ hx hk, hcount, hall,
    if_neg (Nat.not_le.mpr (Nat.lt_succ_of_le hpasses))]

/-- A call that is the same as an earlier one gets none. -/
theorem recordRound_exhausted (hi : i < w.sessions.length) (hh : Hinted cs hinting.hints)
    (hpasses : hinting.passes = cs.length) (hapart : Apart cs) (hsame : ∃ d ∈ cs, d.call.sameAs c.call = true)
    (rest : List TypedCall) (phase : Phase) (index n : Nat) :
    ∃ w', (recordRound i (notedBlock (cs ++ c :: rest) i) phase index (n + 1) hinting).runOn w =
      (.error (.hintsExhausted cs.length c.type.shape (cs.length + 1)), w') ∧ w.Noted [index] w' := by
  obtain ⟨r, x, g, s, hrun, hx, hk, hcount⟩ := exists_pass_refused hi hh c rest index
  refine ⟨(w.noting index).inRound i none g s, ?_, .noting w i index g s⟩
  have hall : Round.countNew [] ((cs ++ [c]).map (·.call)) = cs.length := by
    have hseen : (cs.map (·.call)).any (·.sameAs c.call) = true := by
      obtain ⟨d, hd, hsame⟩ := hsame
      exact List.any_eq_true.mpr ⟨d.call, List.mem_map_of_mem hd, hsame⟩
    rw [List.map_append, Round.countNew_append [] hapart.calls, List.nil_append, List.map_cons,
      Round.countNew, hseen, List.map_nil, if_pos rfl, Round.countNew, List.length_map]
  rw [runOn_recordRound hrun hi, Hinting.review_rejected hinting _ hx hk, hcount, hall, hpasses,
    if_pos (Nat.le_refl _)]

/-! ## All passes -/

/-- Every pass places one hint, as long as the calls differ. -/
theorem exists_advance (todo : List TypedCall) (hi : i < w.sessions.length) (hh : Hinted cs hinting.hints)
    (hpasses : hinting.passes = cs.length) (hapart : Apart (cs ++ todo)) (rest : List TypedCall) (phase : Phase)
    (index n : Nat) : ∃ hinting' w',
      (recordRound i (notedBlock (cs ++ todo ++ rest) i) phase index (n + todo.length) hinting).runOn w =
        (recordRound i (notedBlock (cs ++ todo ++ rest) i) phase index n hinting').runOn w' ∧
      w.Noted (List.replicate todo.length index) w' ∧ Hinted (cs ++ todo) hinting'.hints ∧
      hinting'.passes = (cs ++ todo).length := by
  induction todo generalizing cs hinting w with
  | nil =>
      rw [List.append_nil]
      exact ⟨hinting, w, rfl, .refl w, hh, hpasses⟩
  | cons c todo ih =>
      rw [List.append_cons] at hapart ⊢
      obtain ⟨hinting₁, w₁, hrun, hnoted, hh₁, hpasses₁⟩ := recordRound_advance hi hh (Nat.le_of_eq hpasses)
        (List.pairwise_append.mp hapart).1 (todo ++ rest) phase index (n + todo.length)
      obtain ⟨hinting', w', hruns, hnoted', hh', hpasses'⟩ := ih (w := w₁) (hnoted.length ▸ hi) hh₁
        (by rw [hpasses₁, hpasses, List.length_append, List.length_singleton]) hapart
      refine ⟨hinting', w', ?_, hnoted.trans hnoted', hh', hpasses'⟩
      rw [← hruns]
      simpa [Nat.add_assoc] using hrun

/-- The first round starts without hints. -/
theorem exists_first_passes (hi : i < w.sessions.length) (hapart : Apart cs) (rest : List TypedCall) (phase : Phase)
    (n : Nat) : ∃ hinting w', (recordRound i (notedBlock (cs ++ rest) i) phase 0 (n + cs.length) {}).runOn w =
        (recordRound i (notedBlock (cs ++ rest) i) phase 0 n hinting).runOn w' ∧
      w.Noted (List.replicate cs.length 0) w' ∧ Hinted cs hinting.hints ∧ hinting.passes = cs.length := by
  have hnone : Hinted [] ({} : Hinting).hints := fun _ => rfl
  simpa using exists_advance cs hi hnone rfl hapart rest phase 0 n

/-- Later rounds take one pass each. -/
theorem exists_recordMore (hi : i < w.sessions.length) (hh : Hinted cs hinting.hints) (phase : Phase) (n index : Nat) :
    ∃ rounds w', (recordMore i (notedBlock cs i) phase n index hinting).runOn w = (.ok rounds, w') ∧
      w.Noted (List.range' index n) w' ∧ ∀ r ∈ rounds, Written cs r := by
  obtain ⟨limit, hlimit⟩ := exists_limit (n := 0) (by decide)
  induction n generalizing index hinting w with
  | zero => exact ⟨[], w, rfl, .refl w, List.forall_mem_nil _⟩
  | succ n ih =>
      have hstart : Hinted cs hinting.startRound.hints := hh
      obtain ⟨r, hinting', w₁, hrun, hnoted, hh', hr⟩ := exists_recordRound hi hstart phase index limit
      obtain ⟨rounds, w', hruns, hnoted', hall⟩ := ih (w := w₁) (hnoted.length ▸ hi) hh' (index + 1)
      refine ⟨r :: rounds, w', ?_, hnoted.trans hnoted', List.forall_mem_cons.mpr ⟨hr, hall⟩⟩
      rw [recordMore, hlimit, runOn_bind_ok hrun]
      dsimp only
      rw [runOn_bind_ok hruns, runOn_pure]

/-- The number of rounds of a block of these calls. -/
def planned (settings : Settings) (cs : List TypedCall) : Nat :=
  min (max settings.minRounds (places cs)) settings.maxRounds

/-- Different calls get all their hints in the first round, and need no more in the rounds after it. -/
theorem exists_recordRounds (hi : i < w.sessions.length) (hlen : cs.length < passLimit) (hapart : Apart cs)
    (phase : Phase) (hmin : w.settings.minRounds ≠ 0) : ∃ first rest w',
      (recordRounds i (notedBlock cs i) phase).runOn w = (.ok (first :: rest), w') ∧
      w.Noted (List.replicate (cs.length + 1) 0 ++ List.range' 1 (planned w.settings cs - 1)) w' ∧
      ∀ r ∈ first :: rest, Written cs r := by
  obtain ⟨limit, hlimit⟩ := exists_limit hlen
  obtain ⟨hinting, w₁, hadvance, hnoted, hh, -⟩ := exists_first_passes hi hapart [] phase (limit + 1)
  obtain ⟨first, hinting', w₂, hfirst, hnoted', hh', hr⟩ :=
    exists_recordRound (w := w₁) (hnoted.length ▸ hi) hh phase 0 limit
  have hboth := hnoted.trans hnoted'
  obtain ⟨rest, w', hrest, hnoted'', hall⟩ := exists_recordMore (w := w₂) (hboth.length ▸ hi) hh' phase
    (planned w.settings cs - 1) 1
  refine ⟨first, rest, w', ?_, ?_, List.forall_mem_cons.mpr ⟨hr, hall⟩⟩
  · rw [List.append_nil, hfirst, ← hlimit] at hadvance
    rw [planned, ← hr.distinctCallCount] at hrest
    exact runOn_recordRounds_cons hmin hadvance hrest
  · rw [List.replicate_succ']
    exact hboth.trans hnoted''

/-- The first call that is the same as an earlier one ends the first round. -/
theorem recordRounds_exhausted {before : List TypedCall} (hi : i < w.sessions.length)
    (hlen : before.length < passLimit) (hapart : Apart before) (hsame : ∃ d ∈ before, d.call.sameAs c.call = true)
    (rest : List TypedCall) (phase : Phase) (hmin : w.settings.minRounds ≠ 0) : ∃ w',
      (recordRounds i (notedBlock (before ++ c :: rest) i) phase).runOn w =
        (.error (.hintsExhausted before.length c.type.shape (before.length + 1)), w') ∧
      w.Noted (List.replicate (before.length + 1) 0) w' := by
  obtain ⟨limit, hlimit⟩ := exists_limit hlen
  obtain ⟨hinting, w₁, hadvance, hnoted, hh, hpasses⟩ := exists_first_passes hi hapart (c :: rest) phase (limit + 1)
  obtain ⟨w', hexhausted, hnoted'⟩ := recordRound_exhausted (w := w₁) (hnoted.length ▸ hi) hh hpasses hapart hsame rest
    phase 0 limit
  refine ⟨w', ?_, by rw [List.replicate_succ']; exact hnoted.trans hnoted'⟩
  rw [hexhausted, ← hlimit] at hadvance
  exact runOn_recordRounds_error hmin hadvance

/-! ## Recording -/

/-- The session is recording the block of a statement. -/
structure Recording (i : Nat) (w : World (List Nat)) : Prop where
  phase : (w.session i).phase = .stubbing ∨ (w.session i).phase = .verifying
  resolution : (w.session i).resolution = none

theorem Recording.lt (h : Recording i w) : i < w.sessions.length := by
  refine Nat.lt_of_not_le fun hle => ?_
  have hphase := h.phase
  rw [World.session_of_le hle, World.newSession_idle.phase] at hphase
  rcases hphase with hphase | hphase <;> cases hphase

/-- What is recorded is kept, and nothing else happens to what has been noted. -/
theorem Recording.run_eq (h : Recording i w) {block : Act (List Nat) Failure Unit} {r : Except MockError Resolution}
    {w' : World (List Nat)} (hrun : (recordBlock i block (w.session i).phase).runOn w = (r, w')) :
    ((runRecordedBlock i block).runOn w).1 = r.map (fun _ => ()) ∧
      ((runRecordedBlock i block).runOn w).2.memory = w'.memory := by
  cases r with
  | ok res =>
      rw [runOn_runRecordedBlock rfl h.phase h.resolution hrun]
      exact ⟨rfl, rfl⟩
  | error e =>
      rw [runOn_runRecordedBlock_error rfl h.phase h.resolution hrun]
      exact ⟨rfl, rfl⟩

/-- Once the rounds are resolved no hint is missing; the block is refused only if nothing was called. -/
theorem Recording.of_rounds (h : Recording i w) {block : Act (List Nat) Failure Unit} {rounds : List Round}
    {res : Resolution} {w' : World (List Nat)}
    (hrounds : (recordRounds i block (w.session i).phase).runOn w = (.ok rounds, w'))
    (hres : Resolution.ofRounds rounds (w.session i).phase = .ok res) :
    let run := (runRecordedBlock i block).runOn w
    (∀ k s n, run.1 ≠ .error (.hintsExhausted k s n)) ∧ (res ≠ [] → run.1 = .ok ()) ∧
      run.2.memory = w'.memory := by
  have hrun : ∃ r, (recordBlock i block (w.session i).phase).runOn w = (r, w') ∧
      (∀ k s n, r ≠ .error (.hintsExhausted k s n)) ∧ (res ≠ [] → r = .ok res) := by
    rw [recordBlock, runOn_bind_ok hrounds, hres, runOn_bind_ok (runOn_ofExcept _ _),
      runOn_bind_ok (runOn_session i _)]
    dsimp only
    split
    · rename_i hempty
      exact ⟨_, rfl, fun _ _ _ h => (by cases h), fun hne => by simp [hne] at hempty⟩
    · exact ⟨_, rfl, fun _ _ _ h => (by cases h), fun _ => rfl⟩
  obtain ⟨r, hrun, hhinted, hok⟩ := hrun
  obtain ⟨hresult, hmemory⟩ := h.run_eq hrun
  refine ⟨fun k s n hk => ?_, fun hne => ?_, hmemory⟩
  · rw [hresult] at hk
    cases r with
    | ok _ => cases hk
    | error e => cases hk; exact hhinted k s n rfl
  · rw [hresult, hok hne]
    rfl

/-- If no call of a block is the same as an earlier one, hints are found for all of them. The first round takes a pass
for every call and one more, and every later round takes one pass. If a call is the same as an earlier one, the first
such call is the end of the first round. No block makes more calls than a machine word counts. -/
theorem runRecordedBlock_converges (cs : List TypedCall) (h : Recording i w) (hlen : cs.length < passLimit) :
    let run := (runRecordedBlock i (notedBlock cs i)).runOn w
    (Apart cs → (∀ k s n, run.1 ≠ .error (.hintsExhausted k s n)) ∧
      (cs ≠ [] → w.settings.minRounds ≠ 0 → run.1 = .ok ()) ∧
      run.2.memory = w.memory ++ if w.settings.minRounds = 0 then [] else
        List.replicate (cs.length + 1) 0 ++ List.range' 1 (planned w.settings cs - 1)) ∧
    ∀ before c rest, cs = before ++ c :: rest → Apart before → (∃ d ∈ before, d.call.sameAs c.call = true) →
      w.settings.minRounds ≠ 0 →
        run.1 = .error (.hintsExhausted before.length c.type.shape (before.length + 1)) ∧
          run.2.memory = w.memory ++ List.replicate (before.length + 1) 0 := by
  refine ⟨fun hapart => ?_, ?_⟩
  · by_cases hmin : w.settings.minRounds = 0
    · have hrounds : (recordRounds i (notedBlock cs i) (w.session i).phase).runOn w = _ := runOn_recordRounds_nil hmin
      obtain ⟨hhinted, -, hmemory⟩ := h.of_rounds hrounds rfl
      rw [if_pos hmin, List.append_nil]
      exact ⟨hhinted, fun _ hpos => absurd hmin hpos, hmemory⟩
    · obtain ⟨first, more, w', hrounds, hnoted, hall⟩ := exists_recordRounds h.lt hlen hapart (w.session i).phase hmin
      obtain ⟨res, hres, hlength⟩ := exists_ofRounds hall (w.session i).phase
      obtain ⟨hhinted, hok, hmemory⟩ := h.of_rounds hrounds hres
      rw [if_neg hmin]
      refine ⟨hhinted, fun hne _ => hok fun hnil => hne ?_, hmemory.trans hnoted.memory⟩
      rw [hnil] at hlength
      exact List.eq_nil_of_length_eq_zero hlength.symm
  · rintro before c rest rfl hapart hsame hmin
    obtain ⟨w', hrounds, hnoted⟩ := recordRounds_exhausted h.lt
      (Nat.lt_of_le_of_lt (by simp) hlen) hapart hsame rest (w.session i).phase hmin
    obtain ⟨hresult, hmemory⟩ := h.run_eq (runOn_bind_error hrounds)
    exact ⟨hresult, hmemory.trans hnoted.memory⟩

/-- What is found under a key is a number. -/
def finding (key : Int32) : TypedCall where
  call := ⟨⟨1, "Repo"⟩, { name := "find", params := [.int], returns := .generic }, [.int key], 0, none⟩
  type := .int
  returns := rfl
  known := rfl

/-- A block for a mock is being recorded. -/
def repository : World (List Nat) where
  store := { registry := ⟨[{ object := ⟨1, "Repo"⟩, kind := .strict }]⟩, nextObject := 2 }
  sessions := [{ phase := .stubbing, generator := .ofSeed none }]
  memory := []

/-- Different keys need three passes and one; a key that is used again is one too many. -/
theorem runRecordedBlock_converges_finding :
    let different := (runRecordedBlock 0 (notedBlock [finding 1, finding 2] 0)).runOn repository
    let again := (runRecordedBlock 0 (notedBlock [finding 1, finding 2, finding 1, finding 3] 0)).runOn repository
    different.1 = .ok () ∧ different.2.memory = [0, 0, 0, 1] ∧
      again.1 = .error (.hintsExhausted 2 .int 3) ∧ again.2.memory = [0, 0, 0] := by
  have hrecording : Recording 0 repository := ⟨.inl rfl, rfl⟩
  have hapart : Apart [finding 1, finding 2] := by
    rw [Apart]
    decide
  obtain ⟨hdifferent, -⟩ := runRecordedBlock_converges [finding 1, finding 2] hrecording (by decide)
  obtain ⟨-, hok, hmemory⟩ := hdifferent hapart
  obtain ⟨-, hagain⟩ := runRecordedBlock_converges [finding 1, finding 2, finding 1, finding 3] hrecording (by decide)
  obtain ⟨hexhausted, hmemory'⟩ := hagain [finding 1, finding 2] (finding 1) [finding 3] rfl hapart
    ⟨finding 1, List.mem_cons_self, by decide⟩ (by decide)
  exact ⟨hok (List.cons_ne_nil _ _) (by decide), hmemory, hexhausted, hmemory'⟩

/-- The same call made twice is out of passes before its second hint. -/
theorem runRecordedBlock_finding_twice :
    let run := (runRecordedBlock 0 (notedBlock [finding 1, finding 1] 0)).runOn repository
    (repository.store.registry.stub? 1).isSome = true ∧ (∃ k s n, run.1 = .error (.hintsExhausted k s n)) ∧
      run.2.memory = [0, 0] := by
  have hexhausted : (match ((runRecordedBlock 0 (notedBlock [finding 1, finding 1] 0)).runOn repository).1 with
      | .error (.hintsExhausted _ _ _) => true
      | _ => false) = true := by
    decide +kernel
  refine ⟨rfl, ?_, by decide +kernel⟩
  split at hexhausted
  · rename_i k s n hrun
    exact ⟨k, s, n, hrun⟩
  · cases hexhausted

end TypedCall

end TestDouble
