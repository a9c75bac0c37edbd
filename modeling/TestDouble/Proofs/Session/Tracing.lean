import TestDouble.Proofs.Session.Evolving
import TestDouble.Proofs.Session.Linked
import TestDouble.Proofs.Session.PendingPrograms

/-!
# What is recorded in a run

Whatever a program does, a round in progress is one that registrations and calls have brought about, and a recorded
block comes from such rounds. The objects that recorded calls return are handed out for them, so no mock has the
identity of one, then or later.
-/

namespace TestDouble

/-- The objects that the calls returned have been handed out, and none of them is a mock. -/
def Round.Apart (r : Round) (s : Store) : Prop :=
  ∀ c ∈ r.calls, ∀ x, c.returned.object? = some x → x.id < s.nextObject ∧ s.registry.stub? x.id = none

structure Round.Traced (r : Round) (s : Store) : Prop where
  recorded : r.Recorded
  apart : r.Apart s

/-- A block that has been recorded in such rounds. -/
def Resolution.Traced (res : Resolution) (s : Store) : Prop :=
  ∃ rounds phase, (∀ r ∈ rounds, Round.Traced r s) ∧ ofRounds rounds phase = .ok res

structure Session.Traced (x : Session) (s : Store) : Prop where
  round : ∀ o, x.round = some o → o.Recorded s.nextObject ∧ o.round.Apart s
  resolution : ∀ res, x.resolution = some res → res.Traced s

/-- The run has started without mocks. What is recorded in it is traced, and so are these rounds, which are over. -/
structure World.Traced {σ : Type} (rounds : List Round) (w : World σ) : Prop where
  start : Store.Evolves {} w.store
  sessions : ∀ j, (w.session j).Traced w.store
  rounds : ∀ r ∈ rounds, r.Traced w.store

/-! ## Recorded blocks -/

namespace Resolution.Traced

variable {res : Resolution} {s : Store} {c : ResolvedCall}

/-- What a block is resolved to comes from its last round. -/
theorem last (h : res.Traced s) : res = [] ∨ ∃ r b, Round.Traced r s ∧ res = r.resolved b := by
  obtain ⟨_ | ⟨first, rest⟩, phase, hrounds, hres⟩ := h
  · cases hres
    exact .inl rfl
  · obtain ⟨-, b, -, hres⟩ := ofRounds_cons.mp hres
    exact .inr ⟨_, b, hrounds _ (List.getLast_mem _), hres⟩

theorem exists_linkObject? (h : res.Traced s) (hc : c ∈ res) (hlink : c.intermediate = true) :
    ∃ x, c.linkObject? = some x := by
  rcases h.last with rfl | ⟨r, b, -, rfl⟩
  · cases hc
  · exact Round.exists_linkObject? hc hlink

theorem links_nodup (h : res.Traced s) : ((res.filterMap ResolvedCall.linkObject?).map (·.id)).Nodup := by
  rcases h.last with rfl | ⟨r, b, hr, rfl⟩
  · exact .nil
  · exact hr.recorded.links_nodup b

/-- What the calls have returned is no mock. -/
theorem apart (h : res.Traced s) (hc : c ∈ res) {x : ObjectRef} (hx : c.returned.object? = some x) :
    x.id < s.nextObject ∧ s.registry.stub? x.id = none := by
  rcases h.last with rfl | ⟨r, b, hr, rfl⟩
  · cases hc
  · obtain ⟨⟨d, k⟩, hd, rfl⟩ := List.mem_map.mp hc
    exact hr.apart d (List.mem_of_getElem? (List.mem_zipIdx_iff_getElem?.mp hd)) x hx

end Resolution.Traced

/-! ## In the course of time -/

section

variable {r : Round} {s s' : Store} {x x' : Session}

theorem Round.Apart.onward (h : r.Apart s) (hs : s.Onward s') : r.Apart s' := fun c hc x hx => by
  obtain ⟨hlt, hnone⟩ := h c hc x hx
  exact ⟨Nat.lt_of_lt_of_le hlt hs.objects, hs.stub?_eq_none hlt hnone⟩

theorem Round.Traced.onward (h : r.Traced s) (hs : s.Onward s') : r.Traced s' := ⟨h.recorded, h.apart.onward hs⟩

theorem Session.Traced.onward (h : x.Traced s) (hs : s.Onward s') : x.Traced s' where
  round o ho := by
    obtain ⟨hrecorded, hapart⟩ := h.round o ho
    exact ⟨hrecorded.later hs.objects, hapart.onward hs⟩
  resolution res hres := by
    obtain ⟨rounds, phase, hrounds, hres⟩ := h.resolution res hres
    exact ⟨rounds, phase, fun r hr => (hrounds r hr).onward hs, hres⟩

theorem Session.Traced.turns (h : x.Traced s) (hx : x.Turns x') : x'.Traced s where
  round o ho := h.round o (hx.round o ho)
  resolution res hres := h.resolution res (hx.resolution res hres)

theorem Session.Idle.traced (h : x.Idle) (s : Store) : x.Traced s where
  round _ ho := by rw [h.round] at ho; cases ho
  resolution _ hres := by rw [h.resolution] at hres; cases hres

end

namespace World.Traced

variable {σ : Type} {w : World σ} {rounds : List Round} {i : Nat} {o : OpenRound}

theorem store (h : w.Traced rounds) {s : Store} (hs : w.store.Evolves s) : Traced rounds { w with store := s } where
  start := h.start.trans hs
  sessions j := (h.sessions j).onward hs.onward
  rounds r hr := (h.rounds r hr).onward hs.onward

theorem modifySession (h : w.Traced rounds) {f : Session → Session}
    (hf : (w.session i).Traced w.store → (f (w.session i)).Traced w.store) : (w.modifySession i f).Traced rounds where
  start := h.start
  sessions j := by
    rw [session_modifySession, store_modifySession]
    split
    · rename_i hij
      exact hij.1 ▸ hf (h.sessions i)
    · exact h.sessions j
  rounds := h.rounds

theorem forget (h : w.Traced rounds) {some : List Round} (hsub : some ⊆ rounds) : w.Traced some :=
  ⟨h.start, h.sessions, fun r hr => h.rounds r (hsub hr)⟩

/-- New objects are no mocks. -/
theorem stub?_eq_none (h : w.Traced rounds) {id : Nat} (hid : w.store.nextObject ≤ id) :
    w.store.registry.stub? id = none := by
  cases hstub : w.store.registry.stub? id with
  | none => rfl
  | some stub => exact absurd (h.start.lt_nextObject hstub) (Nat.not_lt.mpr hid)

/-- The recorded call returns a new object, or none. -/
theorem capture (h : w.Traced rounds) (ho : (w.session i).round = some o) (target : ObjectRef) (method : Method)
    (args : List Value) : (w.capture i o target method args).Traced rounds := by
  obtain ⟨hrecorded, hapart⟩ := (h.sessions i).round o ho
  obtain ⟨c, g, s, hcap⟩ :=
    o.exists_captures (w.session i).generator w.store target method args (w.session i).frames.head?
  have hopen := hrecorded.capture (w.session i).generator target method args (w.session i).frames.head?
  rw [World.capture]
  rw [hcap.result] at hopen ⊢
  have hevolves : w.store.Evolves s := .spent hcap.spent
  refine (h.store hevolves).modifySession fun hx => ⟨fun o' ho' => ?_, hx.resolution⟩
  cases ho'
  refine ⟨hopen, fun d hd x hx => ?_⟩
  rcases List.mem_append.mp hd with hd | hd
  · exact hapart.onward hevolves.onward d hd x hx
  · cases List.mem_singleton.mp hd
    obtain ⟨hle, hlt⟩ := hcap.fresh x hx
    exact ⟨hlt, hcap.spent.registry ▸ h.stub?_eq_none hle⟩

theorem register (h : w.Traced rounds) (ho : (w.session i).round = some o) (m : Matcher) (shape : Shape) :
    (w.register i o m shape).Traced rounds := by
  obtain ⟨hrecorded, hapart⟩ := (h.sessions i).round o ho
  obtain ⟨reg, g, s, hreg⟩ := o.exists_registers (w.session i).generator w.store m shape
  have hopen := hrecorded.register (w.session i).generator m shape
  rw [World.register]
  rw [hreg.result] at hopen ⊢
  have hevolves : w.store.Evolves s := .spent hreg.spent
  refine (h.store hevolves).modifySession fun hx => ⟨fun o' ho' => ?_, hx.resolution⟩
  cases ho'
  exact ⟨hopen, hapart.onward hevolves.onward⟩

theorem keptByCalls : KeptByCalls (Traced (σ := σ) rounds) where
  store _ _ hs h := h.store (.callStep hs)
  frames _ _ _ h := h.modifySession fun hx => ⟨hx.round, hx.resolution⟩
  capture _ _ _ target method args ho h := h.capture ho target method args

theorem keptByOperations (rounds : List Round) (i : Nat) : KeptByOperations i (Traced (σ := σ) rounds) where
  store _ _ hs h := h.store (.operationStep hs)
  session _ _ hf h := h.modifySession fun hx => hx.turns (hf _)
  register _ _ m shape ho h := h.register ho m shape

theorem keptByStarting (rounds : List Round) (i : Nat) : KeptByStarting i (Traced (σ := σ) rounds) :=
  fun w index hints h => h.modifySession fun hx => ⟨fun o ho => by
    cases ho
    exact ⟨.start index hints w.store.nextObject, fun _ hc => absurd hc List.not_mem_nil⟩, hx.resolution⟩

end World.Traced

/-! ## Recording blocks -/

namespace Act

variable {σ : Type} {i : Nat} {block : Act σ Failure Unit}

/-- Every pass adds the round that it leaves. -/
theorem gathering_traced (hb : ∀ rounds, block.Preserves (World.Traced rounds)) (rounds : List Round) :
    Gathering i block (fun more => World.Traced (rounds ++ more)) (World.Traced rounds) where
  pass more index hints w hw := by
    have hkept := World.Traced.keptByOperations (σ := σ) (rounds ++ more) i
    refine (pass_preserves (World.Traced.keptByStarting _ i) (hb _) index hints w hw).mono (fun _ w' h => ?_)
      fun _ _ h => h.forget (List.subset_append_left rounds more)
    refine ⟨fun _ => h.forget (List.subset_append_left rounds more), fun o ho => ?_⟩
    obtain ⟨hrecorded, hapart⟩ := (h.sessions i).round o ho
    have hclosed := hkept.session w' (fun s => { s with round := none }) (fun _ => ⟨rfl, nofun, fun _ h => h⟩) h
    refine ⟨hclosed.start, hclosed.sessions, fun r hr => ?_⟩
    rw [← List.append_assoc] at hr
    rcases List.mem_append.mp hr with hr | hr
    · exact hclosed.rounds r hr
    · cases List.mem_singleton.mp hr
      exact ⟨⟨o, _, hrecorded, rfl⟩, hapart⟩
  again more r w hw := by
    rw [← List.append_assoc] at hw
    exact hw.forget (List.subset_append_left _ _)
  error more w hw := hw.forget (List.subset_append_left rounds more)

theorem runRecordedBlock_traced (hb : ∀ rounds, block.Preserves (World.Traced rounds)) (rounds : List Round) :
    (runRecordedBlock i block).Preserves (World.Traced rounds) := by
  have hkept := World.Traced.keptByOperations (σ := σ) rounds i
  have hrecord (phase : Phase) : (do
      let resolution ← orFail i (recordBlock i block phase)
      modifySession i fun s => { s with
        resolution := some resolution, phase := if phase = .stubbing then .awaitingAnswer else s.phase } :
      Act σ MockError Unit).Preserves (World.Traced rounds) := by
    intro w hw
    have hstart : World.Traced (rounds ++ []) w := (List.append_nil rounds).symm ▸ hw
    refine .bind (.orFail (((gathering_traced hb rounds).recordBlock hstart).mono (fun res w' h => ?_) fun _ w' h =>
      hkept.session w' _ .cleared h))
    obtain ⟨more, htraced, -, hres⟩ := h
    have hmore : ∀ r ∈ more, r.Traced w'.store := fun r hr => htraced.rounds r (List.mem_append_right _ hr)
    refine .modifySession ((htraced.forget (List.subset_append_left rounds more)).modifySession fun hx => ?_)
    exact ⟨hx.round, fun res' hres' => Option.some.inj hres' ▸ ⟨more, phase, hmore, hres⟩⟩
  refine (expectPhase_preserves hkept.session _ _).bind fun phase => Preserves.session.bind fun s => ?_
  dsimp only
  split
  · exact (fail_preserves hkept.session _).bind fun _ => hrecord phase
  · exact hrecord phase

end Act

/-! ## Programs -/

theorem World.Traced.keptByPrograms {μ : Type} :
    KeptByPrograms Store.Evolves (World.Traced : List Round → World (Log μ) → Prop) where
  calls _ := keptByCalls
  commands _ i _ c := Act.command_preserves (keptByOperations _ i) c
  statements i _ s _ hb rounds := Act.statement_preserves (keptByOperations _ i) (Act.runRecordedBlock_traced hb rounds) s
  notes _ _ _ _ h := ⟨h.start, h.sessions, h.rounds⟩
  memory _ _ _ h := ⟨h.start, h.sessions, h.rounds⟩
  sessions _ w h := ⟨h.start, fun j => by rw [session_append_newSession]; exact h.sessions j, h.rounds⟩
  store _ _ _ hs h := h.store hs

/-- Before anything has happened. -/
structure World.Begins {μ : Type} (w : World (Log μ)) : Prop where
  store : Store.Evolves {} w.store
  idle : ∀ s ∈ w.sessions, s.Idle
  moments : w.memory.moments = []

/-- After any run, nothing but what has been recorded is pending, and only as its phase allows. -/
theorem Program.run_traced {μ : Type} (p : Program μ) (h : p.Uses Store.Evolves) {w : World (Log μ)} (hw : w.Begins) :
    (p.run.runOn w).2.Traced [] ∧ ∀ j, ((p.run.runOn w).2.session j).Consistent := by
  have hidle := World.session_idle hw.idle
  have htraced : w.Traced [] := ⟨hw.store, fun j => (hidle j).traced w.store, nofun⟩
  have hsound : w.Sound := ⟨fun j => (hidle j).consistent, by rw [hw.moments]; exact nofun⟩
  have hwithin : w.Within w.memory.running := fun j hr => by rw [(hidle j).round] at hr; cases hr
  exact ⟨(p.run_preserves World.Traced.keptByPrograms h [] w htraced).world,
    (p.run_keeps w hsound hwithin).world.sound.consistent⟩

end TestDouble
