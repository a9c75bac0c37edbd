import TestDouble.Proofs.Chronicle.Forgetting
import TestDouble.Proofs.Chronicle.Statements

/-!
# Programs and the calls they make

Whatever a program does, the logs hold the calls that have been made, each with the call that it was made from. When a
call has returned, the frames of all sessions are as they were before it.
-/

namespace TestDouble

/-- No call has been made yet. -/
structure World.Fresh {σ : Type} (w : World σ) : Prop where
  below : ∀ x ∈ w.store.registry.stubs, x.id < w.store.nextObject
  log : ∀ x ∈ w.store.registry.stubs, x.log = []
  frames : ∀ s ∈ w.sessions, s.frames = []

namespace World

theorem Fresh.of_empty {σ : Type} {w : World σ} (hstubs : w.store.registry.stubs = [])
    (hframes : ∀ s ∈ w.sessions, s.frames = []) : w.Fresh where
  below x hx := by rw [hstubs] at hx; cases hx
  log x hx := by rw [hstubs] at hx; cases hx
  frames := hframes

theorem Fresh.told {μ : Type} {w : World μ} (hw : w.Fresh) :
    Told [] [] ({ w with memory := { memory := { memory := w.memory } } } : World (Log (Watched μ))) where
  underway := rfl
  frames := session_forall (w := w) hw.frames fun _ => rfl
  agrees := ⟨hw.below, hw.log, fun _ _ => rfl, .nil, nofun⟩
  sound := trivial

variable {μ : Type} {es framed : List Made}

theorem Told.of_memory {w : World (Log (Watched μ))} (h : w.Told es framed) {memory : Log (Watched μ)}
    (hm : memory.memory.chronicle = w.chronicle) : Told es framed { w with memory } := by
  have hchronicle : World.chronicle { w with memory } = w.chronicle := hm
  rw [Told, hchronicle]
  exact ⟨h.underway, h.frames, h.agrees, h.sound⟩

theorem Told.keptByNotes : KeptByNotes (Told (μ := μ) es framed) := fun _ _ _ h => h.of_memory rfl

end World

namespace Act

variable {μ ε : Type} {es : List Made}

theorem openSession_told : (openSession : Act (Log (Watched μ)) ε Nat).Preserves (World.Told es es) := by
  refine fun _ hw => .of_ok rfl ⟨hw.underway, fun j => ?_, hw.agrees, hw.sound⟩
  rw [World.session_append_newSession]
  exact hw.frames j

theorem tellLook_told : (tellLook : Act (Log (Watched μ)) ε Unit).Preserves (World.Told es es) := fun _ hw =>
  .bind (.get (tell_tells ⟨hw.underway, hw.frames, hw.agrees.of_same (fun _ => rfl) rfl, hw.agrees, hw.sound⟩))

theorem tellUse_told {α : Type} {f : Store → α × Store} (hf : ∀ s : Store, s.Manages (f s).2) :
    (tellUse f : Act (Log (Watched μ)) ε α).Preserves (World.Told es es) := by
  intro w hw
  have hemptied : Chronicle.Tells (.emptied (f w.store).2.silent :: w.chronicle)
      { w with store := (f w.store).2 } es es :=
    ⟨hw.underway, hw.frames, hw.agrees.manages (hf w.store), hw.sound⟩
  refine .bind (.of_ok (runOn_onStore f w) (.bind (.get (.bind ?_))))
  exact (tell_tells hemptied).mono (fun _ _ h => .pure h) fun _ _ h => h

end Act

namespace Program

variable {μ : Type}

/-- The program itself does to the logs of mocks nothing but empty them. -/
def Manages : Program μ → Prop
  | done _ => True
  | look next => ∀ w, (next w).Manages
  | remember _ next => next.Manages
  | useStore f next => (∀ s : Store, s.Manages (f s).2) ∧ ∀ a, (next a).Manages
  | openSession next => ∀ i, (next i).Manages
  | command _ _ next => ∀ r, (next r).Manages
  | statement _ _ block next => block.Manages ∧ ∀ r, (next r).Manages
  | call _ _ _ _ next => ∀ r, (next r).Manages
  | callThrough _ _ _ _ underlying next => (∀ args, (underlying args).Manages) ∧ ∀ r, (next r).Manages

theorem watch_told (p : Program μ) (h : p.Manages) (es : List Made) : p.watch.Preserves (World.Told es es) := by
  have hnotes : ∀ es, World.KeptByNotes (World.Told (μ := μ) es es) := fun _ => World.Told.keptByNotes
  induction p generalizing es with
  | done result => exact .ofExcept result
  | look next ih => exact Act.tellLook_told.bind fun _ => Act.Preserves.get.bind fun w => ih w.forget (h w.forget) es
  | remember memory next ih =>
      exact Act.Preserves.bind (fun w hw => .of_ok rfl (World.Told.of_memory hw rfl)) fun _ => ih h es
  | useStore f next ih => exact (Act.tellUse_told h.1).bind fun a => ih a (h.2 a) es
  | openSession next ih =>
      exact Act.openSession_told.bind fun i => (Act.Preserves.note (hnotes es) none).bind fun _ => ih i (h i) es
  | command i c next ih =>
      exact (Act.Preserves.operation (hnotes es) (Act.command_watched_preserves c) _ i).bind fun r => ih r (h r) es
  | statement i s block next ihblock ih =>
      have hs := Act.statement_watched_preserves (i := i) (.inBlock (hnotes es) (ihblock h.1 es) i) s
      exact (Act.Preserves.operation (hnotes es) hs _ i).bind fun r => ih r (h.2 r) es
  | call i target method args next ih =>
      refine (Act.Preserves.side (hnotes es) (Act.tellIntercept_preserves (fun _ hrun => ?_) es)).bind
        fun r => ih r (h r) es
      cases hrun
  | callThrough i target method args underlying next ihunderlying ih =>
      refine (Act.Preserves.side (hnotes es) (Act.tellIntercept_preserves (fun run hrun args es => ?_) es)).bind
        fun r => ih r (h.2 r) es
      cases hrun
      exact .inUnderlying (hnotes es) (ihunderlying args (h.1 args) es)

/-- At the end of a run its chronicle is sound, and all calls have returned. -/
theorem chronicle_sound (p : Program μ) (hp : p.Manages) {w : World μ} (hw : w.Fresh) :
    (p.chronicle w).Sound ∧ Chronicle.underway (p.chronicle w) = [] := by
  have hend := ((p.watch_told hp []) _ hw.told).world
  exact ⟨⟨hend.agrees, hend.sound⟩, hend.underway⟩

/-- From a world without calls, whatever the program does: when a call has returned, the frames of all sessions are as
they were before it. Wherever the program has control, the log of each mock holds the calls that have been made on it
in their order, with the calls that they were made from, and so does the merged log of any mocks. -/
theorem calls_logged (p : Program μ) (hp : p.Manages) (w : World μ) (hw : w.Fresh) :
    (∃ t, p.chronicle w = .seen (p.run.runOn { w with memory := { memory := w.memory } }).2.store :: t) ∧
    Chronicle.underway (p.chronicle w) = [] ∧
    (∀ frames t, (.returned frames :: t) <:+ p.chronicle w →
      ∃ e es, Chronicle.underway t = e :: es ∧ frames = e.frames) ∧
    ∀ s t, (.seen s :: t) <:+ p.chronicle w →
      (∀ x ∈ s.registry.stubs, x.log = Chronicle.log x.id t ∧ (x.log.map (·.call.sequence)).Pairwise (· < ·) ∧
        ∀ l ∈ x.log, ∃ e t', (.made e :: t') <:+ t ∧ Chronicle.logs t' e = true ∧ l.call = Chronicle.call t' e) ∧
      ∀ r mocks, mocks.Nodup → ((Act.mergedLog s r mocks).map (·.sequence)).Pairwise (· < ·) := by
  obtain ⟨hsound, hunderway⟩ := p.chronicle_sound hp hw
  refine ⟨p.exists_chronicle w, hunderway, fun frames t hsuffix => (hsound.of_suffix hsuffix).1, fun s t hsuffix => ?_⟩
  have hagrees : Chronicle.Agrees t s := (hsound.of_suffix hsuffix).1
  refine ⟨fun x hx => ⟨hagrees.log x hx, ?_, ?_⟩, fun r mocks hmocks => hagrees.mergedLog_increasing r hmocks⟩
  · rw [hagrees.log x hx]
    exact hagrees.ordered.log_increasing x.id
  · intro l hl
    rw [hagrees.log x hx] at hl
    obtain ⟨e, t', hmade, hlogs, -, hcall⟩ := Chronicle.exists_made hl
    exact ⟨e, t', hmade, hlogs, hcall⟩

/-- A call whose answer makes a call through a spy: the implementation behind the spy makes another call, and then
fails. -/
def failsMidway : Program Unit :=
  let run : Method := { name := "run", params := [], returns := .unit }
  useStore (fun s => s.create "Clock" .relaxed) fun clock =>
    useStore (fun s => s.create "Reader" .spy) fun reader =>
      useStore (fun s => s.create "Service" .strict) fun service =>
        useStore (fun s => ((), s.modify service.id (·.addAnswer ⟨service, run, []⟩ (.computed fun _ =>
            .callThrough 0 reader run []
              (fun _ => .call 0 clock run [] fun _ => .done (.error (.plain "late")))
              fun _ => .done (.ok .unit))))) fun _ =>
          call 0 service run [] fun _ => call 0 clock run [] fun _ => done (.ok .unit)

/-- The first call on the clock was made from the reader, the second one from nowhere: no frame is left behind. -/
theorem calls_logged_failsMidway :
    let w : World Unit := { sessions := [{ generator := .ofSeed none }], depth := 2, memory := () }
    ((failsMidway.run.runOn { w with memory := { memory := () } }).2.store.registry.stubs.map fun x =>
        x.log.map fun l => (l.call.sequence, l.call.caller)) =
        [[(3, some ⟨2, "run"⟩), (4, none)], [(2, some ⟨3, "run"⟩)], [(1, none)]] ∧
      ∀ frames t, (.returned frames :: t) <:+ failsMidway.chronicle w →
        ∃ e es, Chronicle.underway t = e :: es ∧ frames = e.frames := by
  have hmanages : failsMidway.Manages := by
    refine ⟨fun s => ?_, fun _ => ⟨fun s => ?_, fun _ => ⟨fun s => ?_, fun _ => ⟨fun s => ?_, fun _ _ _ => trivial⟩⟩⟩⟩
    · exact (s.create_keepsLogs _ _).manages
    · exact (s.create_keepsLogs _ _).manages
    · exact (s.create_keepsLogs _ _).manages
    · exact (s.addAnswer_keepsLogs _ _ _).manages
  refine ⟨by decide +kernel, (calls_logged failsMidway hmanages _ ?_).2.2.1⟩
  exact .of_empty rfl fun _ hs => by cases List.mem_singleton.mp hs; rfl

end Program

end TestDouble
