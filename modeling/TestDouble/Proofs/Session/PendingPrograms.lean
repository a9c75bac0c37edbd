import TestDouble.Proofs.Session.PendingStatements
import TestDouble.Proofs.Session.Preserving

/-!
# Programs and what is pending

Whatever a program does, inside its blocks and implementations too, all its moments are sound.
-/

namespace TestDouble

namespace World

variable {μ : Type} {w w' : World (Log μ)} {i : Nat}

/-- The running blocks are no part of what has to be sound. -/
theorem Sound.of_memory (hw : w.Sound) {memory : Log μ} (h : memory.moments = w.memory.moments) :
    ({ w with memory } : World (Log μ)).Sound := ⟨hw.consistent, by rw [h]; exact hw.moments⟩

/-- Around the code of a block, running blocks are as before. -/
theorem Next.leave
    (h : Next { w with memory := { w.memory with running := i :: w.memory.running } } w') :
    w.Next { w' with memory := { w'.memory with running := w'.memory.running.tail } } where
  sound := h.sound.of_memory rfl
  running := by rw [h.running]; rfl
  rounds := h.rounds

/-- A call goes to a round that is in progress, or it is answered; either way no statement changes. -/
theorem Next.keptByCalls (w : World (Log μ)) : KeptByCalls w.Next where
  store _ s _ h := h.trans (.store h.sound s)
  frames _ _ _ h := h.trans (.modifySession h.sound ⟨id, fun h => ⟨h, rfl, rfl⟩⟩)
  capture w₁ i o target method args hr h := by
    have hstore : w.Next { w₁ with store := (w₁.capture i o target method args).store } := h.trans (.store h.sound _)
    exact hstore.trans (.record hstore.sound (Option.isSome_of_eq_some hr))

end World

namespace Act

variable {μ ε α : Type} {i : Nat} {name : String} {w : World (Log μ)}

/-! ## Calls -/

theorem Keeps.preserves {x : Act (Log μ) ε α} (hx : x.Keeps) (hr : w.Within w.memory.running) :
    x.Preserves w.Next := fun w' hn =>
  (hx w' hn.sound (hn.within_running hr)).mono (fun _ _ => hn.trans) fun _ _ => hn.trans

theorem intercept_keeps {target : ObjectRef} {method : Method} {args : List Value}
    {underlying : Option (Underlying (Log μ))} (hu : ∀ run ∈ underlying, ∀ args, (run args).Keeps) :
    (intercept i target method args underlying).Keeps := fun w hw hr =>
  intercept_preserves (World.Next.keptByCalls w) (fun run hrun args => (hu run hrun args).preserves hr) w (.refl hw)

/-! ## Noting moments -/

theorem note_ensures {failed : Option Failed} {Q : Unit → World (Log μ) → Prop} {E : ε → World (Log μ) → Prop}
    (hw : w.Sound) (hr : w.Within w.memory.running) (hidle : ∀ f, failed = some f → (w.session f.session).Idle)
    (hattach : ∀ f, failed = some f → f.operation = "attach_answer" →
      f.error ≠ .badSequence "attach_answer" .awaitingAnswer none) (hQ : ∀ w', w.Next w' → Q () w') :
    (note failed).Ensures w Q E := by
  refine .of_ok rfl (hQ _ ⟨⟨hw.consistent, fun m hm => ?_⟩, rfl, fun _ h => ⟨h, rfl, rfl⟩⟩)
  rcases List.mem_cons.mp hm with rfl | hm
  · exact ⟨hw.consistent, hr, hidle, hattach⟩
  · exact hw.moments m hm

theorem note_keeps : (note none : Act (Log μ) ε Unit).Keeps := fun _ hw hr =>
  note_ensures hw hr nofun nofun fun _ hn => hn

theorem side_keeps {x : Act (Log μ) MockError α} (hx : x.Keeps) : (side x).Keeps :=
  hx.attempt.bind fun _ => note_keeps.bind fun _ => .pure _

/-- A failure of the operation may be noted as one that leaves nothing pending. -/
def FailsAs (name : String) (i : Nat) (x : Act (Log μ) MockError α) : Prop :=
  ∀ w, w.Sound → w.Within w.memory.running → x.Ensures w (fun _ => w.Next) fun e w' =>
    w.Clears i w' ∧ (name = "attach_answer" → e ≠ .badSequence "attach_answer" .awaitingAnswer none)

theorem Drops.failsAs {x : Act (Log μ) MockError α} (hx : x.Drops i) (hname : name ≠ "attach_answer") :
    FailsAs name i x := fun w hw hr => (hx w hw hr).mono (fun _ _ h => h) fun _ _ h => ⟨h, fun hn => absurd hn hname⟩

theorem operation_keeps {x : Act (Log μ) MockError α} (hx : FailsAs name i x) : (operation name i x).Keeps := by
  intro w hw hr
  refine .bind (.attempt ((hx w hw hr).mono (fun a w₁ hn => ?_) fun e w₁ hc => ?_))
  · exact .bind (note_ensures hn.sound (hn.within_running hr) nofun nofun fun _ hnote => .pure (hn.trans hnote))
  · obtain ⟨⟨hn, hidle⟩, hattach⟩ := hc
    refine .bind (note_ensures hn.sound (hn.within_running hr) ?_ ?_ fun _ hnote => .pure (hn.trans hnote))
    · intro f hf; cases hf; exact hidle
    · intro f hf; cases hf; exact hattach

/-! ## Operations -/

theorem command_failsAs : ∀ c : Command α, FailsAs (μ := μ) c.name i (c.act i)
  | .beginStubbing => beginStubbing_drops.failsAs (by decide)
  | .beginVerification _ => beginVerification_drops.failsAs (by simp [Command.name])
  | .attachAnswer _ => fun _ hw _ => (attachAnswer_ensures hw).mono (fun _ _ h => h) fun _ _ h => ⟨h.1, fun _ => h.2⟩
  | .finalizeVerification => finalizeVerification_drops.failsAs (by decide)
  | .registerMatcher m shape => (registerMatcher_drops m shape).failsAs (by simp [Command.name])
  | .wasNotCalled o => (wasNotCalled_drops o).failsAs (by simp [Command.name])
  | .reset => reset_drops.failsAs (by decide)
  | .finish _ => finish_drops.failsAs (by simp [Command.name])
  | .abandon => abandon_drops.failsAs (by decide)

theorem statement_failsAs {block : Act (Log μ) Failure Unit} (hb : block.Blocks i) :
    ∀ s : Statement α, FailsAs s.name i (s.act i block)
  | .runRecordedBlock => (runRecordedBlock_drops hb).failsAs (by decide)
  | .every => (every_drops hb).failsAs (by decide)
  | .verify _ => (verify_drops hb).failsAs (by simp [Statement.name])
  | .excludeRecords => (excludeRecords_drops hb).failsAs (by decide)

/-! ## The code of a user -/

theorem inUnderlying_keeps {x : Act (Log μ) Failure Value} (hx : x.Keeps) : (inUnderlying x).Keeps :=
  note_keeps.bind fun _ => hx

theorem inBlock_blocks {x : Act (Log μ) Failure Value} (hx : x.Keeps) : (inBlock i x).Blocks i := by
  intro w hw hr
  refine .bind (.of_ok rfl (.bind (note_ensures (hw.of_memory rfl) hr nofun nofun fun w₁ hn => ?_)))
  refine .bind (.attempt_either (hx w₁ hn.sound (hn.within_running hr)) fun result w₂ hn' => .bind (.of_ok rfl ?_))
  have hleave := (hn.trans hn').leave
  cases result with
  | ok _ => exact .pure hleave
  | error e => exact .throw hleave

theorem openSession_keeps : (openSession : Act (Log μ) ε Nat).Keeps := fun _ hw _ =>
  .of_ok rfl (.of_sessions hw rfl fun _ => by rw [World.session_append_newSession]; exact .refl)

theorem remember_keeps (memory : μ) :
    (modify fun w => { w with memory := { w.memory with memory } } : Act (Log μ) ε Unit).Keeps := fun _ hw _ =>
  .of_ok rfl ⟨hw.of_memory rfl, rfl, fun _ h => ⟨h, rfl, rfl⟩⟩

end Act

namespace Program

variable {μ : Type}

theorem run_keeps (p : Program μ) : p.run.Keeps := by
  induction p with
  | done result => exact .ofExcept result
  | look next ih => exact Act.Keeps.get.bind ih
  | remember memory next ih => exact (Act.remember_keeps memory).bind fun _ => ih
  | useStore f next ih => exact (Act.Keeps.of_storeOnly (.onStore f)).bind ih
  | openSession next ih => exact Act.openSession_keeps.bind fun i => Act.note_keeps.bind fun _ => ih i
  | command i c next ih => exact (Act.operation_keeps (Act.command_failsAs c)).bind ih
  | statement i s block next ihblock ih =>
      exact (Act.operation_keeps (Act.statement_failsAs (Act.inBlock_blocks ihblock) s)).bind ih
  | call i target method args next ih =>
      refine (Act.side_keeps (Act.intercept_keeps fun _ hrun => ?_)).bind ih
      cases hrun
  | callThrough i target method args underlying next ihunderlying ih =>
      refine (Act.side_keeps (Act.intercept_keeps fun run hrun args => ?_)).bind ih
      cases hrun
      exact Act.inUnderlying_keeps (ihunderlying args)

theorem run_next (p : Program μ) {w : World (Log μ)} (hw : w.Sound) (hr : w.Within w.memory.running) :
    w.Next (p.run.runOn w).2 := (p.run_keeps w hw hr).world

/-- From sessions with nothing pending, whatever the program does, every moment is sound. -/
theorem moments_sound (p : Program μ) (w : World μ) (hw : ∀ s ∈ w.sessions, s.Idle) :
    ∀ m ∈ p.moments w, m.Sound := by
  have hidle := World.session_idle hw
  let start : World (Log μ) := { w with memory := { memory := w.memory } }
  have hstart : start.Sound := ⟨fun i => (hidle i).consistent, fun _ hm => absurd hm List.not_mem_nil⟩
  have hwithin : start.Within [] := fun i hr => by
    rw [show (start.session i).round = none from (hidle i).round] at hr; cases hr
  exact (Act.note_keeps.bind (fun _ => p.run_keeps) start hstart hwithin).world.sound.moments

/-- A block that gives its own statement the answer, too early. -/
def answeredEarly : Program Unit :=
  command 0 .beginStubbing fun _ =>
    statement 0 .runRecordedBlock (command 0 (.attachAnswer (.constant .unit)) fun _ => done (.ok .unit)) fun _ =>
      done (.ok .unit)

/-- The failure inside the block takes the round away, so that the block fails too. -/
theorem moments_sound_answeredEarly :
    let w : World Unit := { sessions := [{ generator := .ofSeed none }], memory := () }
    (answeredEarly.moments w).map (fun m => (m.running, m.failed.map Failed.operation)) =
        [([], some "run_recorded_block"), ([0], some "attach_answer"), ([0], none), ([], none), ([], none)] ∧
      ∀ m ∈ answeredEarly.moments w, m.Sound :=
  ⟨rfl, moments_sound answeredEarly _ (List.forall_mem_singleton.mpr ⟨rfl, rfl, rfl, rfl, rfl⟩)⟩

end Program

end TestDouble
