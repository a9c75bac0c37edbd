import TestDouble.Proofs.Chronicle.Programs
import TestDouble.Proofs.Session.PreservingPrograms

/-!
# What watched runs preserve

A property of the chronicle and the store is preserved by a watched run if the steps on the store preserve it, and if
it goes on to hold with whatever is told then. What the chronicle has told stays told, to begin with.
-/

namespace TestDouble

/-- What may be told of a store: its own next number, and itself. -/
inductive Happening.Of (s : Store) : Happening → Prop
  | made {e : Made} (hn : e.number = s.nextSequence) : Of s (.made e)
  | returned (frames : Nat → List Frame) : Of s (.returned frames)
  | marked (m : Mark) (numbers : List Nat) : Of s (.marked m numbers)
  | emptied (mocks : List Nat) : Of s (.emptied mocks)
  | seen : Of s (.seen s)

/-- Calls, operations and what a program does to the store by itself keep this property, and so does what is told. -/
structure Chronicle.Tracked (R : Store → Store → Prop) (J : Chronicle → Store → Prop) : Prop where
  call : ∀ t s s', s.CallStep s' → J t s → J t s'
  operation : ∀ t s s', s.OperationStep s' → J t s → J t s'
  use : ∀ t s s', R s s' → J t s → J t s'
  told : ∀ t s h, Happening.Of s h → J t s → J (h :: t) s

/-- The property holds of what has been told so far. -/
def World.Tracks {μ : Type} (J : Chronicle → Store → Prop) (w : World (Log (Watched μ))) : Prop :=
  J w.chronicle w.store

variable {μ ε α : Type} {R : Store → Store → Prop} {J : Chronicle → Store → Prop} {i : Nat}

namespace Chronicle.Tracked

theorem keptByCalls (hJ : Tracked R J) : World.KeptByCalls (World.Tracks (μ := μ) J) where
  store _ _ hs h := hJ.call _ _ _ hs h
  frames _ _ _ h := h
  capture w i o target method args _ h := hJ.call _ _ _
    (.capture o (w.session i).generator target method args (w.session i).frames.head?) h

theorem keptByOperations (hJ : Tracked R J) : World.KeptByOperations i (World.Tracks (μ := μ) J) where
  store _ _ hs h := hJ.operation _ _ _ hs h
  session _ _ _ h := h
  register w o m shape _ h := hJ.operation _ _ _ (.register o (w.session i).generator m shape) h

end Chronicle.Tracked

theorem World.Tracks.keptByNotes : KeptByNotes (Tracks (μ := μ) J) := fun _ _ _ h => h

namespace Act

section

variable (hJ : Chronicle.Tracked R J)

include hJ

theorem tell_tracks {h : Happening} {w : World (Log (Watched μ))} (hh : Happening.Of w.store h) (hw : w.Tracks J) :
    (tell h : Act (Log (Watched μ)) ε Unit).Ends w (World.Tracks J) := .of_ok rfl (hJ.told _ _ _ hh hw)

theorem tellLook_tracks : (tellLook : Act (Log (Watched μ)) ε Unit).Preserves (World.Tracks J) := fun _ hw =>
  .bind (.get (tell_tracks hJ .seen hw))

theorem tellUse_tracks {f : Store → α × Store} (hf : ∀ s : Store, R s (f s).2) :
    (tellUse f : Act (Log (Watched μ)) ε α).Preserves (World.Tracks J) := by
  intro w hw
  have hused : World.Tracks J { w with store := (f w.store).2 } := hJ.use _ _ _ (hf w.store) hw
  refine .bind (.of_ok (runOn_onStore f w) (.bind (.get (.bind ?_))))
  exact (tell_tracks hJ (.emptied _) hused).mono (fun _ _ h => .pure h) fun _ _ h => h

/-! ## Calls -/

section

variable {target : ObjectRef} {method : Method} {args : List Value} {underlying : Option (Underlying (Log (Watched μ)))}

theorem tellCall_tracks {x : Act (Log (Watched μ)) MockError Value} (hx : x.Preserves (World.Tracks J)) :
    (tellCall i target method args x).Preserves (World.Tracks J) := by
  have hreturned : ∀ result : Except MockError Value, (do
      let w ← get
      tell (.returned fun j => (w.session j).frames)
      ofExcept result : Act (Log (Watched μ)) MockError Value).Preserves (World.Tracks J) := fun result w hw =>
    .bind (.get (.bind ((tell_tracks hJ (.returned _) hw).mono (fun _ w' h => .ofExcept (fun _ _ => h) fun _ _ => h)
      fun _ _ h => h)))
  intro w hw
  refine .bind (.get (.bind ((tell_tracks hJ (.made rfl) hw).mono (fun _ w' h => ?_) fun _ _ h => h)))
  exact (hx.attempt.bind hreturned) w' h

theorem tellMade_tracks : ∀ (n : Nat) (o : Outgoing), (tellMade n o).Preserves (World.Tracks (μ := μ) J)
  | 0, _ => .throw _
  | n + 1, o => by
      refine tellCall_tracks hJ (interceptWith_preserves hJ.keptByCalls (tellMade_tracks n) fun run hrun args => ?_)
      obtain ⟨f, -, rfl⟩ := Option.map_eq_some_iff.mp hrun
      exact react_preserves hJ.keptByCalls.answers (tellMade_tracks n) (f args)

theorem tellIntercept_tracks (hu : ∀ run ∈ underlying, ∀ args, (run args).Preserves (World.Tracks J)) :
    (tellIntercept i target method args underlying).Preserves (World.Tracks J) :=
  Preserves.get.bind fun w =>
    tellCall_tracks hJ (interceptWith_preserves hJ.keptByCalls (tellMade_tracks hJ w.depth) hu)

end

/-! ## Statements -/

theorem tellMarked_tracks (m : Mark) (numbers : List Nat) :
    (tell (.marked m numbers) : Act (Log (Watched μ)) ε Unit).Preserves (World.Tracks J) := fun _ hw =>
  tell_tracks hJ (.marked m numbers) hw

theorem tellVerification_tracks : (tellVerification i).Preserves (World.Tracks (μ := μ) J) :=
  Preserves.get.bind fun _ => (finalizeVerification_preserves hJ.keptByOperations).bind fun _ =>
    (tellMarked_tracks hJ _ _).bind fun _ => .pure _

theorem tellExclusion_tracks : (tellExclusion i).Preserves (World.Tracks (μ := μ) J) := by
  have hhide : (hideRecorded i : Act (Log (Watched μ)) MockError Nat).Preserves (World.Tracks J) :=
    (takeVerification_preserves hJ.keptByOperations.session _).bind fun _ => Preserves.get.bind fun _ =>
      excludeEach_preserves (hJ.keptByOperations (i := i)) _ _
  exact Preserves.get.bind fun _ => hhide.attempt.bind fun _ => (tellMarked_tracks hJ _ _).bind fun _ => .ofExcept _

theorem command_watched_tracks (c : Command α) : (c.watched i).Preserves (World.Tracks (μ := μ) J) := by
  have hact := command_preserves (hJ.keptByOperations (μ := μ) (i := i)) c
  cases c with
  | finalizeVerification => exact tellVerification_tracks hJ
  | _ => exact hact

theorem statement_watched_tracks {block : Act (Log (Watched μ)) Failure Unit}
    (hb : block.Preserves (World.Tracks J)) (s : Statement α) : (s.watched i block).Preserves (World.Tracks J) := by
  have hkept := hJ.keptByOperations (μ := μ) (i := i)
  have hrun : (runRecordedBlock i block).Preserves (World.Tracks J) :=
    runRecordedBlock_preserves hkept.session (fun _ _ _ h => h) (pass_preserves (fun _ _ _ h => h) hb)
  have hact := statement_preserves hkept hrun s
  cases s with
  | verify r =>
      exact (beginVerification_preserves hkept.session r).bind fun _ => hrun.bind fun _ => tellVerification_tracks hJ
  | excludeRecords =>
      exact (beginVerification_preserves hkept.session {}).bind fun _ => hrun.bind fun _ => tellExclusion_tracks hJ
  | _ => exact hact

end

end Act

namespace Program

theorem Manages.uses {p : Program μ} (h : p.Manages) : p.Uses Store.Manages := by
  induction p with
  | done result => trivial
  | look next ih => exact fun w => ih w (h w)
  | remember memory next ih => exact ih h
  | useStore f next ih => exact ⟨h.1, fun a => ih a (h.2 a)⟩
  | openSession next ih => exact fun i => ih i (h i)
  | command i c next ih => exact fun r => ih r (h r)
  | statement i s block next ihblock ih => exact ⟨ihblock h.1, fun r => ih r (h.2 r)⟩
  | call i target method args next ih => exact fun r => ih r (h r)
  | callThrough i target method args underlying next ihunderlying ih =>
      exact ⟨fun args => ihunderlying args (h.1 args), fun r => ih r (h.2 r)⟩

theorem watch_tracks (hJ : Chronicle.Tracked R J) (p : Program μ) (h : p.Uses R) :
    p.watch.Preserves (World.Tracks J) := by
  have hnotes := World.Tracks.keptByNotes (μ := μ) (J := J)
  induction p with
  | done result => exact .ofExcept result
  | look next ih => exact (Act.tellLook_tracks hJ).bind fun _ => Act.Preserves.get.bind fun w => ih w.forget (h w.forget)
  | remember memory next ih => exact Act.Preserves.bind (fun _ hw => .of_ok rfl hw) fun _ => ih h
  | useStore f next ih => exact (Act.tellUse_tracks hJ h.1).bind fun a => ih a (h.2 a)
  | openSession next ih =>
      exact Act.Preserves.bind (fun _ hw => .of_ok rfl hw) fun i =>
        (Act.Preserves.note hnotes none).bind fun _ => ih i (h i)
  | command i c next ih =>
      exact (Act.Preserves.operation hnotes (Act.command_watched_tracks hJ c) _ i).bind fun r => ih r (h r)
  | statement i s block next ihblock ih =>
      have hs := Act.statement_watched_tracks (i := i) hJ (.inBlock hnotes (ihblock h.1) i) s
      exact (Act.Preserves.operation hnotes hs _ i).bind fun r => ih r (h.2 r)
  | call i target method args next ih =>
      exact (Act.Preserves.side hnotes (Act.tellIntercept_tracks hJ fun _ h => by cases h)).bind fun r => ih r (h r)
  | callThrough i target method args underlying next ihunderlying ih =>
      refine (Act.Preserves.side hnotes (Act.tellIntercept_tracks hJ fun run hrun args => ?_)).bind fun r =>
        ih r (h.2 r)
      cases hrun
      exact .inUnderlying hnotes (ihunderlying args (h.1 args))

/-- Whatever a watched run does, what its chronicle has told stays told. -/
theorem watch_extends (p : Program μ) (w : World (Log (Watched μ))) :
    w.chronicle <:+ (p.watch.runOn w).2.chronicle := by
  have hJ : Chronicle.Tracked (fun _ _ => True) fun t _ => w.chronicle <:+ t :=
    { call := fun _ _ _ _ h => h
      operation := fun _ _ _ _ h => h
      use := fun _ _ _ _ h => h
      told := fun t _ h _ ht => ht.trans (List.suffix_cons h t) }
  exact (p.watch_tracks hJ p.uses_true w (List.suffix_refl w.chronicle)).world

end Program

end TestDouble
