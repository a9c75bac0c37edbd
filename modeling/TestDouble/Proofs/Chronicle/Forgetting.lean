import TestDouble.Proofs.Chronicle.Watching

/-!
# Watching changes nothing

But for its chronicle, a watched run is the run of the program.
-/

namespace TestDouble

namespace Act

variable {μ ε α : Type} {i : Nat}

/-- But for what it tells, the watched computation does what the other one does. -/
abbrev Forgets (x : Act (Log (Watched μ)) ε α) (y : Act (Log μ) ε α) : Prop := Maps Log.forget x y

namespace Forgets

variable {x : Act (Log (Watched μ)) ε α} {y : Act (Log μ) ε α}

theorem tell (h : Happening) (hx : x.Forgets y) : Forgets (Act.tell h >>= fun _ => x) y := fun w => hx (w.tell h)

theorem tellLook (hx : x.Forgets y) : Forgets (Act.tellLook >>= fun _ => x) y := fun w => hx (w.tell (.seen w.store))

theorem get {f : World (Log (Watched μ)) → Act (Log (Watched μ)) ε α} (hf : ∀ w, (f w).Forgets y) :
    Forgets (MonadState.get >>= f) y := fun w => hf w w

/-- What comes after the computation only tells. -/
theorem andThen {f : α → Act (Log (Watched μ)) ε α} (hx : x.Forgets y) (hf : ∀ a, (f a).Forgets (pure a)) :
    (x >>= f).Forgets y := by
  intro w
  rw [runOn_bind, hx w]
  rcases x.runOn w with ⟨_ | a, w'⟩
  · rfl
  · exact hf a w'

theorem afterwards {f : Except ε α → Act (Log (Watched μ)) ε α} (hx : x.Forgets y)
    (hf : ∀ r, (f r).Forgets (ofExcept r)) : (attempt x >>= f).Forgets y := by
  intro w
  have hrest := hf (x.runOn w).1 (x.runOn w).2
  rw [runOn_ofExcept] at hrest
  rw [hx w, hrest]
  rfl

/-! ## Calls -/

section

variable {target : ObjectRef} {method : Method} {args : List Value} {underlying : Option (Underlying (Log (Watched μ)))}
  {underlying' : Option (Underlying (Log μ))}

theorem tellCall {x : Act (Log (Watched μ)) MockError Value} {y : Act (Log μ) MockError Value} (hx : x.Forgets y) :
    (Act.tellCall i target method args x).Forgets y :=
  get fun _ => tell _ (afterwards hx fun r => get fun _ => tell _ (.ofExcept r))

theorem tellMade : ∀ (n : Nat) (o : Outgoing), (Act.tellMade n o : Act (Log (Watched μ)) _ _).Forgets (makeCall n o)
  | 0, _ => .throw _
  | n + 1, o => by
      refine tellCall (.interceptWith (tellMade n) ?_ o.session o.target o.method o.args)
      cases o.underlying with
      | none => exact .none
      | some run => exact .some fun args => .react (tellMade n) (run args)

theorem tellIntercept
    (hu : Option.Rel (fun run run' => ∀ args, (run args).Forgets (run' args)) underlying underlying') :
    (Act.tellIntercept i target method args underlying).Forgets (intercept i target method args underlying') :=
  .get_bind fun w => tellCall (.interceptWith (tellMade w.depth) hu i target method args)

end

/-! ## Statements -/

theorem tellVerification :
    (Act.tellVerification i : Act (Log (Watched μ)) MockError Report).Forgets (finalizeVerification i) :=
  get fun _ => andThen .finalizeVerification fun report => tell _ (.pure report)

theorem tellExclusion : (Act.tellExclusion i : Act (Log (Watched μ)) MockError Nat).Forgets (hideRecorded i) :=
  get fun _ => afterwards ((Maps.takeVerification _).bind fun _ => .get_bind fun _ => .excludeEach _ _) fun r =>
    tell _ (.ofExcept r)

theorem command (c : Command α) : (c.watched i : Act (Log (Watched μ)) MockError α).Forgets (c.act i) := by
  cases c with
  | beginStubbing => exact .beginStubbing
  | beginVerification r => exact .beginVerification r
  | attachAnswer answer => exact .attachAnswer answer
  | finalizeVerification => exact tellVerification
  | registerMatcher m shape => exact .registerMatcher m shape
  | wasNotCalled o => exact .wasNotCalled o
  | reset => exact .modifySession _
  | finish answer => exact .finish _ answer
  | abandon => exact .abandon _

theorem statement {block : Act (Log (Watched μ)) Failure Unit} {block' : Act (Log μ) Failure Unit}
    (hb : block.Forgets block') (s : Statement α) : (s.watched i block).Forgets (s.act i block') := by
  cases s with
  | runRecordedBlock => exact .runRecordedBlock hb
  | every => exact Maps.beginStubbing.bind fun _ => (Maps.runRecordedBlock hb).bind fun _ => .pure _
  | verify r => exact (Maps.beginVerification r).bind fun _ => (Maps.runRecordedBlock hb).bind fun _ => tellVerification
  | excludeRecords =>
      exact (Maps.beginVerification {}).bind fun _ => (Maps.runRecordedBlock hb).bind fun _ => tellExclusion

/-! ## The code of a user -/

theorem note (failed : Option Failed) : (Act.note failed : Act (Log (Watched μ)) ε Unit).Forgets (Act.note failed) :=
  fun _ => rfl

theorem setRunning (f : List Nat → List Nat) :
    (Act.setRunning f : Act (Log (Watched μ)) ε Unit).Forgets (Act.setRunning f) := fun _ => rfl

theorem openSession : (Act.openSession : Act (Log (Watched μ)) ε Nat).Forgets Act.openSession := fun _ => rfl

theorem tellUse (f : Store → α × Store) : (Act.tellUse f : Act (Log (Watched μ)) ε α).Forgets (onStore f) :=
  andThen (.onStore f) fun a => get fun _ => tell _ (.pure a)

theorem operation {x : Act (Log (Watched μ)) MockError α} {y : Act (Log μ) MockError α} (hx : x.Forgets y)
    (name : String) (i : Nat) : (Act.operation name i x).Forgets (Act.operation name i y) := by
  refine (Maps.attempt hx).bind fun r => ?_
  cases r <;> exact (note _).bind fun _ => .pure _

theorem side {x : Act (Log (Watched μ)) MockError α} {y : Act (Log μ) MockError α} (hx : x.Forgets y) :
    (Act.side x).Forgets (Act.side y) := (Maps.attempt hx).bind fun _ => (note none).bind fun _ => .pure _

theorem inUnderlying {x : Act (Log (Watched μ)) Failure Value} {y : Act (Log μ) Failure Value} (hx : x.Forgets y) :
    (Act.inUnderlying x).Forgets (Act.inUnderlying y) := (note none).bind fun _ => hx

theorem inBlock {x : Act (Log (Watched μ)) Failure Value} {y : Act (Log μ) Failure Value} (hx : x.Forgets y) (i : Nat) :
    (Act.inBlock i x).Forgets (Act.inBlock i y) := by
  refine (setRunning _).bind fun _ => (note none).bind fun _ => (Maps.attempt hx).bind fun r =>
    (setRunning _).bind fun _ => ?_
  cases r with
  | ok _ => exact .pure _
  | error e => exact .throw e

end Forgets

end Act

namespace Program

variable {μ : Type}

theorem watch_forgets (p : Program μ) : p.watch.Forgets p.run := by
  induction p with
  | done result => exact .ofExcept result
  | look next ih => exact Act.Forgets.tellLook (.get_bind fun w => ih w.forget)
  | remember memory next ih => exact Act.Maps.bind (fun _ => rfl) fun _ => ih
  | useStore f next ih => exact (Act.Forgets.tellUse f).bind ih
  | openSession next ih => exact Act.Forgets.openSession.bind fun i => (Act.Forgets.note none).bind fun _ => ih i
  | command i c next ih => exact (Act.Forgets.operation (.command c) _ i).bind ih
  | statement i s block next ihblock ih =>
      exact (Act.Forgets.operation (.statement (.inBlock ihblock i) s) _ i).bind ih
  | call i target method args next ih => exact (Act.Forgets.side (.tellIntercept .none)).bind ih
  | callThrough i target method args underlying next ihunderlying ih =>
      exact (Act.Forgets.side (.tellIntercept (.some fun args => .inUnderlying (ihunderlying args)))).bind ih

/-- The last look is at the store to which the program has led. -/
theorem exists_chronicle (p : Program μ) (w : World μ) :
    ∃ t, p.chronicle w = .seen (p.run.runOn { w with memory := { memory := w.memory } }).2.store :: t := by
  have hrun := p.watch_forgets { w with memory := { memory := { memory := w.memory } } }
  have hstore := congrArg (fun r => r.2.store) hrun
  exact ⟨_, congrArg (Happening.seen · :: _) hstore.symm⟩

end Program

end TestDouble
