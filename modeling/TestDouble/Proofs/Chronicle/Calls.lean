import TestDouble.Proofs.Chronicle.Agreeing
import TestDouble.Proofs.Chronicle.Watching
import TestDouble.Proofs.Session.Pending

/-!
# Calls as the chronicle tells them

A call that is made finds the frames of the calls that are underway, one by session. Its own frame is in place while
its answer runs, whatever the answer does; when the call has returned, all frames are as they were.
-/

namespace TestDouble

/-- The world is as the chronicle tells: these calls are underway, and these of them have their frames in place. -/
structure Chronicle.Tells {σ : Type} (t : Chronicle) (w : World σ) (es framed : List Made) : Prop where
  underway : underway t = es
  frames : ∀ j, (w.session j).frames = (running j framed).map Made.frame
  agrees : t.Agrees w.store
  sound : t.Sound

namespace World

variable {σ μ : Type}

/-- The world is as its own chronicle tells. -/
def Told (es framed : List Made) (w : World (Log (Watched μ))) : Prop := w.chronicle.Tells w es framed

end World

namespace Chronicle.Tells

variable {σ : Type} {t : Chronicle} {w : World σ} {es framed : List Made} {i : Nat} {e : Made}

theorem store (h : t.Tells w es framed) {s : Store} (hs : w.store.KeepsLogs s) :
    t.Tells { w with store := s } es framed := ⟨h.underway, h.frames, h.agrees.keeps hs, h.sound⟩

theorem modifySession (h : t.Tells w es framed) {f : Session → Session} (hf : ∀ s, (f s).frames = s.frames) :
    t.Tells (w.modifySession i f) es framed := by
  refine ⟨h.underway, fun j => ?_, h.agrees, h.sound⟩
  rw [World.session_modifySession, ← h.frames j]
  split
  · exact hf _
  · rfl

theorem marked_nil (h : t.Tells w es framed) {m : Mark} : Tells (.marked m [] :: t) w es framed :=
  ⟨h.underway, h.frames, h.agrees.marked_nil m, h.sound⟩

theorem marked_append {m : Mark} {ns ns' : List Nat} (h : Tells (.marked m ns' :: .marked m ns :: t) w es framed) :
    Tells (.marked m (ns ++ ns') :: t) w es framed := ⟨h.underway, h.frames, h.agrees.marked_append, h.sound⟩

/-- Of a session that does not exist no calls are underway. -/
theorem running_eq_nil (h : t.Tells w es framed) (hi : w.sessions.length ≤ i) : running i framed = [] := by
  have hframes := h.frames i
  rw [World.session_of_le hi] at hframes
  exact List.map_eq_nil_iff.mp hframes.symm

/-! ## Frames -/

theorem running_cons (i : Nat) (e : Made) (es : List Made) :
    running i (e :: es) = if e.opened && e.session == i then e :: running i es else running i es := List.filter_cons

/-- The frame of a call is put in place. -/
theorem push (h : t.Tells w es framed) (he : e.opened = decide (e.session < w.sessions.length)) :
    t.Tells (w.modifySession e.session fun s => { s with frames := e.frame :: s.frames }) es (e :: framed) := by
  refine ⟨h.underway, fun j => ?_, h.agrees, h.sound⟩
  rw [World.session_modifySession, running_cons, he]
  by_cases hj : e.session = j
  · subst hj
    by_cases hi : e.session < w.sessions.length
    · simp [hi, h.frames]
    · simp [hi, h.frames]
  · simp [hj, h.frames]

/-- The frame of a call is taken away. -/
theorem pop (h : t.Tells w es (e :: framed)) (hnone : e.opened = false → running e.session framed = []) :
    t.Tells (w.modifySession e.session fun s => { s with frames := s.frames.tail }) es framed := by
  refine ⟨h.underway, fun j => ?_, h.agrees, h.sound⟩
  have hframes := h.frames j
  rw [running_cons] at hframes
  rw [World.session_modifySession]
  by_cases hj : e.session = j
  · subst hj
    cases hopened : e.opened with
    | true =>
        have hi : e.session < w.sessions.length := by
          refine Nat.lt_of_not_le fun hle => ?_
          have hrunning := h.running_eq_nil hle
          rw [running_cons, hopened] at hrunning
          simp at hrunning
        simp [hi, hframes, hopened]
    | false =>
        rw [hopened, Bool.false_and, if_neg Bool.false_ne_true, hnone hopened, List.map_nil] at hframes
        rw [hnone hopened, List.map_nil]
        split
        · exact congrArg List.tail hframes
        · exact hframes
  · rw [if_neg fun h => hj h.1, hframes]
    simp [hj]

end Chronicle.Tells

namespace World.Told

variable {μ : Type} {es framed : List Made} {i : Nat}

theorem keptByAnswers : KeptByAnswers (Told (μ := μ) es framed) := fun _ _ hs h => h.store hs.keepsLogs

theorem keptBySession : KeptBySession i (Told (μ := μ) es framed) := fun _ _ hf h =>
  h.modifySession fun s => (hf s).frames

theorem keptByStubbing : KeptByStubbing i (Told (μ := μ) es framed) :=
  ⟨fun _ _ hs h => h.store hs.keepsLogs, keptBySession, fun _ _ m shape _ h =>
    (h.store (Store.StubbingStep.register _ _ m shape).keepsLogs).modifySession fun _ => rfl⟩

end World.Told

namespace Act

variable {μ ε α : Type} {es : List Made} {t : Chronicle} {i : Nat} {target : ObjectRef} {method : Method}
  {args : List Value} {underlying : Option (Underlying (Log (Watched μ)))} {w : World (Log (Watched μ))}

/-! ## Answering -/

/-- The call that is answered is the one of the chronicle. -/
theorem newCall_eq_call (ht : t.Tells w es es) :
    w.store.newCall target method args (w.session i).frames.head? =
      (t.call (w.making i target method args), { w.store with nextSequence := w.store.nextSequence + 1 }) := by
  rw [Store.newCall, Chronicle.call, ht.frames i, ht.underway, List.head?_map]
  rfl

/-- While its answer runs the call is underway, with its frame in place. -/
theorem answered_tells {x : Act (Log (Watched μ)) MockError α} {e : Made}
    (hx : x.Preserves (World.Told (e :: es) (e :: es))) (hopened : e.opened = decide (e.session < w.sessions.length))
    (hw : w.Told (e :: es) es) :
    Ends (do
      modifySession e.session fun s => { s with frames := e.frame :: s.frames }
      let result ← attempt x
      modifySession e.session fun s => { s with frames := s.frames.tail }
      ofExcept result : Act (Log (Watched μ)) MockError α) w (World.Told (e :: es) es) := by
  have hnone : e.opened = false → Chronicle.running e.session es = [] := fun h =>
    hw.running_eq_nil (Nat.le_of_not_lt (of_decide_eq_false (hopened ▸ h)))
  refine .bind (.modifySession (.bind (.attempt_either (hx _ (hw.push hopened)) fun result w' hw' => ?_)))
  exact .bind (.modifySession (.ofExcept (fun _ _ => hw'.pop hnone) fun _ _ => hw'.pop hnone))

theorem answerCall_tells {caller : Caller (Log (Watched μ))} (ht : t.Tells w es es)
    (hmade : w.chronicle = .made (w.making i target method args) :: t) (hround : (w.session i).round = none)
    (hc : ∀ o es, (caller o).Preserves (World.Told es es))
    (hu : ∀ run ∈ underlying, ∀ args es, (run args).Preserves (World.Told es es)) :
    (answerCall caller i target method args underlying).Ends w
      (World.Told (w.making i target method args :: es) es) := by
  have htold : ∀ s, Chronicle.Agrees (.made (w.making i target method args) :: t) s →
      World.Told (w.making i target method args :: es) es { w with store := s } := by
    intro s hs
    have hchronicle : World.chronicle { w with store := s } = .made (w.making i target method args) :: t := hmade
    rw [World.Told, hchronicle]
    exact ⟨congrArg (_ :: ·) ht.underway, ht.frames, hs, ht.sound⟩
  refine .bind (.bind (.get ?_))
  cases hstub : w.store.registry.stub? target.id with
  | none =>
      have hunlogged : t.logs (w.making i target method args) = false := by
        simp [Chronicle.logs, World.making, Registry.contains_eq_isSome, hstub]
      rw [Registry.get, hstub]
      exact .throw (htold _ (ht.agrees.unlogged hunlogged))
  | some stub =>
      have hid : target.id < w.store.nextObject :=
        Registry.id_of_stub? hstub ▸ ht.agrees.below stub (List.mem_of_find?_eq_some hstub)
      have hresolved := htold _ (ht.agrees.resolved (e := w.making i target method args) rfl hid
        (by simp [World.making, Registry.contains_eq_isSome, hstub]) (by simp [World.making, hround]))
      rw [Registry.get, hstub]
      refine .pure (.bind (.session (.bind (.of_ok (runOn_onStore _ w) ?_))))
      rw [newCall_eq_call ht]
      refine .bind (.get (.bind (.of_ok (runOn_onStore _ _) (.bind ?_))))
      refine (Preserves.stub (I := fun w' => w'.Told _ es ∧ w'.sessions.length = w.sessions.length) target.id _
        ⟨hresolved, rfl⟩).mono (fun current w' hw' => ?_) fun _ _ h => h.1
      refine answered_tells (e := w.making i target method args) ?_ (by rw [hw'.2]; rfl) hw'.1
      split
      · exact respond_preserves World.Told.keptByAnswers (fun o => hc o _) (fun run hrun args => hu run hrun args _) _
      · exact fallback_preserves current World.Told.keptByAnswers fun run hrun args => hu run hrun args _

theorem interceptWith_tells {caller : Caller (Log (Watched μ))} (ht : t.Tells w es es)
    (hmade : w.chronicle = .made (w.making i target method args) :: t)
    (hc : ∀ o es, (caller o).Preserves (World.Told es es))
    (hu : ∀ run ∈ underlying, ∀ args es, (run args).Preserves (World.Told es es)) :
    (interceptWith caller i target method args underlying).Ends w
      (World.Told (w.making i target method args :: es) es) := by
  refine .bind (.session ?_)
  cases hround : (w.session i).round with
  | none => exact answerCall_tells ht hmade hround hc hu
  | some round =>
      have hunlogged : t.logs (w.making i target method args) = false := by
        simp [Chronicle.logs, World.making, hround]
      have htold : w.Told (w.making i target method args :: es) es := by
        rw [World.Told, hmade]
        exact ⟨congrArg (_ :: ·) ht.underway, ht.frames, ht.agrees.unlogged hunlogged, ht.sound⟩
      refine .bind (.get (.bind (.of_ok rfl (.bind (.modifySession (.pure ?_))))))
      refine Chronicle.Tells.modifySession (htold.store ?_) fun _ => rfl
      exact Store.capture_keepsLogs _ round _ target method args (w.session i).frames.head?

/-! ## Calls that are told -/

theorem tell_tells {h : Happening} {framed : List Made} (hw : Chronicle.Tells (h :: w.chronicle) w es framed) :
    (tell h : Act (Log (Watched μ)) ε Unit).Ends w (World.Told es framed) :=
  .of_ok rfl ⟨hw.underway, hw.frames, hw.agrees, hw.sound⟩

/-- However a call ends, it has returned to the frames that it found. -/
theorem tellCall_preserves {x : Act (Log (Watched μ)) MockError Value}
    (hx : ∀ w t es, Chronicle.Tells t w es es → w.chronicle = .made (w.making i target method args) :: t →
      x.Ends w (World.Told (w.making i target method args :: es) es)) (es : List Made) :
    (tellCall i target method args x).Preserves (World.Told es es) := by
  intro w hw
  refine .bind (.get (.bind (.of_ok rfl (.bind ?_))))
  refine .attempt_either (hx _ w.chronicle es ?_ rfl) fun result w' hw' => ?_
  · exact ⟨hw.underway, hw.frames, hw.agrees, hw.sound⟩
  · have hreturned : Chronicle.Tells (.returned (fun j => (w'.session j).frames) :: w'.chronicle) w' es es := by
      refine ⟨congrArg List.tail hw'.underway, hw'.frames, hw'.agrees.of_same (fun _ => rfl) rfl, ?_, hw'.sound⟩
      exact ⟨_, es, hw'.underway, funext fun j => (hw'.frames j).trans (hw.frames j).symm⟩
    refine .bind (.get (.bind ((tell_tells hreturned).mono (fun _ w₂ h => ?_) fun _ _ h => h)))
    exact .ofExcept (fun _ _ => h) fun _ _ => h

theorem tellMade_preserves : ∀ (n : Nat) (o : Outgoing) (es : List Made),
    (tellMade n o).Preserves (World.Told (μ := μ) es es)
  | 0, _, _ => .throw _
  | n + 1, o, es => by
      refine tellCall_preserves (fun w t es ht hmade => interceptWith_tells ht hmade (tellMade_preserves n) ?_) es
      intro run hrun args es
      obtain ⟨f, -, rfl⟩ := Option.map_eq_some_iff.mp hrun
      exact react_preserves World.Told.keptByAnswers (fun o => tellMade_preserves n o es) (f args)

theorem tellIntercept_preserves (hu : ∀ run ∈ underlying, ∀ args es, (run args).Preserves (World.Told es es))
    (es : List Made) : (tellIntercept i target method args underlying).Preserves (World.Told es es) :=
  Preserves.get.bind fun w =>
    tellCall_preserves (fun _ _ _ ht hmade => interceptWith_tells ht hmade (tellMade_preserves w.depth) hu) es

end Act

end TestDouble
