import TestDouble.Proofs.Registry
import TestDouble.Session.Statement

/-!
# Running computations

What every basic computation returns and does to the world.
-/

namespace TestDouble

/-- Nothing is pending. -/
structure Session.Idle (s : Session) : Prop where
  phase : s.phase = .answering
  request : s.request = none
  resolution : s.resolution = none
  notCalled : s.notCalled = []
  round : s.round = none

namespace World

variable {σ : Type} {w : World σ} {i j : Nat} {f g : Session → Session}

theorem session_modifySession (w : World σ) (i j : Nat) (f : Session → Session) :
    (w.modifySession i f).session j =
      if i = j ∧ i < w.sessions.length then f (w.session j) else w.session j := by
  simp only [session, modifySession, newSession, List.getD_eq_getElem?_getD, List.getElem?_modify]
  by_cases hij : i = j
  · subst hij
    by_cases hi : i < w.sessions.length
    · simp [hi]
    · simp [hi]
  · simp [hij]

theorem session_modifySession_self (hi : i < w.sessions.length) :
    (w.modifySession i f).session i = f (w.session i) := by
  rw [session_modifySession, if_pos ⟨rfl, hi⟩]

theorem session_modifySession_ne (hij : i ≠ j) : (w.modifySession i f).session j = w.session j := by
  rw [session_modifySession, if_neg fun h => hij h.1]

theorem modifySession_modifySession : (w.modifySession i f).modifySession i g = w.modifySession i (g ∘ f) := by
  simp [modifySession, List.modify_modify_eq]

/-- Only what happens to the session itself matters. -/
theorem sessions_modify_congr (h : f (w.session i) = g (w.session i)) :
    w.sessions.modify i f = w.sessions.modify i g := by
  refine List.ext_getElem? fun j => ?_
  rw [List.getElem?_modify, List.getElem?_modify]
  by_cases hij : i = j
  · subst hij
    cases hs : w.sessions[i]? with
    | none => rfl
    | some s =>
        rw [session, List.getD_eq_getElem?_getD, hs, Option.getD_some] at h
        simp [h]
  · simp [hij]

theorem modifySession_self (h : f (w.session i) = w.session i) : w.modifySession i f = w := by
  rw [modifySession, sessions_modify_congr (g := id) h, List.modify_id]

@[simp] theorem store_modifySession : (w.modifySession i f).store = w.store := rfl

@[simp] theorem length_modifySession : (w.modifySession i f).sessions.length = w.sessions.length := by
  simp [modifySession]

end World

namespace Act

variable {σ ε ε' α β : Type}

/-- The result of a computation, and the world after it. -/
def runOn (x : Act σ ε α) (w : World σ) : Except ε α × World σ := x.run.run w

@[simp] theorem runOn_pure (a : α) (w : World σ) : (pure a : Act σ ε α).runOn w = (.ok a, w) := rfl

@[simp] theorem runOn_throw (e : ε) (w : World σ) : (throw e : Act σ ε α).runOn w = (.error e, w) := rfl

theorem runOn_bind (x : Act σ ε α) (f : α → Act σ ε β) (w : World σ) : (x >>= f).runOn w =
    match x.runOn w with
    | (.ok a, w) => (f a).runOn w
    | (.error e, w) => (.error e, w) := by
  unfold runOn
  rw [ExceptT.run_bind, StateT.run_bind]
  rcases x.run.run w with ⟨_ | _, w⟩ <;> rfl

theorem runOn_bind_ok {x : Act σ ε α} {f : α → Act σ ε β} {a : α} {w w' : World σ}
    (h : x.runOn w = (.ok a, w')) : (x >>= f).runOn w = (f a).runOn w' := by rw [runOn_bind, h]

theorem runOn_bind_error {x : Act σ ε α} {f : α → Act σ ε β} {e : ε} {w w' : World σ}
    (h : x.runOn w = (.error e, w')) : (x >>= f).runOn w = (.error e, w') := by rw [runOn_bind, h]

@[simp] theorem runOn_get (w : World σ) : (get : Act σ ε (World σ)).runOn w = (.ok w, w) := rfl

@[simp] theorem runOn_ofExcept (r : Except ε α) (w : World σ) :
    (ofExcept r : Act σ ε α).runOn w = (r, w) := by cases r <;> rfl

@[simp] theorem runOn_attempt (x : Act σ ε α) (w : World σ) :
    (attempt x : Act σ ε' (Except ε α)).runOn w = (.ok (x.runOn w).1, (x.runOn w).2) := rfl

theorem runOn_tryCatch (x : Act σ ε α) (h : ε → Act σ ε α) (w : World σ) : (tryCatch x h).runOn w =
    match x.runOn w with
    | (.ok a, w) => (.ok a, w)
    | (.error e, w) => (h e).runOn w := by
  unfold runOn
  rw [ExceptT.run_tryCatch, StateT.run_bind]
  rcases x.run.run w with ⟨_ | _, w⟩ <;> rfl

@[simp] theorem runOn_adapt (f : ε → ε') (x : Act σ ε α) (w : World σ) :
    runOn (ExceptT.adapt f x) w = ((x.runOn w).1.mapError f, (x.runOn w).2) := rfl

/-! ## The parts of the world -/

@[simp] theorem runOn_session (i : Nat) (w : World σ) :
    (session i : Act σ ε Session).runOn w = (.ok (w.session i), w) := rfl

@[simp] theorem runOn_modifySession (i : Nat) (f : Session → Session) (w : World σ) :
    (modifySession i f : Act σ ε Unit).runOn w = (.ok (), w.modifySession i f) := rfl

@[simp] theorem runOn_onStore (f : Store → α × Store) (w : World σ) :
    (onStore f : Act σ ε α).runOn w = (.ok (f w.store).1, { w with store := (f w.store).2 }) := rfl

@[simp] theorem runOn_modifyStore (f : Store → Store) (w : World σ) :
    (modifyStore f : Act σ ε Unit).runOn w = (.ok (), { w with store := f w.store }) := rfl

@[simp] theorem runOn_stub (mock : Nat) (w : World σ) :
    (stub mock : Act σ MockError Stub).runOn w = (w.store.registry.get mock, w) := by
  simp [stub, runOn_bind]

theorem runOn_stub_ok {mock : Nat} {s : Stub} {w : World σ} (h : w.store.registry.stub? mock = some s) :
    (stub mock : Act σ MockError Stub).runOn w = (.ok s, w) := by
  rw [runOn_stub, Registry.get_eq_ok.mpr h]

@[simp] theorem runOn_reset (i : Nat) (w : World σ) :
    (reset i : Act σ ε Unit).runOn w = (.ok (), w.modifySession i Session.cleared) := rfl

@[simp] theorem runOn_fail (i : Nat) (e : ε) (w : World σ) :
    (fail i e : Act σ ε α).runOn w = (.error e, w.modifySession i Session.cleared) := rfl

theorem runOn_orFail_ok {i : Nat} {x : Act σ ε α} {w w' : World σ} {a : α} (h : x.runOn w = (.ok a, w')) :
    (orFail i x).runOn w = (.ok a, w') := by rw [orFail, runOn_tryCatch, h]

theorem runOn_orFail_error {i : Nat} {x : Act σ ε α} {w w' : World σ} {e : ε} (h : x.runOn w = (.error e, w')) :
    (orFail i x).runOn w = (.error e, w'.modifySession i Session.cleared) := by rw [orFail, runOn_tryCatch, h]; rfl

theorem runOn_expectPhase {i : Nat} {operation : String} {allowed : List Phase} {w : World σ} {phase : Phase}
    (hp : (w.session i).phase = phase) (h : allowed.contains phase = true) :
    (expectPhase i operation allowed).runOn w = (.ok phase, w) := by
  rw [expectPhase, runOn_bind_ok (runOn_session i w), hp]
  simp only [h, ↓reduceIte, runOn_pure]

theorem runOn_expectPhase_error {i : Nat} {operation : String} {allowed : List Phase} {w : World σ}
    (h : allowed.contains (w.session i).phase = false) : (expectPhase i operation allowed).runOn w =
      (.error (.badSequence operation (w.session i).phase none), w.modifySession i Session.cleared) := by
  rw [expectPhase, runOn_bind_ok (runOn_session i w)]
  simp only [h, Bool.false_eq_true, ↓reduceIte, runOn_fail]

end Act

end TestDouble
