import TestDouble.Proofs.Session.Running

/-!
# What a computation ensures

`Ensures` says what holds after a computation has succeeded and what holds after it has failed. It is proved
along the computation, one rule for every way to put computations together.
-/

namespace TestDouble.Act

variable {σ ε ε' α β : Type} {w : World σ}

/-- From the world `w` the computation ends as `Q` says, or fails as `E` says. -/
def Ensures (x : Act σ ε α) (w : World σ) (Q : α → World σ → Prop) (E : ε → World σ → Prop) : Prop :=
  match x.runOn w with
  | (.ok a, w') => Q a w'
  | (.error e, w') => E e w'

/-- However the computation ends, it leaves the world as `P` says. -/
abbrev Ends (x : Act σ ε α) (w : World σ) (P : World σ → Prop) : Prop := x.Ensures w (fun _ => P) fun _ => P

namespace Ensures

variable {x : Act σ ε α} {Q Q' : α → World σ → Prop} {E E' : ε → World σ → Prop}

theorem of_ok {a : α} {w' : World σ} (hx : x.runOn w = (.ok a, w')) (h : Q a w') : x.Ensures w Q E := by
  rw [Ensures, hx]; exact h

theorem of_error {e : ε} {w' : World σ} (hx : x.runOn w = (.error e, w')) (h : E e w') : x.Ensures w Q E := by
  rw [Ensures, hx]; exact h

theorem ok {a : α} {w' : World σ} (h : x.Ensures w Q E) (hx : x.runOn w = (.ok a, w')) : Q a w' := by
  rw [Ensures, hx] at h; exact h

theorem error {e : ε} {w' : World σ} (h : x.Ensures w Q E) (hx : x.runOn w = (.error e, w')) : E e w' := by
  rw [Ensures, hx] at h; exact h

/-- What holds in any case. -/
theorem world {P : World σ → Prop} (h : x.Ensures w (fun _ => P) fun _ => P) : P (x.runOn w).2 := by
  rcases hx : x.runOn w with ⟨_ | _, w'⟩
  · exact h.error hx
  · exact h.ok hx

theorem of_world {P : World σ → Prop} (h : P (x.runOn w).2) : x.Ensures w (fun _ => P) fun _ => P := by
  rcases hx : x.runOn w with ⟨_ | _, w'⟩ <;> rw [hx] at h
  · exact of_error hx h
  · exact of_ok hx h

theorem mono (h : x.Ensures w Q E) (hQ : ∀ a w', Q a w' → Q' a w') (hE : ∀ e w', E e w' → E' e w') :
    x.Ensures w Q' E' := by
  rcases hx : x.runOn w with ⟨_ | _, w'⟩
  · exact of_error hx (hE _ _ (h.error hx))
  · exact of_ok hx (hQ _ _ (h.ok hx))

theorem and (h : x.Ensures w Q E) (h' : x.Ensures w Q' E') :
    x.Ensures w (fun a w' => Q a w' ∧ Q' a w') fun e w' => E e w' ∧ E' e w' := by
  rcases hx : x.runOn w with ⟨_ | _, w'⟩
  · exact of_error hx ⟨h.error hx, h'.error hx⟩
  · exact of_ok hx ⟨h.ok hx, h'.ok hx⟩

theorem pure {a : α} (h : Q a w) : (Pure.pure a : Act σ ε α).Ensures w Q E := of_ok rfl h

theorem throw {e : ε} (h : E e w) : (MonadExcept.throw e : Act σ ε α).Ensures w Q E := of_error rfl h

theorem bind {f : α → Act σ ε β} {Q : β → World σ → Prop}
    (h : x.Ensures w (fun a w' => (f a).Ensures w' Q E) E) : (x >>= f).Ensures w Q E := by
  rcases hx : x.runOn w with ⟨_ | _, w'⟩
  · exact of_error (runOn_bind_error hx) (h.error hx)
  · have hf := h.ok hx
    rwa [Ensures, runOn_bind_ok hx]

theorem attempt {Q : Except ε α → World σ → Prop} {E : ε' → World σ → Prop}
    (h : x.Ensures w (fun a => Q (.ok a)) fun e => Q (.error e)) : (Act.attempt x).Ensures w Q E := by
  refine of_ok (runOn_attempt x w) ?_
  rcases hx : x.runOn w with ⟨_ | _, w'⟩
  · exact h.error hx
  · exact h.ok hx

/-- What comes after an attempt may start from what holds whether it succeeded or failed. -/
theorem attempt_either {P : World σ → Prop} {Q : Except ε α → World σ → Prop} {E : ε' → World σ → Prop}
    (h : x.Ensures w (fun _ => P) fun _ => P) (hQ : ∀ r w', P w' → Q r w') : (Act.attempt x).Ensures w Q E :=
  attempt (h.mono (fun a w' => hQ (.ok a) w') fun e w' => hQ (.error e) w')

theorem adapt {f : ε → ε'} {E : ε' → World σ → Prop} (h : x.Ensures w Q fun e => E (f e)) :
    Ensures (ExceptT.adapt f x) w Q E := by
  have hrun := runOn_adapt f x w
  rcases hx : x.runOn w with ⟨_ | _, w'⟩ <;> rw [hx] at hrun
  · exact of_error hrun (h.error hx)
  · exact of_ok hrun (h.ok hx)

theorem ofExcept {r : Except ε α} (hok : ∀ a, r = .ok a → Q a w) (herror : ∀ e, r = .error e → E e w) :
    (Act.ofExcept r).Ensures w Q E := by
  cases r with
  | ok a => exact of_ok rfl (hok a rfl)
  | error e => exact of_error rfl (herror e rfl)

theorem get {Q : World σ → World σ → Prop} (h : Q w w) : (MonadState.get : Act σ ε (World σ)).Ensures w Q E :=
  of_ok rfl h

theorem session {i : Nat} {Q : Session → World σ → Prop} (h : Q (w.session i) w) :
    (Act.session i : Act σ ε Session).Ensures w Q E := of_ok rfl h

theorem modifySession {i : Nat} {f : Session → Session} {Q : Unit → World σ → Prop} (h : Q () (w.modifySession i f)) :
    (Act.modifySession i f : Act σ ε Unit).Ensures w Q E := of_ok rfl h

theorem fail {i : Nat} {e : ε} (h : E e (w.modifySession i Session.cleared)) :
    (Act.fail i e : Act σ ε α).Ensures w Q E := of_error rfl h

theorem orFail {i : Nat} (h : x.Ensures w Q fun e w' => E e (w'.modifySession i Session.cleared)) :
    (Act.orFail i x).Ensures w Q E := by
  rcases hx : x.runOn w with ⟨_ | _, w'⟩
  · exact of_error (runOn_orFail_error hx) (h.error hx)
  · exact of_ok (runOn_orFail_ok hx) (h.ok hx)

end Ensures

theorem expectPhase_ensures {i : Nat} {operation : String} {allowed : List Phase} {Q : Phase → World σ → Prop}
    {E : MockError → World σ → Prop}
    (hok : (w.session i).phase ∈ allowed → Q (w.session i).phase w)
    (herror : (w.session i).phase ∉ allowed →
      E (.badSequence operation (w.session i).phase none) (w.modifySession i Session.cleared)) :
    (expectPhase i operation allowed).Ensures w Q E := by
  refine .bind (.session ?_)
  dsimp only
  split
  case isTrue h => exact .pure (hok (List.contains_iff_mem.mp h))
  case isFalse h => exact .fail (herror fun hm => h (List.contains_iff_mem.mpr hm))

/-! ## The store only -/

/-- Nothing but the store changes, and all errors are of one kind. -/
def StoreOnly (P : ε → Prop) (x : Act σ ε α) : Prop :=
  ∀ w, x.Ensures w (fun _ w' => ∃ store, w' = { w with store }) fun e w' => P e ∧ ∃ store, w' = { w with store }

namespace StoreOnly

variable {x : Act σ ε α} {P : ε → Prop}

theorem pure (a : α) : (Pure.pure a : Act σ ε α).StoreOnly P := fun w => .pure ⟨w.store, rfl⟩

theorem throw {e : ε} (h : P e) : (MonadExcept.throw e : Act σ ε α).StoreOnly P := fun w => .throw ⟨h, w.store, rfl⟩

theorem bind {f : α → Act σ ε β} (hx : x.StoreOnly P) (hf : ∀ a, (f a).StoreOnly P) : (x >>= f).StoreOnly P := by
  intro w
  refine .bind ((hx w).mono (fun a w' h => ?_) fun _ _ h => h)
  obtain ⟨store, rfl⟩ := h
  exact hf a { w with store }

theorem ofExcept {r : Except ε α} (h : ∀ e, r = .error e → P e) : (Act.ofExcept r : Act σ ε α).StoreOnly P := fun w =>
  .ofExcept (fun _ _ => ⟨w.store, rfl⟩) fun e he => ⟨h e he, w.store, rfl⟩

theorem get : (MonadState.get : Act σ ε (World σ)).StoreOnly P := fun w => .get ⟨w.store, rfl⟩

theorem onStore (f : Store → α × Store) : (Act.onStore f : Act σ ε α).StoreOnly P := fun w =>
  .of_ok rfl ⟨(f w.store).2, rfl⟩

theorem modifyStore (f : Store → Store) : (Act.modifyStore f : Act σ ε Unit).StoreOnly P := fun w =>
  .of_ok rfl ⟨f w.store, rfl⟩

theorem updateStore {f : Store → Except ε Store} (h : ∀ s e, f s = .error e → P e) :
    (Act.updateStore f : Act σ ε Unit).StoreOnly P := fun w =>
  .bind (.get (.bind (.ofExcept (fun store _ => .of_ok rfl ⟨store, rfl⟩) fun e he => ⟨h w.store e he, w.store, rfl⟩)))

theorem discard (hx : x.StoreOnly P) : (Functor.discard x).StoreOnly P := hx.bind fun _ => pure _

theorem forM {f : β → Act σ ε PUnit} (hf : ∀ b, (f b).StoreOnly P) : ∀ bs : List β, (bs.forM f).StoreOnly P
  | [] => pure _
  | b :: bs => (hf b).bind fun _ => forM hf bs

theorem stub {P : MockError → Prop} {mock : Nat} (h : P (.unknown mock)) :
    (Act.stub mock : Act σ MockError Stub).StoreOnly P := by
  refine get.bind fun w => ofExcept fun e he => ?_
  unfold Registry.get at he
  cases hs : w.store.registry.stub? mock with
  | some s => rw [hs] at he; cases he
  | none => rw [hs] at he; cases he; exact h

theorem ensures (hx : x.StoreOnly P) {Q : World σ → Prop} (h : ∀ store, Q { w with store }) :
    x.Ensures w (fun _ => Q) fun e w' => P e ∧ Q w' := by
  refine (hx w).mono (fun _ _ hw => ?_) fun _ _ hw => ⟨hw.1, ?_⟩
  · obtain ⟨store, rfl⟩ := hw
    exact h store
  · obtain ⟨-, store, rfl⟩ := hw
    exact h store

end StoreOnly

end TestDouble.Act
