import TestDouble.Proofs.Session.ChainExample
import TestDouble.Proofs.Session.Stubbing

/-!
# Recording a chain by example

A block that follows a chain is recorded without fail: every link returns a new object, and nothing but identities
and sequence numbers is taken from the store.
-/

namespace TestDouble

/-- Where a method declares an object, a captured call returns one. -/
theorem OpenRound.Captures.exists_object {o : OpenRound} {g g' : Generator} {s s' : Store} {target : ObjectRef}
    {method : Method} {args : List Value} {caller : Option Frame} {c : CapturedCall}
    (h : o.Captures g s target method args caller c g' s') (hhints : o.hints = []) {className : String}
    (hreturns : method.returns = .object className) : ∃ x, c.returned = .object x := by
  have hresult : (o.capture g s target method args caller).1 = c.returned := by rw [h.result]
  obtain ⟨-, hdraw⟩ := Generator.signature?_draws (.object className) (g, s.nextObject)
  cases hs : Generator.signature? (.object className) (g, s.nextObject) with
  | mk drawn st =>
      rw [hs] at hdraw
      rw [← hresult]
      simp only [capture, drawing, hhints, hreturns, List.lookup_nil, Option.getD_none, hs]
      cases drawn with
      | none => exact ⟨_, rfl⟩
      | some v =>
          have hshape := (hdraw v rfl).shape
          cases v with
          | object x => exact ⟨x, rfl⟩
          | list items => cases items <;> cases hshape
          | _ => cases hshape

theorem Act.runOn_callObject {σ : Type} {w w' : World σ} {i : Nat} {target x : ObjectRef} {method : Method}
    {args : List Value} {className : String} (hreturns : method.returns = .object className)
    (hrun : (intercept i target method args none).runOn w = (.ok (.object x), w')) :
    (callObject i target method args className).runOn w = (.ok x, w') := by
  rw [callObject, runOn_bind_ok hrun]
  simp only [hreturns, ↓reduceIte, runOn_pure]

namespace ChainExample

variable {σ : Type} {w : World σ} {i : Nat} {e : ChainExample}

theorem Captured.mono {n n' : Nat} (hle : n ≤ n') {t : ObjectRef} {ls : List Link} {cs : List CapturedCall}
    (h : e.Captured n' t ls cs) : e.Captured n t ls cs := by
  cases h with
  | last hc hfresh => exact .last hc fun x hx => Nat.le_trans hle (hfresh x hx)
  | link hc hnext hfresh hlt rest => exact .link hc hnext (Nat.le_trans hle hfresh) hlt rest

/-- What following a chain does to a round. -/
structure Following (w : World σ) (i : Nat) (e : ChainExample) (t : ObjectRef) (ls : List Link) (o : OpenRound)
    (g : Generator) (s : Store) (v : Value) (cs : List CapturedCall) (g' : Generator) (s' : Store) : Prop where
  runs : (e.follow i t ls).runOn (w.inRound i (some o) g s) = (.ok v, w.inRound i
    (some { o with round := { o.round with calls := o.round.calls ++ cs } }) g' s')
  captured : e.Captured s.nextObject t ls cs
  spent : s.Spent s'
  recorded : OpenRound.Recorded o s.nextObject →
    OpenRound.Recorded { o with round := { o.round with calls := o.round.calls ++ cs } } s'.nextObject

theorem exists_following (hi : i < w.sessions.length) (e : ChainExample) (t : ObjectRef) (ls : List Link)
    (o : OpenRound) (hhints : o.hints = []) (g : Generator) (s : Store) :
    ∃ v cs g' s', Following w i e t ls o g s v cs g' s' := by
  induction ls generalizing t o g s with
  | nil =>
      obtain ⟨c, g', s', hcap⟩ := o.exists_captures g s t e.method e.args (w.session i).frames.head?
      refine ⟨c.returned, [c], g', s', Act.runOn_intercept hi none hcap, ?_, hcap.spent, fun ho => ?_⟩
      · exact .last ⟨hcap.target, hcap.method, hcap.args⟩ fun x hx => (hcap.fresh x hx).1
      · have hrec := ho.capture g t e.method e.args (w.session i).frames.head?
        rwa [hcap.result] at hrec
  | cons l ls ih =>
      obtain ⟨c, g₁, s₁, hcap⟩ := o.exists_captures g s t l.method l.args (w.session i).frames.head?
      obtain ⟨x, hx⟩ := hcap.exists_object hhints l.returns
      have hfresh := hcap.fresh x (by rw [hx]; rfl)
      obtain ⟨v, cs, g', s', h⟩ := ih x { o with round := { o.round with calls := o.round.calls ++ [c] } } hhints g₁ s₁
      have hcall := Act.runOn_intercept hi none hcap
      rw [hx] at hcall
      refine ⟨v, c :: cs, g', s', ?_, ?_, hcap.spent.trans h.spent, fun ho => ?_⟩
      · have hruns := h.runs
        rw [follow, Act.runOn_bind_ok (Act.runOn_callObject l.returns hcall), hruns]
        simp
      · exact .link ⟨hcap.target, hcap.method, hcap.args⟩ hx hfresh.1 hfresh.2 h.captured
      · have hrec := ho.capture g t l.method l.args (w.session i).frames.head?
        rw [hcap.result] at hrec
        simpa using h.recorded hrec

/-- Every pass of the block makes a round that was written. -/
theorem completes (hi : i < w.sessions.length) (e : ChainExample) (s : Store) :
    Act.Completes w i (e.block i) (fun _ => e.Written s.nextObject) s.Spent := by
  intro g s₁ hs
  obtain ⟨v, cs, g', s', h⟩ := exists_following (w := w) hi e e.root e.links (.start g.round []) rfl g s₁
  refine ⟨{ index := g.round, calls := cs }, g', s', ?_, ⟨?_, rfl, h.captured.mono hs.le⟩, hs.trans h.spent⟩
  · rw [block, Act.runOn_adapt, Act.runOn_bind_ok h.runs, Act.runOn_pure]
    rfl
  · exact ⟨_, _, h.recorded (.start g.round [] _), rfl⟩

theorem Described.ne_nil {n : Nat} {t : ObjectRef} {ls : List Link} {res : Resolution} (h : e.Described n t ls res) :
    res ≠ [] := by
  cases h <;> exact List.cons_ne_nil _ _

/-- The block is recorded, and resolved to what was written. -/
theorem exists_recordBlock (hi : i < w.sessions.length) (hround : (w.session i).round = none)
    (hnotCalled : (w.session i).notCalled = []) (hmin : w.settings.minRounds ≠ 0) (hp : e.Plain w.store.nextObject)
    (phase : Phase) : ∃ res g s, (Act.recordBlock i (e.block i) phase).runOn w = (.ok res, w.inRound i none g s) ∧
      e.Described w.store.nextObject e.root e.links res ∧ w.store.Spent s := by
  obtain ⟨first, rest, g, s, hrun, -, hall, hs⟩ :=
    (completes hi e w.store).recordRounds hi phase hmin (w.session i).generator (.refl _)
  rw [World.inRound_self hround hnotCalled] at hrun
  obtain ⟨res, hres, hdescribed⟩ := ofRounds_written (fun r hr => by
    obtain ⟨k, hk⟩ := List.mem_iff_getElem?.mp hr
    exact hall k r hk) hp phase
  exact ⟨res, g, s, Act.runOn_recordBlock hrun hres hdescribed.ne_nil, hdescribed, hs⟩

end ChainExample

end TestDouble
