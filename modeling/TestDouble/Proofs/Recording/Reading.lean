import TestDouble.Proofs.HostType
import TestDouble.Proofs.Recording.Recorded

/-!
# Reading stand-ins

A type whose shape is known in all its parts reads every stand-in that is drawn for it, and refuses the one that is
handed out where no shape is known.
-/

namespace TestDouble

/-- No part of the shape is left open. -/
def Shape.isKnown : Shape → Bool
  | .generic => false
  | .list element => element.isKnown
  | _ => true

theorem Shape.ne_generic_of_isKnown {s : Shape} (h : s.isKnown = true) : s ≠ .generic := by
  rintro rfl
  cases h

/-! ## Drawing -/

namespace Generator

variable {P : Value → Prop} {d : Drawing (Option Value)}

/-- A value is drawn whatever was drawn before, and it is as `P` says. -/
def Always (P : Value → Prop) (d : Drawing (Option Value)) : Prop := ∀ st, ∃ v, (d st).1 = some v ∧ P v

theorem redraw_always (hd : Always P d) (n : Nat) {v : Value} (hv : P v) : Always P (redraw d n v) := by
  induction n generalizing v with
  | zero => exact fun _ => ⟨v, rfl, hv⟩
  | succ n ih =>
      intro st
      rw [redraw_succ]
      split
      · obtain ⟨v', hdraw, hv'⟩ := hd st
        rw [hdraw]
        exact ih hv' (d st).2
      · exact ⟨v, rfl, hv⟩

theorem issue_always (hd : Always P d) (s : Shape) : Always P (issue s d) := by
  intro st
  obtain ⟨v, hdraw, hv⟩ := hd st
  rw [issue_apply, hdraw]
  dsimp only
  split
  · obtain ⟨v', hredraw, hv'⟩ := redraw_always hd maxRedraws hv (d st).2
    rcases hr : redraw d maxRedraws v (d st).2 with ⟨_ | w, st'⟩
    · rw [hr] at hredraw; cases hredraw
    · rw [hr] at hredraw; cases hredraw
      exact ⟨v', rfl, hv'⟩
  · exact ⟨v, rfl, hv⟩

/-- A known shape has a value, and accepts it. -/
theorem draw_always : (s : Shape) → s.isKnown = true → Always (fun v => s.accepts v = true) (draw s)
  | .list element, h => fun st => by
      obtain ⟨v, hdraw, hv⟩ := issue_always (draw_always element h) element st
      refine ⟨.list [v], congrArg (Option.map fun v => Value.list [v]) hdraw, ?_⟩
      simpa [Shape.accepts] using hv
  | .object className, _ => fun _ => ⟨_, rfl, beq_self_eq_true className⟩
  | .unit, _ | .bool, _ | .byte, _ | .short, _ | .int, _ | .long, _ | .float, _ | .double, _ | .char, _ | .str, _
  | .duration, _ => fun _ => ⟨_, rfl, rfl⟩

theorem signature?_always {s : Shape} (h : s.isKnown = true) : Always (fun v => s.accepts v = true) (signature? s) :=
  issue_always (draw_always s h) s

end Generator

/-! ## Reading -/

namespace HostType

theorem exists_ofEach {α : Type} {read : Value → Except MockError α} {vs : List Value}
    (h : ∀ v ∈ vs, ∃ a, read v = .ok a) : ∃ as, ofEach read vs = .ok as := by
  induction vs with
  | nil => exact ⟨[], rfl⟩
  | cons v vs ih =>
      obtain ⟨a, ha⟩ := h v List.mem_cons_self
      obtain ⟨as, has⟩ := ih fun w hw => h w (List.mem_cons_of_mem v hw)
      exact ⟨a :: as, by simp only [ofEach, ha, has]; rfl⟩

/-- What the shape accepts is read at the type. -/
theorem exists_ofValue : (t : HostType) → t.shape.isKnown = true → {v : Value} → t.shape.accepts v = true →
    ∃ x, t.ofValue v = .ok x
  | .option content, h, v, hv => by
      by_cases hnull : v = .null
      · subst hnull
        exact ⟨none, rfl⟩
      · obtain ⟨x, hx⟩ := exists_ofValue content h hv
        exact ⟨some x, by rw [ofValue_option hnull, hx]; rfl⟩
  | .list element, h, v, hv => by
      cases v with
      | list items =>
          have hitems : items.all element.shape.accepts = true := hv
          obtain ⟨xs, hxs⟩ := exists_ofEach fun w hw => exists_ofValue element h (List.all_eq_true.mp hitems w hw)
          exact ⟨xs, by rw [ofValue, hxs]⟩
      | _ => cases hv
  | .unit, _, v, hv | .bool, _, v, hv | .byte, _, v, hv | .short, _, v, hv | .int, _, v, hv | .long, _, v, hv
  | .float, _, v, hv | .double, _, v, hv | .char, _, v, hv | .str, _, v, hv | .duration, _, v, hv => by
      cases v <;> first | exact ⟨_, rfl⟩ | cases hv
  | .value, h, _, _ | .object, h, _, _ => nomatch h

/-- Where the shape is given an object is refused, and the error names this shape. -/
theorem ofValue_object : (t : HostType) → t.shape ≠ .generic → (x : ObjectRef) →
    t.ofValue (.object x) = .error (.rejected t.shape (.object x))
  | .option content, h, x => by
      rw [ofValue_option (v := .object x) nofun, ofValue_object content h x]
      rfl
  | .list _, _, _ | .unit, _, _ | .bool, _, _ | .byte, _, _ | .short, _, _ | .int, _, _ | .long, _, _ | .float, _, _
  | .double, _, _ | .char, _, _ | .str, _, _ | .duration, _, _ => rfl
  | .value, h, _ | .object, h, _ => absurd rfl h

theorem object?_of_accepts (t : HostType) (h : t.shape.isKnown = true) {v : Value} (hv : t.shape.accepts v = true) :
    v.object? = none := by
  cases v with
  | object x =>
      obtain ⟨y, hy⟩ := exists_ofValue t h hv
      rw [ofValue_object t (Shape.ne_generic_of_isKnown h) x] at hy
      cases hy
  | _ => rfl

end HostType

/-! ## Captured calls -/

namespace OpenRound.Captures

variable {o : OpenRound} {g g' : Generator} {s s' : Store} {target : ObjectRef} {method : Method} {args : List Value}
  {caller : Option Frame} {c : CapturedCall}

/-- A call with a hint returns a value of the hinted shape. -/
theorem accepts_of_hint (h : o.Captures g s target method args caller c g' s') {shape : Shape}
    (hhint : o.hints.lookup o.round.calls.length = some shape) (hknown : shape.isKnown = true) :
    shape.accepts c.returned = true := by
  have hresult : (o.capture g s target method args caller).1 = c.returned := by rw [h.result]
  obtain ⟨v, hdraw, hv⟩ := Generator.signature?_always hknown (g, s.nextObject)
  rcases hs : Generator.signature? shape (g, s.nextObject) with ⟨drawn, st⟩
  rw [hs] at hdraw
  cases hdraw
  rw [← hresult]
  simp only [capture, drawing, hhint, Option.getD_some, hs]
  exact hv

/-- A call of unknown shape without a hint returns a stand-in that no known shape reads. -/
theorem placeholder_of_generic (h : o.Captures g s target method args caller c g' s')
    (hhint : o.hints.lookup o.round.calls.length = none) (hreturns : method.returns = .generic) :
    ∃ x, c.returned = .object x ∧ x.isPlaceholder = true := by
  have hresult : (o.capture g s target method args caller).1 = c.returned := by rw [h.result]
  rw [← hresult]
  simp only [capture, drawing, hhint, Option.getD_none, hreturns]
  exact ⟨_, rfl, rfl⟩

end OpenRound.Captures

end TestDouble
