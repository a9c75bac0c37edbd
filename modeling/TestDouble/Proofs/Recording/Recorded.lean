import TestDouble.Proofs.Recording.Drawing
import TestDouble.Recording.Resolution

/-!
# Recorded rounds

A recorded round is one that registrations and calls have brought about. Its matchers carry what was drawn
for them, and no two of its calls returned the same object.
-/

namespace TestDouble

/-- Two values of this kind can be told apart. -/
def Value.isDistinguishable (v : Value) : Bool := v.shape.isDistinguishable

theorem Value.isDistinguishable_list (items : List Value) : (Value.list items).isDistinguishable = true := by
  cases items <;> rfl

theorem Value.isDistinguishable_of_beq {v w : Value} (h : (v == w) = true) :
    v.isDistinguishable = w.isDistinguishable := by
  cases v <;> cases w <;>
    first | rfl | rw [Value.isDistinguishable_list, Value.isDistinguishable_list] | simp [BEq.beq, Value.beq] at h

theorem Generator.isDistinguishable_of_signature?_eq_none (shape : Shape) (st : Generator × Nat)
    (h : (signature? shape st).1 = none) : shape.isDistinguishable = true := by
  cases shape with
  | unit => cases h
  | bool => cases h
  | _ => rfl

namespace OpenRound

/-! ## One step -/

/-- What a registration adds to a round. -/
structure Registers (o : OpenRound) (g : Generator) (s : Store) (m : Matcher) (shape : Shape)
    (reg : RegisteredMatcher) (g' : Generator) (s' : Store) : Prop where
  result : o.register g s m shape =
    (reg.signature, { o with round := { o.round with matchers := o.round.matchers ++ [reg] } }, g', s')
  matcher : reg.matcher = m
  pendingFor : reg.pendingFor = o.round.calls.length
  distinguishable : reg.distinguishable = shape.isDistinguishable
  kind : reg.signature.isDistinguishable = shape.isDistinguishable
  self : (reg.signature == reg.signature) = true
  flag : shape = .bool → reg.signature = .bool (g.round % 2 == 0)
  round : g'.round = g.round
  store : ∃ n, s.nextObject ≤ n ∧ s' = { s with nextObject := n }

theorem exists_registers (o : OpenRound) (g : Generator) (s : Store) (m : Matcher) (shape : Shape) :
    ∃ reg g' s', o.Registers g s m shape reg g' s' := by
  obtain ⟨hadv, hdraw⟩ := Generator.signature?_draws shape (g, s.nextObject)
  have hnone := Generator.isDistinguishable_of_signature?_eq_none shape (g, s.nextObject)
  cases hs : Generator.signature? shape (g, s.nextObject) with
  | mk drawn st =>
      obtain ⟨g', n⟩ := st
      rw [hs] at hadv hdraw hnone
      cases drawn with
      | some v =>
          have hv := hdraw v rfl
          refine ⟨⟨m, v, shape.isDistinguishable, o.round.calls.length⟩, g', { s with nextObject := n }, ?_⟩
          refine ⟨by simp [register, drawing, hs], rfl, rfl, rfl, ?_, hv.self, hv.flag, hadv.round, n, hadv.le, rfl⟩
          rw [Value.isDistinguishable, hv.shape]
      | none =>
          have hd := hnone rfl
          refine ⟨⟨m, .object ⟨n, ObjectRef.signatureClass⟩, true, o.round.calls.length⟩, g',
            { s with nextObject := n + 1 }, ?_⟩
          refine ⟨?_, rfl, rfl, hd.symm, hd.symm, by simp [BEq.beq, Value.beq], ?_, hadv.round, n + 1,
            Nat.le_succ_of_le hadv.le, rfl⟩
          · simp only [register, drawing, hs]; rfl
          · rintro rfl; cases hd

/-- What a call adds to a round. -/
structure Captures (o : OpenRound) (g : Generator) (s : Store) (target : ObjectRef) (method : Method)
    (args : List Value) (caller : Option Frame) (c : CapturedCall) (g' : Generator) (s' : Store) : Prop where
  result : o.capture g s target method args caller =
    (c.returned, { o with round := { o.round with calls := o.round.calls ++ [c] } }, g', s')
  target : c.call.target = target
  method : c.call.method = method
  args : c.call.args = args
  fresh : ∀ x, c.returned.object? = some x → s.nextObject ≤ x.id ∧ x.id < s'.nextObject
  round : g'.round = g.round
  store : ∃ n, s.nextObject ≤ n ∧ s' = { s with nextObject := n, nextSequence := s.nextSequence + 1 }

theorem exists_captures (o : OpenRound) (g : Generator) (s : Store) (target : ObjectRef) (method : Method)
    (args : List Value) (caller : Option Frame) : ∃ c g' s', o.Captures g s target method args caller c g' s' := by
  obtain ⟨hadv, hdraw⟩ :=
    Generator.signature?_draws ((o.hints.lookup o.round.calls.length).getD method.returns) (g, s.nextObject)
  cases hs : Generator.signature? ((o.hints.lookup o.round.calls.length).getD method.returns) (g, s.nextObject) with
  | mk drawn st =>
      obtain ⟨g', n⟩ := st
      rw [hs] at hadv hdraw
      let call : Call := ⟨target, method, args, s.nextSequence, caller⟩
      cases drawn with
      | some v =>
          refine ⟨⟨call, v, method.returns == .generic⟩, g',
            { s with nextObject := n, nextSequence := s.nextSequence + 1 }, ?_⟩
          refine ⟨?_, rfl, rfl, rfl, (hdraw v rfl).fresh, hadv.round, n, hadv.le, rfl⟩
          simp [capture, drawing, hs, Store.newCall, call]
      | none =>
          refine ⟨⟨call, .object ⟨n, ObjectRef.placeholderClass⟩, method.returns == .generic⟩, g',
            { s with nextObject := n + 1, nextSequence := s.nextSequence + 1 }, ?_⟩
          refine ⟨?_, rfl, rfl, rfl, fun x hx => ?_, hadv.round, n + 1, Nat.le_succ_of_le hadv.le, rfl⟩
          · simp only [capture, drawing, hs, Store.newCall]; rfl
          · cases hx
            exact ⟨hadv.le, Nat.lt_succ_self n⟩

/-! ## Many steps -/

/-- A round that was recorded step by step. The identities it has handed out lie below the bound; others may
have been taken in between. -/
inductive Recorded : OpenRound → Nat → Prop where
  | start (index : Nat) (hints : Hints) (bound : Nat) : Recorded (.start index hints) bound
  | later {o : OpenRound} {bound bound' : Nat} (h : Recorded o bound) (hle : bound ≤ bound') : Recorded o bound'
  | register {o : OpenRound} {s : Store} (h : Recorded o s.nextObject) (g : Generator) (m : Matcher)
      (shape : Shape) :
      Recorded (o.register g s m shape).2.1 (o.register g s m shape).2.2.2.nextObject
  | capture {o : OpenRound} {s : Store} (h : Recorded o s.nextObject) (g : Generator) (target : ObjectRef)
      (method : Method) (args : List Value) (caller : Option Frame) :
      Recorded (o.capture g s target method args caller).2.1
        (o.capture g s target method args caller).2.2.2.nextObject

/-- What every recorded round keeps. -/
structure Sound (o : OpenRound) (bound : Nat) : Prop where
  distinguishable : ∀ m ∈ o.round.matchers, m.distinguishable = m.signature.isDistinguishable
  below : ∀ c ∈ o.round.calls, ∀ x, c.returned.object? = some x → x.id < bound
  apart : o.round.calls.Pairwise fun c d =>
    ∀ x y, c.returned.object? = some x → d.returned.object? = some y → x.id ≠ y.id

theorem Recorded.sound {o : OpenRound} {bound : Nat} (h : Recorded o bound) : o.Sound bound := by
  induction h with
  | start index hints bound => exact ⟨fun _ h => (nomatch h), fun _ h => (nomatch h), .nil⟩
  | later _ hle ih => exact ⟨ih.distinguishable, fun c hc x hx => Nat.lt_of_lt_of_le (ih.below c hc x hx) hle, ih.apart⟩
  | @register o s _ g m shape ih =>
      obtain ⟨reg, g', s', hreg⟩ := o.exists_registers g s m shape
      obtain ⟨n, hn, rfl⟩ := hreg.store
      rw [hreg.result]
      refine ⟨fun m' hm => ?_, fun c hc x hx => Nat.lt_of_lt_of_le (ih.below c hc x hx) hn, ih.apart⟩
      rcases List.mem_append.mp hm with hm | hm
      · exact ih.distinguishable m' hm
      · cases List.mem_singleton.mp hm
        rw [hreg.distinguishable, hreg.kind]
  | @capture o s _ g target method args caller ih =>
      obtain ⟨c, g', s', hcap⟩ := o.exists_captures g s target method args caller
      have hfresh := hcap.fresh
      obtain ⟨n, hn, rfl⟩ := hcap.store
      rw [hcap.result]
      refine ⟨ih.distinguishable, fun d hd x hx => ?_, ?_⟩
      · rcases List.mem_append.mp hd with hd | hd
        · exact Nat.lt_of_lt_of_le (ih.below d hd x hx) hn
        · cases List.mem_singleton.mp hd
          exact (hfresh x hx).2
      · refine List.pairwise_append.mpr ⟨ih.apart, List.pairwise_singleton _ _, fun d hd e he x y hx hy => ?_⟩
        cases List.mem_singleton.mp he
        exact Nat.ne_of_lt (Nat.lt_of_lt_of_le (ih.below d hd x hx) (hfresh y hy).1)

end OpenRound

namespace Round

/-- A round that was recorded step by step. -/
def Recorded (r : Round) : Prop := ∃ o bound, OpenRound.Recorded o bound ∧ o.round = r

variable {r : Round}

theorem Recorded.distinguishable (h : r.Recorded) {i : Nat} {m : RegisteredMatcher} (hm : r.matchers[i]? = some m) :
    m.distinguishable = m.signature.isDistinguishable := by
  obtain ⟨o, bound, ho, rfl⟩ := h
  exact ho.sound.distinguishable m (List.mem_of_getElem? hm)

/-- An object was returned by one call only. -/
theorem Recorded.returned_once (h : r.Recorded) {i j : Nat} {c d : CapturedCall} {x y : ObjectRef}
    (hc : r.calls[i]? = some c) (hd : r.calls[j]? = some d) (hx : c.returned.object? = some x)
    (hy : d.returned.object? = some y) (hid : x.id = y.id) : i = j := by
  obtain ⟨o, bound, ho, rfl⟩ := h
  obtain ⟨hi, rfl⟩ := List.getElem?_eq_some_iff.mp hc
  obtain ⟨hj, rfl⟩ := List.getElem?_eq_some_iff.mp hd
  have hapart := List.pairwise_iff_getElem.mp ho.sound.apart
  rcases Nat.lt_trichotomy i j with hlt | heq | hlt
  · exact absurd hid (hapart i j hi hj hlt x y hx hy)
  · exact heq
  · exact absurd hid.symm (hapart j i hj hi hlt y x hy hx)

end Round

end TestDouble
