import TestDouble.Proofs.Recording.Completing
import TestDouble.Proofs.Recording.Issuing

/-!
# Rounds that tell their matchers apart

Where no request of a round may repeat values, no stand-in of a matcher is an element of another one. A block with
such a round is resolved if all of its matchers can be placed.
-/

namespace TestDouble

theorem Shape.depth_eq_zero {s : Shape} (h : s.isDistinguishable = false) : s.depth = 0 := by
  cases s <;> first | rfl | cases h

theorem Value.object?_nested {v : Value} {o : ObjectRef} : {n : Nat} → (v.nested n).object? = some o →
    v.object? = some o
  | 0, h => h

namespace Generator

variable {s : Shape} {st : Generator × Nat} {v : Value}

/-- What was issued before is neither the value that is given now nor an element of it. -/
structure Unlike (st : Generator × Nat) (v : Value) : Prop where
  distinguishable : ∀ x ∈ v.elements, x.isDistinguishable = true
  value : ∀ u ∈ st.1.issued, (u == v) = false
  elements : ∀ x ∈ v.elements, ∀ u ∈ st.1.issued, (u == x) = false
  objects : ∀ x ∈ v.elements, ∀ o, x.object? = some o → st.2 ≤ o.id
  apart : ∀ x ∈ v.elements, (x == v) = false

theorem unlike_of_plain (hplain : v.elements = []) (hv : ∀ u ∈ st.1.issued, (u == v) = false) : Unlike st v := by
  refine ⟨?_, hv, ?_, ?_, ?_⟩ <;> rw [hplain] <;> nofun

/-- Values that cannot be told apart are none that are issued. -/
theorem Kept.unlike_of_not_distinguishable (h : Kept st) (hv : v.isDistinguishable = false)
    (hplain : v.elements = []) : Unlike st v := by
  refine unlike_of_plain hplain fun u hu => ?_
  rw [Bool.eq_false_iff]
  intro hsame
  rw [← Value.isDistinguishable_of_beq hsame, h.distinguishable u hu] at hv
  cases hv

theorem Kept.unlike_of_object (h : Kept st) {o : ObjectRef} (ho : st.2 ≤ o.id) : Unlike st (.object o) := by
  refine unlike_of_plain rfl fun u hu => ?_
  rw [Bool.eq_false_iff]
  intro hsame
  cases u with
  | object o' => exact Nat.not_lt_of_le ho (ObjectRef.beq_iff.mp hsame ▸ h.taken _ hu o' rfl)
  | _ => cases hsame

theorem Requested.unlike (hv : Requested s st v) (h : Kept st) (hfresh : st.1.issued.contains v = false) :
    (n : Nat) → Unlike st (v.nested n)
  | 0 => unlike_of_plain hv.plain fun u hu => hv.new h hfresh u hu 0
  | n + 1 => by
      have hone : ∀ x ∈ (v.nested (n + 1)).elements, x = v.nested n := fun x hx => List.mem_singleton.mp hx
      refine ⟨fun x hx => ?_, fun u hu => hv.new h hfresh u hu (n + 1), fun x hx u hu => ?_, fun x hx o ho => ?_,
        fun x hx => ?_⟩
      · rw [hone x hx, Value.isDistinguishable_nested hv.distinguishable]
      · rw [hone x hx]
        exact hv.new h hfresh u hu n
      · rw [hone x hx] at ho
        exact hv.fresh o (Value.object?_nested ho)
      · rw [hone x hx, Bool.eq_false_iff]
        exact fun hsame => absurd (Value.eq_of_nested_beq hv.plain hsame) (Nat.ne_of_lt (Nat.lt_succ_self n))

theorem signature?_unlike (h : Kept st) (hv : (signature? s st).1 = some v)
    (hs : s.isDistinguishable = true → ¬ MayRepeat s st) : Unlike st v := by
  have hshape := ((signature?_draws s st).2 v hv).shape
  cases hdist : s.isDistinguishable with
  | false =>
      refine h.unlike_of_not_distinguishable (by rw [Value.isDistinguishable, hshape, hdist]) ?_
      exact Value.elements_eq_nil (by rw [hshape, Shape.depth_eq_zero hdist])
  | true =>
      have hknown : s.innermost ≠ .generic := by
        intro hgeneric
        rw [signature?_unknown hgeneric] at hv
        cases hv
      obtain ⟨u, hu, hfresh⟩ := exists_fresh h hknown (hs hdist)
      cases (hu.result hfresh).symm.trans hv
      exact hu.unlike h hfresh s.depth

/-! ## Matchers -/

/-- The stand-ins of matchers were issued, or are objects of their own, unless they cannot be told apart. None of them
is an element of another one. -/
structure Told (ms : List RegisteredMatcher) (st : Generator × Nat) : Prop where
  issued : ∀ m ∈ ms, m.signature.isDistinguishable = true →
    m.signature ∈ st.1.issued ∨ ∃ o, m.signature = .object o ∧ o.id < st.2
  elements : ∀ m ∈ ms, ∀ x ∈ m.signature.elements, x ∈ st.1.issued
  apart : ∀ m ∈ ms, ∀ m' ∈ ms, ∀ x ∈ m.signature.elements, (x == m'.signature) = false

variable {ms : List RegisteredMatcher} {st' : Generator × Nat} {reg : RegisteredMatcher}

theorem Told.mono (h : Told ms st) (hgrown : st.1.issued <+: st'.1.issued) (hle : st.2 ≤ st'.2) : Told ms st' where
  issued m hm hdist := (h.issued m hm hdist).imp (fun hmem => hgrown.subset hmem)
    fun ⟨o, ho, hlt⟩ => ⟨o, ho, Nat.lt_of_lt_of_le hlt hle⟩
  elements m hm x hx := hgrown.subset (h.elements m hm x hx)
  apart := h.apart

/-- No element of a new stand-in is the stand-in of an earlier matcher. -/
theorem Told.apart_of_unlike (h : Told ms st) (hunlike : Unlike st v) {m : RegisteredMatcher} (hm : m ∈ ms) {x : Value}
    (hx : x ∈ v.elements) : (x == m.signature) = false := by
  rw [Bool.eq_false_iff]
  intro hsame
  have hdist := Value.isDistinguishable_of_beq hsame
  rw [hunlike.distinguishable x hx] at hdist
  rcases h.issued m hm hdist.symm with hmem | ⟨o, ho, hlt⟩
  · have hdiffer := hunlike.elements x hx _ hmem
    rw [PartialEquivBEq.symm hsame] at hdiffer
    cases hdiffer
  · rw [ho] at hsame
    cases x with
    | object o' =>
        rw [← ObjectRef.beq_iff.mp hsame] at hlt
        exact Nat.not_lt_of_le (hunlike.objects _ hx o' rfl) hlt
    | _ => cases hsame

/-- A matcher is registered whose stand-in is unlike what was issued before. -/
theorem Told.register (h : Told ms st) (hunlike : Unlike st reg.signature) (hgrown : st.1.issued <+: st'.1.issued)
    (hle : st.2 ≤ st'.2) (hissued : reg.signature.isDistinguishable = true → reg.signature ∈ st'.1.issued ∨
      ∃ o, reg.signature = .object o ∧ o.id < st'.2)
    (helements : ∀ x ∈ reg.signature.elements, x ∈ st'.1.issued) : Told (ms ++ [reg]) st' := by
  have hmono := h.mono hgrown hle
  refine ⟨?_, ?_, ?_⟩ <;> simp only [List.mem_append, List.mem_singleton]
  · rintro m (hm | rfl)
    · exact hmono.issued m hm
    · exact hissued
  · rintro m (hm | rfl)
    · exact hmono.elements m hm
    · exact helements
  · rintro m (hm | rfl) m' (hm' | rfl) x hx
    · exact h.apart m hm m' hm' x hx
    · exact hunlike.value x (h.elements m hm x hx)
    · exact h.apart_of_unlike hunlike hm' hx
    · exact hunlike.apart x hx

end Generator

namespace IssuingRound

variable {r r' : IssuingRound}

theorem Asks.grown {shape : Shape} (h : r.Asks shape r') (hr : r.Sound) :
    r.generator.issued <+: r'.generator.issued := by
  rw [h.generator]
  exact (Generator.signature?_keeps shape _ hr.kept).grown

theorem Asks.le {shape : Shape} (h : r.Asks shape r') : r.store.nextObject ≤ r'.store.nextObject :=
  Nat.le_trans (Generator.signature?_draws shape r.state).1.le h.taken

/-- A matcher stands for what was drawn for its shape, or for a new object. -/
theorem exists_registered (r : IssuingRound) (m : Matcher) (shape : Shape) : ∃ reg : RegisteredMatcher,
    (r.take (.register m shape)).recording.round.matchers = r.recording.round.matchers ++ [reg] ∧
    ((Generator.signature? shape r.state).1 = some reg.signature ∨ ∃ o, reg.signature = .object o ∧
      r.store.nextObject ≤ o.id ∧ o.id < (r.take (.register m shape)).store.nextObject) := by
  have hle := (Generator.signature?_draws shape r.state).1.le
  rcases hs : Generator.signature? shape r.state with ⟨_ | v, g, n⟩
  · rw [hs] at hle
    refine ⟨⟨m, .object ⟨n, ObjectRef.signatureClass⟩, true, r.recording.round.calls.length⟩, ?_,
      .inr ⟨_, rfl, hle, ?_⟩⟩
    · simp only [take, OpenRound.register, OpenRound.drawing, hs]
      rfl
    · simp only [take, OpenRound.register, OpenRound.drawing, hs]
      exact Nat.lt_succ_self n
  · refine ⟨⟨m, v, shape.isDistinguishable, r.recording.round.calls.length⟩, ?_, .inl rfl⟩
    simp only [take, OpenRound.register, OpenRound.drawing, hs]

/-- A request that issues something may not repeat values, if none in the log may. -/
theorem Asks.not_mayRepeat {shape : Shape} {v : Value} (h : r.Asks shape r') (hr : r.Sound)
    (hno : ∀ e ∈ r'.issued, ¬ Generator.MayRepeat e.shape e.before) (hs : shape.isDistinguishable = true)
    (hv : (Generator.signature? shape r.state).1 = some v) : ¬ Generator.MayRepeat shape r.state := by
  obtain ⟨new, hnew⟩ := Generator.issue_last (Generator.draw_keeps shape) hr.kept hs hv
  have hdrop : r'.generator.issued.drop r.generator.issued.length = new ++ [v] := by
    rw [h.generator]
    exact (congrArg (List.drop _) hnew).trans List.drop_left
  refine hno ⟨v, shape, r.state⟩ ?_
  rw [h.issued, issuedFor, hdrop]
  exact List.mem_append_right _ (List.mem_map_of_mem (List.mem_append_right new List.mem_cons_self))

theorem told_register (hr : r.Sound) (h : Generator.Told r.recording.round.matchers r.state) (m : Matcher)
    (shape : Shape) (hno : ∀ e ∈ (r.take (.register m shape)).issued, ¬ Generator.MayRepeat e.shape e.before) :
    Generator.Told (r.take (.register m shape)).recording.round.matchers (r.take (.register m shape)).state := by
  have hasks := r.asks_register m shape
  obtain ⟨reg, hmatchers, hsignature⟩ := r.exists_registered m shape
  have hissued : (r.take (.register m shape)).state.1.issued = (Generator.signature? shape r.state).2.1.issued :=
    congrArg Generator.issued hasks.generator
  rw [hmatchers]
  rcases hsignature with hv | ⟨o, ho, hle, hlt⟩
  · have hunlike := Generator.signature?_unlike hr.kept hv fun hs => hasks.not_mayRepeat hr hno hs hv
    refine h.register hunlike (hasks.grown hr) hasks.le (fun hdist => .inl ?_) fun x hx => ?_
    · rw [Value.isDistinguishable, ((Generator.signature?_draws shape r.state).2 _ hv).shape] at hdist
      obtain ⟨new, hnew⟩ := Generator.issue_last (Generator.draw_keeps shape) hr.kept hdist hv
      rw [hissued, Generator.signature?, hnew]
      exact List.mem_append_right _ (List.mem_append_right new List.mem_cons_self)
    · rw [hissued]
      exact (Generator.signature?_keeps shape _ hr.kept).elements _ hv x hx (hunlike.distinguishable x hx)
  · have hunlike : Generator.Unlike r.state reg.signature := ho ▸ hr.kept.unlike_of_object hle
    refine h.register hunlike (hasks.grown hr) hasks.le (fun _ => .inr ⟨o, ho, hlt⟩) fun x hx => ?_
    rw [ho] at hx
    exact absurd hx List.not_mem_nil

theorem told_take (hr : r.Sound) (h : Generator.Told r.recording.round.matchers r.state) : (step : IssuingStep) →
    (∀ e ∈ (r.take step).issued, ¬ Generator.MayRepeat e.shape e.before) →
      Generator.Told (r.take step).recording.round.matchers (r.take step).state
  | .draw shape, _ => h.mono ((r.asks_draw shape).grown hr) (r.asks_draw shape).le
  | .register m shape, hno => told_register hr h m shape hno
  | .capture target method args caller, _ => by
      have hasks := r.asks_capture target method args caller
      obtain ⟨c, g', s', hcap⟩ := r.recording.exists_captures r.generator r.store target method args caller
      have hmatchers : (r.take (.capture target method args caller)).recording.round.matchers =
          r.recording.round.matchers := by
        rw [take, hcap.result]
      rw [hmatchers]
      exact h.mono (hasks.grown hr) hasks.le
  | .elsewhere objects, _ => h.mono List.prefix_rfl (Nat.le_add_right _ objects)

theorem issued_prefix_take (r : IssuingRound) : (step : IssuingStep) → r.issued <+: (r.take step).issued
  | .draw _ | .register _ _ | .capture _ _ _ _ => List.prefix_append _ _
  | .elsewhere _ => List.prefix_rfl

theorem issued_prefix_run (r : IssuingRound) (steps : List IssuingStep) : r.issued <+: (r.run steps).issued := by
  induction steps generalizing r with
  | nil => exact List.prefix_rfl
  | cons step steps ih => exact (r.issued_prefix_take step).trans (ih (r.take step))

theorem told_run (hr : r.Sound) (h : Generator.Told r.recording.round.matchers r.state) (steps : List IssuingStep)
    (hno : ∀ e ∈ (r.run steps).issued, ¬ Generator.MayRepeat e.shape e.before) :
    Generator.Told (r.run steps).recording.round.matchers (r.run steps).state := by
  induction steps generalizing r with
  | nil => exact h
  | cons step steps ih =>
      refine ih (hr.take step) (told_take hr h step fun e he => hno e ?_) hno
      exact ((r.take step).issued_prefix_run steps).subset he

/-- In rounds of which one was recorded without repeating values nothing is tangled. -/
theorem run_untangled (g : Generator) (index : Nat) (hints : Hints) (s : Store) (steps : List IssuingStep)
    (hno : ∀ e ∈ ((start g index hints s).run steps).issued, ¬ Generator.MayRepeat e.shape e.before)
    {rounds : List Round} (hround : ((start g index hints s).run steps).recording.round ∈ rounds) :
    Untangled rounds := by
  have htold := told_run (start_sound g index hints s) ⟨nofun, nofun, nofun⟩ steps hno
  exact .of_signatures hround htold.apart

example : ∀ e ∈ ((start (.ofSeed none) 0 [] {}).run [.register .any .bool, .register .any (.list .int),
    .register .any .int, .register .any .generic]).issued, ¬ Generator.MayRepeat e.shape e.before := by
  decide +kernel

end IssuingRound

end TestDouble
