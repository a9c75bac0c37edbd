import TestDouble.Proofs.Recording.Correlation
import TestDouble.Proofs.Recording.Hinting
import TestDouble.Proofs.Recording.Reading
import TestDouble.Proofs.Session.Rounds
import TestDouble.Session.Typed

/-!
# Rounds of typed calls

A block makes calls whose results have no declared shape and are read at types. A pass of the block gets as far as
there are hints: calls with a hint are read, and the first one without fails.
-/

namespace TestDouble

/-- A call without a declared shape whose result is read at a type of known shape. -/
structure TypedCall where
  /-- What is called, at no particular time. -/
  call : Call
  type : HostType
  returns : call.method.returns = .generic
  known : type.shape.isKnown = true

namespace TypedCall

variable {σ : Type}

/-- Make the call through session `i`. -/
def make (c : TypedCall) (i : Nat) : Act σ MockError Unit := do
  let _ ← Act.callTyped i c.type c.call.target c.call.method c.call.args none

def makeEach (i : Nat) : List TypedCall → Act σ MockError Unit
  | [] => return
  | c :: cs => do
    c.make i
    makeEach i cs

/-- The block that makes the calls one after another. -/
def block (cs : List TypedCall) (i : Nat) : Act σ Failure Unit := ExceptT.adapt Failure.mock (makeEach i cs)

/-- No call is the same as an earlier one. -/
def Apart (cs : List TypedCall) : Prop := cs.Pairwise fun c d => c.call.sameAs d.call = false

/-- Number of different pairs of target and method. -/
def places (cs : List TypedCall) : Nat :=
  (Round.distinctBy (fun (c d : TypedCall) => c.call.target == d.call.target && c.call.method == d.call.method)
    cs).length

/-! ## Captured calls -/

/-- The call was made, and no object was returned for it. -/
structure Read (c : TypedCall) (d : CapturedCall) : Prop where
  repeats : d.call.Repeats c.call
  object : d.returned.object? = none

/-- The call was made, and a stand-in was returned that was refused. -/
structure Refused (c : TypedCall) (d : CapturedCall) (x : ObjectRef) : Prop where
  repeats : d.call.Repeats c.call
  returned : d.returned = .object x
  placeholder : x.isPlaceholder = true

/-- The calls of the list were made and read, in order. -/
def AllRead (cs : List TypedCall) (ds : List CapturedCall) : Prop := List.Forall₂ Read cs ds

/-- The hints are the shapes of these calls, the first ones of the block. -/
def Hinted (cs : List TypedCall) (hints : Hints) : Prop := ∀ j, hints.lookup j = cs[j]?.map (·.type.shape)

theorem Hinted.insert {cs : List TypedCall} {hints : Hints} (h : Hinted cs hints) (c : TypedCall) :
    Hinted (cs ++ [c]) (hints.insert cs.length c.type.shape) := by
  intro j
  rw [Hints.lookup_insert, h j]
  rcases Nat.lt_trichotomy j cs.length with hlt | rfl | hlt
  · rw [if_neg (Nat.ne_of_lt hlt), List.getElem?_append_left hlt]
  · simp
  · have hlen : (cs ++ [c]).length ≤ j := by rw [List.length_append]; exact hlt
    rw [if_neg (Nat.ne_of_gt hlt), List.getElem?_eq_none (Nat.le_of_lt hlt), List.getElem?_eq_none hlen]

namespace AllRead

variable {cs : List TypedCall} {ds : List CapturedCall}

theorem object (h : AllRead cs ds) : ∀ d ∈ ds, d.returned.object? = none := by
  induction h with
  | nil => exact List.forall_mem_nil _
  | cons hd _ ih => exact List.forall_mem_cons.mpr ⟨hd.object, ih⟩

theorem repeats (h : AllRead cs ds) : List.Forall₂ Call.Repeats (ds.map (·.call)) (cs.map (·.call)) :=
  List.forall₂_map_left_iff.mpr (List.forall₂_map_right_iff.mpr (h.flip.imp fun _ _ hd => hd.repeats))

theorem methods (h : AllRead cs ds) : ds.map (·.call.method) = cs.map (·.call.method) := by
  induction h with
  | nil => rfl
  | cons hd _ ih => rw [List.map_cons, List.map_cons, hd.repeats.method, ih]

theorem targets (h : AllRead cs ds) : ds.map (·.call.target) = cs.map (·.call.target) := by
  induction h with
  | nil => rfl
  | cons hd _ ih => rw [List.map_cons, List.map_cons, hd.repeats.target, ih]

end AllRead

/-- A round that makes the calls and reads them all. -/
structure Written (cs : List TypedCall) (r : Round) : Prop where
  matchers : r.matchers = []
  calls : AllRead cs r.calls

namespace Written

variable {cs : List TypedCall} {r : Round}

/-- Nothing is called that another call returned. -/
theorem roles (h : Written cs r) : r.roles = (cs.map (·.call.target)).map fun t => .fixed t.id := by
  have hfixed : r.roles = r.calls.zipIdx.map fun c => .fixed c.1.call.target.id := by
    refine List.map_congr_left fun c _ => ?_
    have hnone : Round.latestReturning? (r.calls.take c.2) c.1.call.target.id = none :=
      Round.latestReturning?_eq_none.mpr fun _ _ d x hd hx => by
        rw [h.calls.object d (List.mem_of_getElem? hd)] at hx
        cases hx
    rw [hnone]
  rw [hfixed, ← h.calls.targets, List.map_map, ← List.zipIdx_map_fst 0 r.calls, List.map_map]
  simp [Function.comp_def]

theorem distinctCallCount (h : Written cs r) : r.distinctCallCount = places cs := by
  refine (Round.distinctBy_forall₂ (fun ha hb => ?_) h.calls).length_eq.symm
  rw [ha.repeats.target, ha.repeats.method, hb.repeats.target, hb.repeats.method]

theorem agrees {first : Round} (hfirst : Written cs first) (h : Written cs r) : first.Agrees r where
  methods := by rw [h.calls.methods, hfirst.calls.methods]
  matchers := by rw [h.matchers, hfirst.matchers]
  roles := by rw [h.roles, hfirst.roles]

end Written

/-- The rounds are resolved to as many calls. -/
theorem exists_ofRounds {cs : List TypedCall} {first : Round} {rest : List Round}
    (h : ∀ r ∈ first :: rest, Written cs r) (phase : Phase) :
    ∃ res, Resolution.ofRounds (first :: rest) phase = .ok res ∧ res.length = cs.length := by
  have hfirst := h first List.mem_cons_self
  have hlast := h _ (List.getLast_mem (List.cons_ne_nil first rest))
  have hagree : ∀ r ∈ rest, first.Agrees r := fun r hr => hfirst.agrees (h r (List.mem_cons_of_mem first hr))
  refine ⟨_, Resolution.ofRounds_of_no_matchers hagree hfirst.matchers phase, ?_⟩
  rw [Round.length_resolved, hlast.calls.length_eq]

/-! ## Passes -/

variable {w : World σ} {i : Nat} {c : TypedCall} {o : OpenRound}

/-- A call with a hint is read. -/
theorem exists_read (hi : i < w.sessions.length) (hhint : o.hints.lookup o.round.calls.length = some c.type.shape)
    (g : Generator) (s : Store) : ∃ d g' s', (c.make i).runOn (w.inRound i (some o) g s) =
      (.ok (), w.inRound i (some { o with round := { o.round with calls := o.round.calls ++ [d] } }) g' s') ∧
      c.Read d := by
  obtain ⟨d, g', s', hcap⟩ :=
    o.exists_captures g s c.call.target c.call.method c.call.args (w.session i).frames.head?
  have haccepts := hcap.accepts_of_hint hhint c.known
  obtain ⟨x, hx⟩ := c.type.exists_ofValue c.known haccepts
  refine ⟨d, g', s', ?_, ⟨hcap.target, hcap.method, hcap.args⟩, c.type.object?_of_accepts c.known haccepts⟩
  rw [make, Act.callTyped, bind_assoc, Act.runOn_bind_ok (Act.runOn_intercept hi none hcap), hx]
  rfl

/-- A call without a hint fails with what was refused. -/
theorem exists_refused (hi : i < w.sessions.length) (hhint : o.hints.lookup o.round.calls.length = none)
    (g : Generator) (s : Store) : ∃ d x g' s', (c.make i).runOn (w.inRound i (some o) g s) =
      (.error (.rejected c.type.shape (.object x)),
        w.inRound i (some { o with round := { o.round with calls := o.round.calls ++ [d] } }) g' s') ∧
      c.Refused d x := by
  obtain ⟨d, g', s', hcap⟩ :=
    o.exists_captures g s c.call.target c.call.method c.call.args (w.session i).frames.head?
  obtain ⟨x, hx, hplaceholder⟩ := hcap.placeholder_of_generic hhint c.returns
  refine ⟨d, x, g', s', ?_, ⟨hcap.target, hcap.method, hcap.args⟩, hx, hplaceholder⟩
  rw [make, Act.callTyped, bind_assoc, Act.runOn_bind_ok (Act.runOn_intercept hi none hcap), hx,
    c.type.ofValue_object (Shape.ne_generic_of_isKnown c.known) x]
  rfl

theorem makeEach_append (i : Nat) (cs ds : List TypedCall) :
    (makeEach i (cs ++ ds) : Act σ MockError Unit) = makeEach i cs >>= fun _ => makeEach i ds := by
  induction cs with
  | nil => rfl
  | cons c cs ih => rw [List.cons_append, makeEach, makeEach, ih, bind_assoc]

/-- Calls with hints are read one after another. -/
theorem exists_allRead (hi : i < w.sessions.length) (cs : List TypedCall) (o : OpenRound)
    (hhints : ∀ j c, cs[j]? = some c → o.hints.lookup (o.round.calls.length + j) = some c.type.shape) (g : Generator)
    (s : Store) : ∃ ds g' s', (makeEach i cs).runOn (w.inRound i (some o) g s) =
      (.ok (), w.inRound i (some { o with round := { o.round with calls := o.round.calls ++ ds } }) g' s') ∧
      AllRead cs ds := by
  induction cs generalizing o g s with
  | nil => exact ⟨[], g, s, by rw [List.append_nil]; rfl, .nil⟩
  | cons c cs ih =>
      obtain ⟨d, g₁, s₁, hrun, hd⟩ := exists_read hi (hhints 0 c rfl) g s
      obtain ⟨ds, g', s', hruns, hds⟩ := ih
        { o with round := { o.round with calls := o.round.calls ++ [d] } } (fun j c' hc' => by
          rw [List.length_append, List.length_singleton, Nat.add_assoc, Nat.add_comm 1 j]
          exact hhints (j + 1) c' hc') g₁ s₁
      refine ⟨d :: ds, g', s', ?_, .cons hd hds⟩
      rw [makeEach, Act.runOn_bind_ok hrun, hruns]
      simp only [List.append_assoc, List.singleton_append]

variable {cs : List TypedCall} {hints : Hints}

/-- With all hints a pass makes all calls. -/
theorem exists_block (hi : i < w.sessions.length) (hhints : Hinted cs hints) (index : Nat) (g : Generator)
    (s : Store) : ∃ ds g' s', (block cs i).runOn (w.inRound i (some (.start index hints)) g s) =
      (.ok (), w.inRound i (some ⟨{ index, calls := ds }, hints⟩) g' s') ∧ AllRead cs ds := by
  obtain ⟨ds, g', s', hrun, hds⟩ := exists_allRead hi cs (.start index hints) (fun j c hc => by
    change hints.lookup (0 + j) = some c.type.shape
    rw [Nat.zero_add, hhints j, hc, Option.map_some]) g s
  refine ⟨ds, g', s', ?_, hds⟩
  rw [block, Act.runOn_adapt, hrun]
  rfl

/-- A pass ends with the first call without a hint. -/
theorem exists_block_refused (hi : i < w.sessions.length) (hhints : Hinted cs hints) (c : TypedCall)
    (rest : List TypedCall) (index : Nat) (g : Generator) (s : Store) : ∃ ds d x g' s',
      (block (cs ++ c :: rest) i).runOn (w.inRound i (some (.start index hints)) g s) =
        (.error (.mock (.rejected c.type.shape (.object x))),
          w.inRound i (some ⟨{ index, calls := ds ++ [d] }, hints⟩) g' s') ∧
      AllRead cs ds ∧ c.Refused d x := by
  obtain ⟨ds, g₁, s₁, hruns, hds⟩ := exists_allRead hi cs (.start index hints) (fun j c hc => by
    change hints.lookup (0 + j) = some c.type.shape
    rw [Nat.zero_add, hhints j, hc, Option.map_some]) g s
  have hnone : hints.lookup ds.length = none := by
    rw [hhints, ← hds.length_eq, List.getElem?_eq_none (Nat.le_refl _), Option.map_none]
  obtain ⟨d, x, g', s', hrun, hd⟩ := exists_refused (w := w) (o := ⟨{ index, calls := ds }, hints⟩) hi hnone g₁ s₁
  refine ⟨ds, d, x, g', s', ?_, hds, hd⟩
  have hstart : (makeEach i cs).runOn (w.inRound i (some (.start index hints)) g s) =
      (.ok (), w.inRound i (some ⟨{ index, calls := ds }, hints⟩) g₁ s₁) := hruns
  rw [block, Act.runOn_adapt, makeEach_append, Act.runOn_bind_ok hstart, makeEach, Act.runOn_bind_error hrun]
  rfl

end TypedCall

end TestDouble
