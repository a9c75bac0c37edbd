import TestDouble.Proofs.Matcher.Literal
import TestDouble.Proofs.Recording.Chaining
import TestDouble.Session.Typed

/-!
# Chains by example

A block that makes calls with literal arguments, each on the object that the one before returned, describes the
last of them. Whatever rounds such a block gives, all calls but the last are resolved to links.
-/

namespace TestDouble

/-- A call that returns the object on which the next one is made. -/
structure Link where
  method : Method
  args : List Value
  className : String
  returns : method.returns = .object className

/-- The call that follows the link from this object, at no particular time. -/
def Link.on (l : Link) (target : ObjectRef) : Call := ⟨target, l.method, l.args, 0, none⟩

/-- A chain of calls that are described by example. -/
structure ChainExample where
  root : ObjectRef
  links : List Link
  method : Method
  args : List Value

namespace ChainExample

variable {σ : Type}

/-- The last call, at no particular time. -/
def lastOn (e : ChainExample) (target : ObjectRef) : Call := ⟨target, e.method, e.args, 0, none⟩

/-- Make the calls one after another through session `i`; the result is that of the last one. -/
def follow (e : ChainExample) (i : Nat) : ObjectRef → List Link → Act σ MockError Value
  | target, [] => Act.intercept i target e.method e.args none
  | target, l :: ls => do
    let next ← Act.callObject i target l.method l.args l.className
    e.follow i next ls

def block (e : ChainExample) (i : Nat) : Act σ Failure Unit :=
  ExceptT.adapt Failure.mock do
    let _ ← e.follow i e.root e.links
    return

/-- Arguments that equal themselves, and whose objects have identities below the bound. -/
def Literals (n : Nat) (vs : List Value) : Prop := ∀ v ∈ vs, (v == v) = true ∧ v.Below n

/-- Only literals are passed. -/
structure Plain (e : ChainExample) (n : Nat) : Prop where
  links : ∀ l ∈ e.links, Literals n l.args
  last : Literals n e.args

variable {e : ChainExample} {n : Nat} {t : ObjectRef} {ls : List Link}

theorem Literals.sameAs_self {c : Call} (h : Literals n c.args) : c.sameAs c = true := by
  have hargs : ∀ vs : List Value, (∀ v ∈ vs, (v == v) = true) → (vs == vs) = true := by
    intro vs
    induction vs with
    | nil => intro _; rfl
    | cons v vs ih =>
        intro h
        rw [List.cons_beq_cons, h v List.mem_cons_self, ih fun w hw => h w (List.mem_cons_of_mem v hw), Bool.and_true]
  have htarget : (c.target == c.target) = true := beq_self_eq_true c.target.id
  rw [Call.sameAs, htarget, beq_self_eq_true, hargs c.args fun v hv => (h v hv).1]
  rfl

/-! ## The calls of a pass -/

/-- The calls that follow the links from this object. The objects they return are new, and each has a greater
identity than those before it. -/
inductive Captured (e : ChainExample) : Nat → ObjectRef → List Link → List CapturedCall → Prop where
  | last {n : Nat} {t : ObjectRef} {c : CapturedCall} (hc : c.call.Repeats (e.lastOn t))
      (hfresh : ∀ x, c.returned.object? = some x → n ≤ x.id) : Captured e n t [] [c]
  | link {n n' : Nat} {t next : ObjectRef} {l : Link} {ls : List Link} {c : CapturedCall} {cs : List CapturedCall}
      (hc : c.call.Repeats (l.on t)) (hnext : c.returned = .object next) (hfresh : n ≤ next.id) (hlt : next.id < n')
      (rest : Captured e n' next ls cs) : Captured e n t (l :: ls) (c :: cs)

namespace Captured

variable {cs : List CapturedCall}

theorem methods (h : e.Captured n t ls cs) : cs.map (·.call.method) = ls.map (·.method) ++ [e.method] := by
  induction h with
  | last hc _ => simp [hc.method, lastOn]
  | link hc _ _ _ _ ih => simp [hc.method, ih, Link.on]

theorem head (h : e.Captured n t ls cs) : ∃ c, cs[0]? = some c ∧ c.call.target = t := by
  cases h with
  | last hc _ => exact ⟨_, rfl, hc.target⟩
  | link hc _ _ _ _ => exact ⟨_, rfl, hc.target⟩

/-- Each call is made on what the one before returned. -/
theorem next (h : e.Captured n t ls cs) {j : Nat} {d : CapturedCall} (hd : cs[j + 1]? = some d) :
    ∃ c, cs[j]? = some c ∧ c.returned = .object d.call.target := by
  induction h generalizing j with
  | last => cases hd
  | link hc hnext _ _ rest ih =>
      cases j with
      | zero =>
          obtain ⟨c, hc', htarget⟩ := rest.head
          cases hc'.symm.trans hd
          exact ⟨_, rfl, hnext.trans (congrArg Value.object htarget.symm)⟩
      | succ j => exact ih hd

theorem fresh (h : e.Captured n t ls cs) {c : CapturedCall} (hc : c ∈ cs) {x : ObjectRef}
    (hx : c.returned.object? = some x) : n ≤ x.id := by
  induction h with
  | last _ hfresh =>
      cases List.mem_singleton.mp hc
      exact hfresh x hx
  | link _ hnext hfresh hlt _ ih =>
      rcases List.mem_cons.mp hc with rfl | hc
      · rw [hnext] at hx
        cases hx
        exact hfresh
      · exact Nat.le_trans hfresh (Nat.le_of_lt (Nat.lt_of_lt_of_le hlt (ih hc)))

theorem literals {k : Nat} (h : e.Captured n t ls cs) (hlinks : ∀ l ∈ ls, Literals k l.args)
    (hlast : Literals k e.args) : ∀ c ∈ cs, Literals k c.call.args := by
  induction h with
  | last hc _ =>
      intro c hmem
      cases List.mem_singleton.mp hmem
      rw [hc.args]
      exact hlast
  | @link _ _ _ _ l _ _ _ hc _ _ _ _ ih =>
      intro c hmem
      rcases List.mem_cons.mp hmem with rfl | hmem
      · rw [hc.args]
        exact hlinks l List.mem_cons_self
      · exact ih (fun l' hl => hlinks l' (List.mem_cons_of_mem l hl)) c hmem

end Captured

/-- A round that makes the calls of the chain. -/
structure Written (e : ChainExample) (n : Nat) (r : Round) : Prop where
  recorded : r.Recorded
  matchers : r.matchers = []
  calls : e.Captured n e.root e.links r.calls

namespace Written

variable {r : Round}

/-! ## Targets -/

/-- What the calls are made on. -/
def role (e : ChainExample) : Nat → Round.Role
  | 0 => .fixed e.root.id
  | j + 1 => .returnedBy j

theorem targetIs (h : e.Written n r) {j : Nat} (hj : j < r.calls.length) : r.TargetIs j (role e j) := by
  cases j with
  | zero =>
      obtain ⟨c, hc, htarget⟩ := h.calls.head
      exact ⟨c, hc, congrArg ObjectRef.id htarget, fun i hi => absurd hi (Nat.not_lt_zero i)⟩
  | succ j =>
      obtain ⟨c, hc, hreturned⟩ := h.calls.next (List.getElem?_eq_getElem hj)
      exact ⟨Nat.lt_succ_self j, _, c, _, List.getElem?_eq_getElem hj, hc, by rw [hreturned]; rfl, rfl⟩

theorem agrees {first : Round} (hfirst : e.Written n first) (h : e.Written n r) : first.Agrees r where
  methods := by rw [h.calls.methods, hfirst.calls.methods]
  matchers := by rw [h.matchers, hfirst.matchers]
  roles := by
    have hlength : r.calls.length = first.calls.length := by
      simpa using congrArg List.length (h.calls.methods.trans hfirst.calls.methods.symm)
    exact h.recorded.roles_eq hfirst.recorded hlength fun j hj =>
      ⟨role e j, h.targetIs hj, hfirst.targetIs (hlength ▸ hj)⟩

/-! ## Links -/

theorem latestReturning?_target (h : e.Written n r) {j k : Nat} {c : CapturedCall} (hc : r.calls[j]? = some c) :
    Round.latestReturning? (r.calls.take j) c.call.target.id = some k ↔ k + 1 = j := by
  cases j with
  | zero => simp [Round.latestReturning?]
  | succ j =>
      obtain ⟨d, hd, hreturned⟩ := h.calls.next hc
      have hsource := h.recorded.latestReturning?_eq_some (Nat.lt_succ_self j) hd (by rw [hreturned]; rfl) rfl
      rw [hsource, Option.some_inj, Nat.add_right_cancel_iff, eq_comm]

/-- A call only uses the result of the one before. -/
theorem mem_feeding (h : e.Written n r) (hp : e.Plain n) {j k : Nat} {c : CapturedCall} (hc : r.calls[j]? = some c) :
    k ∈ r.feeding (c, j) ↔ k + 1 = j := by
  have hargs : ∀ o, .object o ∈ c.call.args → Round.latestReturning? (r.calls.take j) o.id = none := by
    intro o ho
    refine Round.latestReturning?_eq_none.mpr fun i _ d x hd hx hid => ?_
    have hlt : o.id < n := (h.calls.literals hp.links hp.last c (List.mem_of_getElem? hc) _ ho).2
    have := h.calls.fresh (List.mem_of_getElem? hd) hx
    omega
  rw [← h.latestReturning?_target hc, Round.mem_feeding]
  refine ⟨?_, fun hk => ⟨_, .inl rfl, hk⟩⟩
  rintro ⟨_, rfl | ⟨o, ho, rfl⟩, hk⟩
  · exact hk
  · rw [hargs o ho] at hk
    cases hk

theorem mem_intermediates (h : e.Written n r) (hp : e.Plain n) {k : Nat} :
    k ∈ r.intermediates ↔ k + 1 < r.calls.length := by
  simp only [Round.intermediates, List.mem_flatMap, Prod.exists, List.mk_mem_zipIdx_iff_getElem?]
  constructor
  · rintro ⟨c, j, hc, hk⟩
    rw [(h.mem_feeding hp hc).mp hk]
    exact (List.getElem?_eq_some_iff.mp hc).1
  · intro hk
    have hc := List.getElem?_eq_getElem hk
    exact ⟨_, _, hc, (h.mem_feeding hp hc).mpr rfl⟩

end Written

/-! ## What is resolved -/

/-- The resolved calls of a chain that starts at this object: links, and the last call. -/
inductive Described (e : ChainExample) : Nat → ObjectRef → List Link → Resolution → Prop where
  | last {n : Nat} {t : ObjectRef} {c : ResolvedCall} (hmatcher : c.matcher = .literal (e.lastOn t))
      (hlast : c.intermediate = false) : Described e n t [] [c]
  | link {n n' : Nat} {t next : ObjectRef} {l : Link} {ls : List Link} {c : ResolvedCall} {cs : Resolution}
      (hmatcher : c.matcher = .literal (l.on t)) (hlink : c.intermediate = true)
      (hnext : c.returned.object? = some next) (hfresh : n ≤ next.id) (hlt : next.id < n')
      (rest : Described e n' next ls cs) : Described e n t (l :: ls) (c :: cs)

/-- Calls that are resolved one by one, all but the last to links. -/
theorem Captured.described {cs : List CapturedCall} (h : e.Captured n t ls cs) {f : CapturedCall × Nat → ResolvedCall}
    (hmatcher : ∀ p, (f p).matcher = .literal p.1.call) (hreturned : ∀ p, (f p).returned = p.1.returned) {k : Nat}
    (hlink : ∀ j < cs.length, ∀ c, (f (c, k + j)).intermediate = decide (j + 1 < cs.length)) :
    e.Described n t ls ((cs.zipIdx k).map f) := by
  induction h generalizing k with
  | last hc _ =>
      refine .last ?_ ?_
      · rw [hmatcher]
        exact CallMatcher.literal_repeats hc
      · simpa using hlink 0 Nat.zero_lt_one _
  | @link _ _ _ _ _ _ _ cs hc hnext hfresh hlt rest ih =>
      rw [List.zipIdx_cons, List.map_cons]
      refine .link ?_ ?_ ?_ hfresh hlt (ih fun j hj c => ?_)
      · rw [hmatcher]
        exact CallMatcher.literal_repeats hc
      · obtain ⟨d, hd, -⟩ := rest.head
        have := (List.getElem?_eq_some_iff.mp hd).1
        simpa [this] using hlink 0 (Nat.succ_pos _) _
      · rw [hreturned, hnext]
        rfl
      · rw [Nat.add_assoc, Nat.add_comm 1 j, hlink (j + 1) (Nat.succ_lt_succ hj) c, List.length_cons]
        simp only [Nat.add_lt_add_iff_right]

/-- A chain is resolved to its links and its last call. -/
theorem ofRounds_written {first : Round} {rest : List Round} (h : ∀ r ∈ first :: rest, e.Written n r) (hp : e.Plain n)
    (phase : Phase) :
    ∃ res, Resolution.ofRounds (first :: rest) phase = .ok res ∧ e.Described n e.root e.links res := by
  have hfirst := h first List.mem_cons_self
  have hlast := h _ (List.getLast_mem (List.cons_ne_nil first rest))
  have hagree : ∀ r ∈ rest, first.Agrees r := fun r hr => hfirst.agrees (h r (List.mem_cons_of_mem first hr))
  refine ⟨_, Resolution.ofRounds_of_no_matchers hagree hfirst.matchers phase,
    hlast.calls.described (fun p => Round.callMatcher_nil _ p) (fun _ => rfl) fun j hj c => ?_⟩
  simp only [Nat.zero_add, List.contains_eq_mem, decide_eq_decide]
  exact hlast.mem_intermediates hp

end ChainExample

end TestDouble
