import TestDouble.Proofs.Session.Answering
import TestDouble.Proofs.Session.ExampleStubbed

/-!
# Answering calls by example

A mock with a single statement by example answers the calls that were described, refuses all others, and logs
both.
-/

namespace TestDouble

namespace Argument

theorem pureEach_toMatcher {as : List Argument} (h : ∀ a ∈ as, a.Plain) : Matcher.PureEach (as.map toMatcher) := by
  induction as with
  | nil => exact trivial
  | cons a as ih =>
      rw [List.map_cons, Matcher.PureEach]
      refine ⟨?_, ih fun b hb => h b (List.mem_cons_of_mem a hb)⟩
      have ha := h a List.mem_cons_self
      cases a with
      | literal v => simp only [toMatcher, Matcher.Pure]
      | matcher m shape => exact ha.1

theorem acceptsEach_toMatcher : (as : List Argument) → (vs : List Value) →
    Matcher.acceptsEach (as.map toMatcher) vs = acceptsEach as vs
  | [], [] => rfl
  | [], _ :: _ => rfl
  | _ :: _, [] => rfl
  | a :: as, v :: vs => by
      rw [List.map_cons, Matcher.acceptsEach, acceptsEach, acceptsEach_toMatcher as vs]
      cases a <;> rfl

end Argument

namespace CallExample

variable {e : CallExample}

/-- A call with these arguments is one of those described. -/
def accepts (e : CallExample) (args : List Value) : Bool := Argument.acceptsEach e.args args

theorem Plain.pureEach (hp : e.Plain) : Matcher.PureEach e.matcher.args := Argument.pureEach_toMatcher hp.args

theorem Plain.isNotCalled (hp : e.Plain) : e.matcher.isNotCalled = false := by
  rw [Bool.eq_false_iff]
  intro h
  unfold CallMatcher.isNotCalled at h
  split at h
  case h_1 hargs =>
    obtain ⟨a, ha, hn⟩ := List.map_eq_singleton_iff.mp hargs
    have hplain := hp.args a (by rw [ha]; exact List.mem_singleton_self a)
    cases a with
    | literal v => cases hn
    | matcher m shape => exact hplain.2.1 hn
  case h_2 => cases h

theorem matcher_accepts {c : Call} (ht : c.target = e.target) (hm : c.method = e.method) :
    e.matcher.accepts c = e.accepts c.args := by
  rw [CallMatcher.accepts, accepts, ← Argument.acceptsEach_toMatcher, ht, hm]
  simp [matcher, BEq.beq]

/-! ## The mock -/

/-- The mock is strict, has the statement as its only entry, and has logged these calls. -/
structure Serves (e : CallExample) (v : Value) (s : Store) (stub : Stub) (logged : List Call) : Prop where
  found : s.registry.stub? e.target.id = some stub
  kind : stub.kind = .strict
  entries : ∃ id hits, stub.entries = [⟨id, e.matcher, .constant v, hits⟩]
  log : stub.log = logged.map fun c => { call := c }

variable {v : Value} {s : Store} {stub : Stub} {logged : List Call}

theorem Serves.addCall (h : e.Serves v s stub logged) (c : Call) :
    e.Serves v (s.modify e.target.id (·.addCall c)) (stub.addCall c) (logged ++ [c]) where
  found := Store.stub?_modify h.found fun _ => rfl
  kind := h.kind
  entries := h.entries
  log := by rw [Stub.addCall, h.log, List.map_append]; rfl

theorem Serves.hit (h : e.Serves v s stub logged) (id : Nat) :
    e.Serves v (s.modify e.target.id (·.hit id)) (stub.hit id) logged where
  found := Store.stub?_modify h.found fun _ => rfl
  kind := h.kind
  entries := by
    obtain ⟨id', hits, hentries⟩ := h.entries
    rw [Stub.hit, hentries]
    by_cases hid : id' = id
    · exact ⟨id', hits + 1, by simp [hid]⟩
    · exact ⟨id', hits, by simp [hid]⟩
  log := h.log

/-- Only the registry decides. -/
theorem Serves.of_registry (h : e.Serves v s stub logged) {s' : Store} (hs : s'.registry = s.registry) :
    e.Serves v s' stub logged := ⟨by rw [hs]; exact h.found, h.kind, h.entries, h.log⟩

/-- The only entry is selected for the calls it accepts. -/
theorem Serves.selectAnswer (h : e.Serves v s stub logged) (hp : e.Plain) (c : Call) (n : Nat) : ∃ s' stub',
    s.selectAnswer e.target.id c (n + 1) = (if e.matcher.accepts c then some (.constant v) else none, s') ∧
      e.Serves v s' stub' logged := by
  obtain ⟨id, hits, hentries⟩ := h.entries
  have htest := CallMatcher.test_eq hp.pureEach hp.isNotCalled c
  have hcandidates : ((s.registry.stub? e.target.id).map Stub.candidates).getD [] =
      [⟨id, e.matcher, .constant v, hits⟩] := by
    rw [h.found, Option.map_some, Option.getD_some, Stub.candidates, hentries]; rfl
  rw [Store.selectAnswer, hcandidates]
  cases ha : e.matcher.accepts c with
  | false =>
      refine ⟨s, stub, ?_, h⟩
      simp [Probe.findIdx?, htest, ha, Probe.bind, Store.probe]
  | true =>
      obtain ⟨kept, hkept⟩ := CallMatcher.captures_pure hp.pureEach c
      have hentry : (s.registry.stub? e.target.id).bind (·.entryOf? id) = some ⟨id, e.matcher, .constant v, hits⟩ := by
        rw [h.found, Option.bind_some, Stub.entryOf?, hentries]
        simp
      refine ⟨(s.modify e.target.id (·.hit id)).keep kept, stub.hit id, ?_, (h.hit id).of_registry rfl⟩
      simp [Probe.findIdx?, htest, ha, Probe.bind, Store.probe, hentry, hkept, Answer.select]

/-- A call on the mock is logged, and answered if it is one of those described. -/
theorem Serves.resolve (h : e.Serves v s stub logged) (hp : e.Plain) (c : Call) : ∃ s' stub',
    s.resolve e.target.id c true = (if e.matcher.accepts c then some (.constant v) else none, s') ∧
      e.Serves v s' stub' (logged ++ [c]) := by
  rw [Store.resolve]
  exact (h.addCall c).selectAnswer hp c _

/-! ## Calls -/

/-- A call made after the statement: its arguments, the session it goes through, and what is behind the mock. -/
structure RealCall (σ : Type) where
  session : Nat
  args : List Value
  underlying : Option (Underlying σ)

variable {σ : Type} {w : World σ}

/-- No round is in progress in the session, and its calls on the mock are logged. -/
structure Quiet (e : CallExample) (w : World σ) (j : Nat) : Prop where
  round : (w.session j).round = none
  logs : w.settings.logSelfCalls = true ∨ ∀ f, (w.session j).frames.head? = some f → f.target ≠ e.target.id

/-- The result of a call: the answer, or the complaint that nothing matches. -/
def Answered (e : CallExample) (v : Value) (args : List Value) (r : Except MockError Value) : Prop :=
  if e.accepts args then r = .ok v else ∃ target call, r = .error (.noAnswer target call [e.matcher.text])

theorem Serves.registered (h : e.Serves v s stub logged) : stub.registered = [e.matcher.text] := by
  obtain ⟨id, hits, hentries⟩ := h.entries
  rw [Stub.registered, hentries]
  rfl

theorem Quiet.logs_nextCall {j : Nat} (hq : e.Quiet w j) (args : List Value) :
    w.logs (w.nextCall j e.target e.method args) = true := by
  rw [World.logs]
  rcases hq.logs with hs | hf
  · rw [hs, Bool.true_or]
  · cases hhead : (w.session j).frames.head? with
    | none => simp [Call.isSelfCall, World.nextCall, hhead]
    | some f => simp [Call.isSelfCall, World.nextCall, hhead, hf f hhead]

theorem Serves.answerCall (h : e.Serves v w.store stub logged) (hp : e.Plain) {j : Nat} (hq : e.Quiet w j)
    (caller : Act.Caller σ) (args : List Value) (underlying : Option (Underlying σ)) : ∃ r s stub' c,
      (Act.answerCall caller j e.target e.method args underlying).runOn w = (r, { w with store := s }) ∧
      e.Serves v s stub' (logged ++ [c]) ∧ e.matcher.accepts c = e.accepts args ∧ e.Answered v args r := by
  have hlogs := hq.logs_nextCall args
  generalize hc : w.nextCall j e.target e.method args = c at hlogs
  have hacc : e.matcher.accepts c = e.accepts args := by subst hc; exact matcher_accepts rfl rfl
  obtain ⟨s, stub', hres, hserves⟩ := (h.of_registry rfl : e.Serves v w.callingStore stub logged).resolve hp c
  cases ha : e.matcher.accepts c with
  | true =>
      rw [ha, if_pos rfl] at hres
      refine ⟨.ok v, s, stub', c, ?_, hserves, hacc, by rw [Answered, if_pos (hacc.symm.trans ha)]⟩
      exact Act.runOn_answerCall hc h.found (by rw [hlogs, hres]) hserves.found fun w' => rfl
  | false =>
      rw [ha, if_neg Bool.false_ne_true] at hres
      refine ⟨.error (.noAnswer stub'.object.text c.text [e.matcher.text]), s, stub', c, ?_, hserves, hacc, ?_⟩
      · refine Act.runOn_answerCall hc h.found (by rw [hlogs, hres]) hserves.found fun w' => ?_
        simp only [Act.fallback, hserves.kind, hserves.registered, Act.runOn_throw]
      · rw [Answered, if_neg (by rw [← hacc, ha]; exact Bool.false_ne_true)]
        exact ⟨_, _, rfl⟩

/-- A call goes to the mock, as no round is in progress. -/
theorem Serves.intercept (h : e.Serves v w.store stub logged) (hp : e.Plain) {j : Nat} (hq : e.Quiet w j)
    (args : List Value) (underlying : Option (Underlying σ)) : ∃ r s stub' c,
      (Act.intercept j e.target e.method args underlying).runOn w = (r, { w with store := s }) ∧
      e.Serves v s stub' (logged ++ [c]) ∧ e.matcher.accepts c = e.accepts args ∧ e.Answered v args r := by
  obtain ⟨caller, hcaller⟩ := Act.exists_answerCall hq.round e.target e.method args underlying
  rw [hcaller]
  exact h.answerCall hp hq caller args underlying

/-- Make these calls, one after another. -/
def makeCalls (e : CallExample) : List (RealCall σ) → Act σ MockError (List (Except MockError Value))
  | [] => return []
  | c :: cs => do
    let r ← Act.attempt (Act.intercept c.session e.target e.method c.args c.underlying)
    return r :: (← makeCalls e cs)

/-- Every call gets its answer or its complaint, and the log counts the described ones. -/
theorem Serves.makeCalls (h : e.Serves v w.store stub logged) (hp : e.Plain) (calls : List (RealCall σ))
    (hq : ∀ c ∈ calls, e.Quiet w c.session) : ∃ results s stub' logged',
      (e.makeCalls calls).runOn w = (.ok results, { w with store := s }) ∧
      List.Forall₂ (fun c r => e.Answered v c.args r) calls results ∧ e.Serves v s stub' (logged ++ logged') ∧
      logged'.countP e.matcher.accepts = calls.countP fun c => e.accepts c.args := by
  induction calls generalizing w stub logged with
  | nil => exact ⟨[], w.store, stub, [], rfl, .nil, by rwa [List.append_nil], rfl⟩
  | cons call calls ih =>
      obtain ⟨r, s, stub₁, c, hrun, hserves, hacc, hans⟩ :=
        h.intercept hp (hq call List.mem_cons_self) call.args call.underlying
      have hquiet : ∀ d ∈ calls, e.Quiet { w with store := s } d.session := fun d hd =>
        ⟨(hq d (List.mem_cons_of_mem _ hd)).round, (hq d (List.mem_cons_of_mem _ hd)).logs⟩
      obtain ⟨results, s', stub', logged', hruns, hall, hserves', hcount⟩ :=
        ih (w := { w with store := s }) hserves hquiet
      refine ⟨r :: results, s', stub', c :: logged', ?_, .cons hans hall, ?_, ?_⟩
      · rw [CallExample.makeCalls, Act.runOn_bind_ok (Act.runOn_attempt _ _), hrun, Act.runOn_bind_ok hruns,
          Act.runOn_pure]
      · rwa [List.append_assoc, List.singleton_append] at hserves'
      · rw [List.countP_cons, List.countP_cons, hcount, hacc]

end CallExample

end TestDouble
