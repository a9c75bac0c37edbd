import Mathlib.Data.List.Basic
import TestDouble.Proofs.Chronicle.Tracking

/-!
# Marks

The next number of a store is a mark: the calls that were logged before have smaller numbers, and those that are logged
later have not. So the windows before and after a mark share out the visible calls, and two marks enclose what was
logged between them.
-/

namespace TestDouble

/-! ## Numbers are not taken back -/

namespace Store

variable {s s' : Store}

theorem resolve_sequence_le (mock : Nat) (c : Call) (log : Bool) (s : Store) :
    s.nextSequence ≤ (s.resolve mock c log).2.nextSequence := by
  refine Nat.le_trans (Nat.le_of_eq ?_) (selectAnswer_keepsLogs mock c _ _).sequence
  split <;> rfl

theorem CallStep.sequence_le (h : s.CallStep s') : s.nextSequence ≤ s'.nextSequence := by
  cases h with
  | capture round generator target method args caller =>
      exact (capture_keepsLogs s round generator target method args caller).sequence
  | newCall target method args caller => exact Nat.le_succ _
  | resolve mock c log => exact resolve_sequence_le mock c log s
  | relaxedChild stub c className => exact (relaxedChild_keepsLogs s stub c className).sequence
  | clearAnswers mock => exact Nat.le_refl _
  | release h => exact (release_keepsLogs h).sequence
  | countTally counter => exact Nat.le_refl _

theorem OperationStep.sequence_le (h : s.OperationStep s') : s.nextSequence ≤ s'.nextSequence := by
  cases h with
  | register round generator m shape => exact (StubbingStep.register round generator m shape).keepsLogs.sequence
  | createChild parent className => exact (createChild_keepsLogs s parent className).sequence
  | addAnswer mock m answer => exact Nat.le_refl _
  | verifyRepeatedly r mocks expected notCalled n =>
      exact (Act.verifyRepeatedly_looks r mocks expected notCalled n s).1.keepsLogs.sequence
  | markVerified mocks sequences =>
      rw [foldl_markVerified]
      exact Nat.le_refl _
  | exclude mock m =>
      unfold Store.exclude
      split
      · exact Nat.le_refl _
      · exact (probe_sameLogs _ s).keepsLogs.sequence

theorem Manages.sequence_le (h : s.Manages s') : s.nextSequence ≤ s'.nextSequence := by
  obtain ⟨mocks, hkeeps⟩ := h
  exact hkeeps.sequence

end Store

/-! ## The course of a run -/

/-- The next number at that time, where it is told. -/
def Happening.moment? : Happening → Option Nat
  | .made e => some e.number
  | .seen s => some s.nextSequence
  | _ => none

namespace Chronicle

/-- Numbers have only grown in the course of time, up to this one. -/
structure Timed (t : Chronicle) (n : Nat) : Prop where
  decreasing : (t.filterMap Happening.moment?).Pairwise (· ≥ ·)
  below : ∀ k ∈ t.filterMap Happening.moment?, k ≤ n

variable {t : Chronicle} {n n' : Nat}

namespace Timed

theorem mono (h : t.Timed n) (hn : n ≤ n') : t.Timed n' := ⟨h.decreasing, fun k hk => Nat.le_trans (h.below k hk) hn⟩

/-- What is told now tells the present number, or none. -/
theorem cons {h : Happening} (ht : t.Timed n) (hh : ∀ k, h.moment? = some k → k = n) : Timed (h :: t) n := by
  cases hm : h.moment? with
  | none =>
      refine ⟨?_, ?_⟩ <;> rw [List.filterMap_cons_none hm]
      · exact ht.decreasing
      · exact ht.below
  | some k =>
      obtain rfl := hh k hm
      refine ⟨?_, ?_⟩ <;> rw [List.filterMap_cons_some hm]
      · exact List.pairwise_cons.mpr ⟨ht.below, ht.decreasing⟩
      · exact List.forall_mem_cons.mpr ⟨Nat.le_refl k, ht.below⟩

theorem tracked : Tracked Store.Manages fun t s => t.Timed s.nextSequence where
  call _ _ _ hs h := h.mono hs.sequence_le
  operation _ _ _ hs h := h.mono hs.sequence_le
  use _ _ _ hs h := h.mono hs.sequence_le
  told _ _ _ hh h := h.cons fun k hk => by
    cases hh with
    | made hn => exact (Option.some.inj hk).symm.trans hn
    | seen => exact (Option.some.inj hk).symm
    | _ => cases hk

end Timed

theorem exists_calls_append (t : Chronicle) : ∀ later : Chronicle, ∃ after, calls (later ++ t) = after ++ calls t ∧
    ∀ c ∈ after, c.sequence ∈ later.filterMap Happening.moment?
  | [] => ⟨[], rfl, nofun⟩
  | h :: later => by
      obtain ⟨after, hcalls, hmem⟩ := exists_calls_append t later
      have hold : ∀ c ∈ after, c.sequence ∈ (h :: later).filterMap Happening.moment? := fun c hc =>
        ((List.sublist_cons_self h later).filterMap _).subset (hmem c hc)
      cases h with
      | made e =>
          rw [List.cons_append, calls]
          split
          · refine ⟨call (later ++ t) e :: after, by rw [hcalls, List.cons_append], List.forall_mem_cons.mpr ⟨?_, hold⟩⟩
            exact List.mem_cons_self
          · exact ⟨after, hcalls, hold⟩
      | _ => exact ⟨after, hcalls, hold⟩

/-- All calls that are logged after a look have numbers from its mark on. -/
theorem Timed.exists_after {full : Chronicle} {s : Store} (h : full.Timed n) (hsuffix : (.seen s :: t) <:+ full) :
    ∃ after, calls full = after ++ calls t ∧ ∀ c ∈ after, s.nextSequence ≤ c.sequence := by
  obtain ⟨later, rfl⟩ := hsuffix
  obtain ⟨after, hcalls, hmem⟩ := exists_calls_append (.seen s :: t) later
  refine ⟨after, hcalls, fun c hc => ?_⟩
  have hdecreasing := h.decreasing
  rw [List.filterMap_append] at hdecreasing
  exact (List.pairwise_append.mp hdecreasing).2.2 _ (hmem c hc) _ List.mem_cons_self

end Chronicle

/-! ## Windows -/

namespace Act

variable {s : Store} {r : Request} {c : Call} {p : Call → Bool}

theorem insertCall_of_le : {calls : List Call} → (∀ d ∈ calls, c.sequence ≤ d.sequence) →
    insertCall c calls = c :: calls
  | [], _ => rfl
  | d :: _, h => by rw [insertCall, if_pos (h d List.mem_cons_self)]

/-- Calls that are left out make no difference to the order of the others. -/
theorem insertCall_filter : {calls : List Call} → calls.Pairwise (·.sequence ≤ ·.sequence) →
    (insertCall c calls).filter p = if p c then insertCall c (calls.filter p) else calls.filter p
  | [], _ => by rw [insertCall, List.filter_cons, List.filter_nil]; rfl
  | d :: calls, h => by
      by_cases hle : c.sequence ≤ d.sequence
      · have hfirst : ∀ e ∈ (d :: calls).filter p, c.sequence ≤ e.sequence := fun e he => by
          rcases List.mem_cons.mp (List.mem_filter.mp he).1 with rfl | he
          · exact hle
          · exact Nat.le_trans hle (List.rel_of_pairwise_cons h he)
        rw [insertCall_of_le hfirst, insertCall, if_pos hle, List.filter_cons]
      · rw [insertCall, if_neg hle, List.filter_cons, List.filter_cons, insertCall_filter h.of_cons]
        cases p d with
        | false => rfl
        | true =>
            simp only [↓reduceIte, insertCall, if_neg hle]
            split <;> rfl

theorem inOrder_filter (p : Call → Bool) (calls : List Call) : (inOrder calls).filter p = inOrder (calls.filter p) := by
  induction calls with
  | nil => rfl
  | cons c calls ih =>
      have hinsert := insertCall_filter (c := c) (p := p) (inOrder_sorted calls)
      rw [ih] at hinsert
      rw [List.filter_cons]
      refine hinsert.trans ?_
      split <;> rfl

/-- A window only leaves calls out. -/
theorem mergedLog_window (hr : r.window = {}) (window : CallWindow) (mocks : List Nat) :
    mergedLog s { r with window } mocks = (mergedLog s r mocks).filter fun c => window.contains c.sequence := by
  rw [mergedLog, mergedLog, inOrder_filter, List.filter_flatMap, hr]
  refine congrArg inOrder (congrArg (mocks.flatMap ·) (funext fun mock => ?_))
  rw [List.filter_filter]
  exact List.filter_congr fun c _ => (Bool.and_true _).symm

/-- The calls that a request examines and a matcher accepts. -/
def accepted (s : Store) (r : Request) (mocks : List Nat) (m : CallMatcher) : List Call :=
  (s.probe (Probe.filter m.test (mergedLog s r mocks))).1

theorem accepted_eq {m : CallMatcher} (hm : Matcher.PureEach m.args) (mocks : List Nat) :
    accepted s r mocks m = (mergedLog s r mocks).filter m.admits := by
  rw [accepted, CallMatcher.filter_test hm]
  rfl

/-- Each visible call is before the mark or after it. -/
theorem length_accepted_split {m : CallMatcher} (hm : Matcher.PureEach m.args) (hr : r.window = {}) (mark : Nat)
    (mocks : List Nat) : (accepted s (r.until_ mark) mocks m).length + (accepted s (r.since mark) mocks m).length =
      (accepted s r mocks m).length := by
  have hbefore : mergedLog s (r.until_ mark) mocks =
      (mergedLog s r mocks).filter fun c => decide (c.sequence < mark) := by
    refine (mergedLog_window hr _ mocks).trans (List.filter_congr fun c _ => ?_)
    rw [hr]
    exact Bool.true_and _
  have hafter : mergedLog s (r.since mark) mocks =
      (mergedLog s r mocks).filter fun c => !decide (c.sequence < mark) := by
    refine (mergedLog_window hr _ mocks).trans (List.filter_congr fun c _ => ?_)
    rw [hr]
    refine (Bool.and_true _).trans ?_
    rw [← decide_not]
    exact decide_eq_decide.mpr Nat.not_lt.symm
  rw [accepted_eq hm, accepted_eq hm, accepted_eq hm, hbefore, hafter]
  simp only [List.filter_comm (p := m.admits)]
  exact (List.length_eq_length_filter_add _).symm

end Act

namespace Program

variable {μ : Type}

theorem chronicle_timed (p : Program μ) (hp : p.Manages) (w : World μ) : ∃ n, (p.chronicle w).Timed n := by
  have hend := (p.watch_tracks Chronicle.Timed.tracked hp.uses
    { w with memory := { memory := { memory := w.memory } } } ⟨.nil, nofun⟩).world
  exact ⟨_, Chronicle.Timed.cons hend fun k hk => (Option.some.inj hk).symm⟩

/-- What has been logged before a look has smaller numbers than its mark, and nothing else has. -/
theorem mem_calls_iff (p : Program μ) (hp : p.Manages) {w : World μ} (hw : w.Fresh) {s : Store} {t : Chronicle}
    (hmark : (.seen s :: t) <:+ p.chronicle w) {c : Call} (hc : c ∈ Chronicle.calls (p.chronicle w)) :
    c ∈ Chronicle.calls t ↔ c.sequence < s.nextSequence := by
  have hagrees : Chronicle.Agrees t s := ((p.chronicle_sound hp hw).1.of_suffix hmark).1
  obtain ⟨n, htimed⟩ := p.chronicle_timed hp w
  obtain ⟨after, hcalls, hafter⟩ := htimed.exists_after hmark
  refine ⟨hagrees.ordered.below c, fun hlt => ?_⟩
  rw [hcalls] at hc
  exact (List.mem_append.mp hc).resolve_left fun h => Nat.not_lt.mpr (hafter c h) hlt

/-- From a world without calls, whatever the program does: a look at the store at any time, inside blocks and
implementations too, gives a mark that all calls logged before have smaller numbers than, and no call logged later. So
wherever calls are examined, before or after, those that a matcher accepts are shared out by the windows up to the mark
and from it on, and between two marks are the visible calls that were logged between the looks, in their order. -/
theorem marks_separate_calls (p : Program μ) (hp : p.Manages) {w₀ : World μ} (hw₀ : w₀.Fresh) {s₁ : Store}
    {t₁ : Chronicle} (hmark : (.seen s₁ :: t₁) <:+ p.chronicle w₀) :
    (∃ after, Chronicle.calls (p.chronicle w₀) = after ++ Chronicle.calls t₁ ∧
      (∀ c ∈ Chronicle.calls t₁, c.sequence < s₁.nextSequence) ∧ ∀ c ∈ after, s₁.nextSequence ≤ c.sequence) ∧
    ∀ s t, (.seen s :: t) <:+ p.chronicle w₀ → ∀ (r : Request) (mocks : List Nat), r.window = {} →
      (∀ m : CallMatcher, Matcher.PureEach m.args →
        (Act.accepted s (r.until_ s₁.nextSequence) mocks m).length +
          (Act.accepted s (r.since s₁.nextSequence) mocks m).length = (Act.accepted s r mocks m).length) ∧
      ∀ s₂ t₂, (.seen s₂ :: t₂) <:+ p.chronicle w₀ → ∃ between : Call → Bool,
        Act.mergedLog s ((r.since s₁.nextSequence).until_ s₂.nextSequence) mocks =
          (Act.mergedLog s r mocks).filter between ∧
        ∀ c ∈ Act.mergedLog s r mocks,
          between c = true ↔ c ∈ Chronicle.calls t₂ ∧ c ∉ Chronicle.calls t₁ := by
  obtain ⟨n, htimed⟩ := p.chronicle_timed hp w₀
  obtain ⟨after, hcalls, hafter⟩ := htimed.exists_after hmark
  have hagrees : Chronicle.Agrees t₁ s₁ := ((p.chronicle_sound hp hw₀).1.of_suffix hmark).1
  refine ⟨⟨after, hcalls, hagrees.ordered.below, hafter⟩, fun s t hseen r mocks hr =>
    ⟨fun m hm => Act.length_accepted_split hm hr s₁.nextSequence mocks, fun s₂ t₂ hmark₂ => ?_⟩⟩
  let window : CallWindow := { since? := some s₁.nextSequence, until? := some s₂.nextSequence }
  refine ⟨fun c => window.contains c.sequence, Act.mergedLog_window hr window mocks, fun c hc => ?_⟩
  have hseenAgrees : Chronicle.Agrees t s := ((p.chronicle_sound hp hw₀).1.of_suffix hseen).1
  have hlogged : c ∈ Chronicle.calls (p.chronicle w₀) := by
    obtain ⟨x, hx, -, l, hl, rfl⟩ := Act.exists_logged hc
    rw [hseenAgrees.log x hx] at hl
    exact (Chronicle.calls_suffix ((List.suffix_cons _ t).trans hseen)).subset (Chronicle.mem_log hl).1
  rw [mem_calls_iff p hp hw₀ hmark hlogged, mem_calls_iff p hp hw₀ hmark₂ hlogged]
  simp only [CallWindow.contains, window, Option.all_some, Bool.and_eq_true, decide_eq_true_eq, Nat.not_lt]
  exact and_comm

/-- A clock is read before and after a service is run, and in between behind a spy that the service calls. Marks are
taken before the service is run, behind the spy, and after a verification. -/
def readings : Program Unit :=
  let run : Method := { name := "run", params := [], returns := .unit }
  useStore (fun s => s.create "Clock" .relaxed) fun clock =>
    useStore (fun s => s.create "Reader" .spy) fun reader =>
      useStore (fun s => s.create "Service" .strict) fun service =>
        useStore (fun s => ((), s.modify service.id (·.addAnswer ⟨service, run, []⟩ (.computed fun _ =>
            .callThrough 0 reader run [] (fun _ => .call 0 clock run [] fun _ => .done (.ok .unit))
              fun _ => .done (.ok .unit))))) fun _ =>
          call 0 clock run [] fun _ => look fun _ => call 0 service run [] fun _ =>
            statement 0 (.verify {}) (call 0 clock run [] fun _ => done (.ok .unit)) fun _ =>
              callThrough 0 reader run [] (fun _ => look fun _ => call 0 clock run [] fun _ => done (.ok .unit))
                fun _ => done (.ok .unit)

theorem readings_manages : readings.Manages := by
  refine ⟨fun s => ?_, fun _ => ⟨fun s => ?_, fun _ => ⟨fun s => ?_, fun _ => ⟨fun s => ?_, ?_⟩⟩⟩⟩
  · exact (s.create_keepsLogs _ _).manages
  · exact (s.create_keepsLogs _ _).manages
  · exact (s.create_keepsLogs _ _).manages
  · exact (s.addAnswer_keepsLogs _ _ _).manages
  · exact fun _ _ _ _ => ⟨fun _ => trivial, fun _ => ⟨fun _ _ _ => trivial, fun _ => trivial⟩⟩

/-- A look that finds this next number. -/
def looksAt (n : Nat) : Happening → Bool
  | .seen s => s.nextSequence == n
  | _ => false

theorem exists_look {t : Chronicle} {n : Nat} (h : t.any (looksAt n) = true) :
    ∃ s t', (.seen s :: t') <:+ t ∧ s.nextSequence = n := by
  obtain ⟨look, hmem, hlook⟩ := List.any_eq_true.mp h
  obtain ⟨later, t', rfl⟩ := List.append_of_mem hmem
  cases look with
  | seen s => exact ⟨s, t', List.suffix_append later _, beq_iff_eq.mp hlook⟩
  | _ => cases hlook

/-- The call that the service has caused is between the marks, not those before and behind the spy. -/
theorem marks_separate_calls_readings :
    let w : World Unit := { sessions := [{ generator := .ofSeed none }], depth := 2, memory := () }
    let v := (readings.run.runOn { w with memory := { memory := w.memory } }).2
    (Act.mergedLog v.store .unordered [1]).map (·.sequence) = [1, 4, 8] ∧
      (Act.mergedLog v.store ((Request.unordered.since 2).until_ 8) [1]).map (·.sequence) = [4] ∧
      ∃ s₁ t₁ s₂ t₂, (.seen s₁ :: t₁) <:+ readings.chronicle w ∧ (.seen s₂ :: t₂) <:+ readings.chronicle w ∧
        s₁.nextSequence = 2 ∧ s₂.nextSequence = 8 ∧ ∃ between : Call → Bool,
          Act.mergedLog v.store ((Request.unordered.since 2).until_ 8) [1] =
            (Act.mergedLog v.store .unordered [1]).filter between ∧
          ∀ c ∈ Act.mergedLog v.store .unordered [1],
            between c = true ↔ c ∈ Chronicle.calls t₂ ∧ c ∉ Chronicle.calls t₁ := by
  intro w v
  have hall : (Act.mergedLog v.store .unordered [1]).map (·.sequence) = [1, 4, 8] := by decide +kernel
  have hbetween : (Act.mergedLog v.store ((Request.unordered.since 2).until_ 8) [1]).map (·.sequence) = [4] := by
    decide +kernel
  have hlooks : (readings.chronicle w).any (looksAt 2) = true ∧ (readings.chronicle w).any (looksAt 8) = true := by
    decide +kernel
  have hw : w.Fresh := .of_empty rfl fun _ hs => by cases List.mem_singleton.mp hs; rfl
  obtain ⟨t, ht⟩ := readings.exists_chronicle w
  have hv : (.seen v.store :: t) <:+ readings.chronicle w := ht ▸ List.suffix_refl _
  -- from here on the run must not be unfolded
  clear_value v w
  obtain ⟨s₁, t₁, hmark₁, hn₁⟩ := exists_look hlooks.1
  obtain ⟨s₂, t₂, hmark₂, hn₂⟩ := exists_look hlooks.2
  have hwindows := (marks_separate_calls readings readings_manages hw hmark₁).2 v.store t hv .unordered [1] rfl
  refine ⟨hall, hbetween, s₁, t₁, s₂, t₂, hmark₁, hmark₂, hn₁, hn₂, ?_⟩
  rw [← hn₁, ← hn₂]
  exact hwindows.2 s₂ t₂ hmark₂

end Program

end TestDouble
