import Mathlib.Data.List.Pairwise
import TestDouble.Proofs.Verification.Ordered

/-!
# Calls in a row

A sequence passes exactly if the matchers accept as many calls in a row, one by one, and reports the first such run. If
the matchers only occur in order, it names a call that comes in between.
-/

namespace TestDouble.Verification

/-- From `start` on there are as many calls as matchers, and each is accepted by its matcher. -/
structure Aligned (log : List Call) (ms : List CallMatcher) (start : Nat) : Prop where
  within : start + ms.length ≤ log.length
  accepted : List.Forall₂ (fun m c => CallMatcher.test m c = .done true) ms ((log.drop start).take ms.length)

variable {log : List Call} {m : CallMatcher} {ms : List CallMatcher} {is js : List Nat} {start i : Nat} {c : Call}
  {fs : List (Nat × Call)} {reason : String} {r : Request}

/-! ## Runs of calls -/

theorem aligned_cons : Aligned (c :: log) ms (i + 1) ↔ Aligned log ms i := by
  constructor
  · rintro ⟨hwithin, haccepted⟩
    exact ⟨by rw [List.length_cons] at hwithin; omega, haccepted⟩
  · rintro ⟨hwithin, haccepted⟩
    exact ⟨by rw [List.length_cons]; omega, haccepted⟩

theorem aligned_eq : (ms : List CallMatcher) → (∀ m ∈ ms, Matcher.PureEach m.args) → (calls : List Call) →
    ms.length ≤ calls.length → ∃ b, aligned ms calls = .done b ∧
      (b = true ↔ List.Forall₂ (fun m c => CallMatcher.test m c = .done true) ms (calls.take ms.length))
  | [], _, _, _ => ⟨true, rfl, by simp⟩
  | m :: ms, hp, c :: calls, hle => by
      have hp' := fun n hn => hp n (List.mem_cons_of_mem m hn)
      obtain ⟨b, hrest, hb⟩ := aligned_eq ms hp' calls (Nat.le_of_succ_le_succ hle)
      have htest := CallMatcher.test_eq_admits (hp m List.mem_cons_self) c
      rw [List.length_cons, List.take_succ_cons, List.forall₂_cons, ← hb, aligned, htest]
      cases hadmits : m.admits c with
      | true => exact ⟨b, hrest, by simp⟩
      | false => exact ⟨false, rfl, by simp⟩

theorem alignedRun?_first (hp : ∀ m ∈ ms, Matcher.PureEach m.args) : (log : List Call) →
    (∃ start, alignedRun? ms log = .done (some ((log.drop start).take ms.length)) ∧ Aligned log ms start ∧
      ∀ i, Aligned log ms i → start ≤ i) ∨
    (alignedRun? ms log = .done none ∧ ∀ i, ¬Aligned log ms i)
  | [] => by
      cases ms with
      | nil => exact .inl ⟨0, rfl, ⟨Nat.le_refl _, .nil⟩, fun i _ => Nat.zero_le i⟩
      | cons m ms => exact .inr ⟨rfl, fun i h => absurd h.within (by simp)⟩
  | c :: cs => by
      rw [alignedRun?]
      by_cases hle : ms.length ≤ (c :: cs).length
      · obtain ⟨b, haligned, hb⟩ := aligned_eq ms hp (c :: cs) hle
        rw [if_pos hle, haligned, Probe.bind]
        cases b with
        | true => exact .inl ⟨0, rfl, ⟨by rwa [Nat.zero_add], hb.mp rfl⟩, fun i _ => Nat.zero_le i⟩
        | false =>
            have hzero : ¬Aligned (c :: cs) ms 0 := fun h => Bool.false_ne_true (hb.mpr h.accepted)
            rcases alignedRun?_first hp cs with ⟨start, hrun, haligned, hfirst⟩ | ⟨hrun, hnone⟩
            · refine .inl ⟨start + 1, hrun, aligned_cons.mpr haligned, fun i hi => ?_⟩
              cases i with
              | zero => exact absurd hi hzero
              | succ i => exact Nat.succ_le_succ (hfirst i (aligned_cons.mp hi))
            · refine .inr ⟨hrun, fun i hi => ?_⟩
              cases i with
              | zero => exact hzero hi
              | succ i => exact hnone i (aligned_cons.mp hi)
      · rw [if_neg hle]
        exact .inr ⟨rfl, fun i hi => hle (Nat.le_of_add_left_le hi.within)⟩

/-- A run is a choice of consecutive positions. -/
theorem accepted_range' (ms : List CallMatcher) (log : List Call) (i : Nat) :
    List.Forall₂ (AcceptedAt log) ms (List.range' i ms.length) ↔
      List.Forall₂ (fun m c => CallMatcher.test m c = .done true) ms ((log.drop i).take ms.length) := by
  induction ms generalizing i with
  | nil => simp
  | cons m ms ih =>
      rw [List.length_cons, List.range'_succ, List.forall₂_cons, ih]
      by_cases hi : i < log.length
      · rw [List.drop_eq_getElem_cons hi, List.take_succ_cons, List.forall₂_cons]
        simp [AcceptedAt, List.getElem?_eq_getElem hi]
      · have hnone : log[i]? = none := List.getElem?_eq_none (Nat.le_of_not_lt hi)
        simp [AcceptedAt, hnone, List.drop_eq_nil_of_le (Nat.le_of_not_lt hi)]

theorem Aligned.of_range' (hi : i < log.length) (h : List.Forall₂ (AcceptedAt log) ms (List.range' i ms.length)) :
    Aligned log ms i := by
  have haccepted := (accepted_range' ms log i).mp h
  have hlength := haccepted.length_eq
  rw [List.length_take, List.length_drop] at hlength
  exact ⟨by omega, haccepted⟩

theorem Aligned.embeds (h : Aligned log ms start) : Embeds log ms (List.range' start ms.length) :=
  ⟨List.pairwise_lt_range', (accepted_range' ms log start).mpr h.accepted⟩

/-! ## Calls in between -/

/-- Increasing positions without a gap are consecutive. -/
theorem eq_range' : {is : List Nat} → {i : Nat} → (i :: is).Pairwise (· < ·) →
    (∀ j ∈ is, ∀ k, i ≤ k → k ≤ j → k ∈ i :: is) → i :: is = List.range' i (is.length + 1)
  | [], _, _, _ => rfl
  | j :: is, i, h, hfull => by
      obtain ⟨hi, hj⟩ := List.pairwise_cons.mp h
      have hij := hi j List.mem_cons_self
      have hlt := (List.pairwise_cons.mp hj).1
      have hnext : j = i + 1 := by
        have hmem := hfull j List.mem_cons_self (i + 1) (Nat.le_succ i) hij
        simp only [List.mem_cons] at hmem
        rcases hmem with heq | heq | hmem
        · omega
        · exact heq.symm
        · have := hlt _ hmem
          omega
      have hrest : j :: is = List.range' j (is.length + 1) := eq_range' hj fun j' hj' k hk hk' => by
        rcases List.mem_cons.mp (hfull j' (List.mem_cons_of_mem j hj') k (by omega) hk') with rfl | hmem
        · omega
        · exact hmem
      rw [List.length_cons, List.range'_succ, hrest, hnext]

/-- The calls at the first and at the last of these positions, and one in between that is at none of them. -/
structure Interrupted (log : List Call) (is : List Nat) (first last intruder : Nat × Call) : Prop where
  head : is.head? = some first.1
  getLast : is.getLast? = some last.1
  calls : ∀ f ∈ [first, last, intruder], log[f.1]? = some f.2
  after : first.1 < intruder.1
  before : intruder.1 < last.1
  notMem : intruder.1 ∉ is

/-- The reason that names such calls. -/
def interruptionText (first last intruder : Call) : String :=
  "call " ++ numberedText intruder ++ " does not match the verified sequence between #" ++ toString first.sequence
    ++ " and #" ++ toString last.sequence

theorem intruder?_some {first last : Nat} (h : intruder? log fs first last = some c) :
    ∃ k, log[k]? = some c ∧ first ≤ k ∧ k ≤ last ∧ k ∉ fs.map (·.1) := by
  obtain ⟨⟨d, k⟩, hfind, rfl⟩ := Option.map_eq_some_iff.mp h
  have hmem := List.mem_zipIdx_iff_getElem?.mp (List.mem_of_find?_eq_some hfind)
  have hbetween := List.find?_some hfind
  simp only [Bool.and_eq_true, decide_eq_true_eq, Bool.not_eq_true', List.contains_eq_mem, decide_eq_false_iff_not]
    at hbetween
  exact ⟨k, hmem, hbetween.1.1, hbetween.1.2, hbetween.2⟩

theorem intruder?_none {first last k : Nat} (h : intruder? log fs first last = none) (hk : k < log.length)
    (hfirst : first ≤ k) (hlast : k ≤ last) : k ∈ fs.map (·.1) := by
  have hmem : (log[k], k) ∈ log.zipIdx := List.mem_zipIdx_iff_getElem?.mpr (List.getElem?_eq_getElem hk)
  have hout := List.find?_eq_none.mp (Option.map_eq_none_iff.mp h) _ hmem
  simpa [hfirst, hlast] using hout

theorem Found.exists_last (h : Found log start ms fs) (hne : fs ≠ []) :
    ∃ last ∈ fs, fs.getLast? = some last ∧ ∀ f ∈ fs, f.1 ≤ last.1 := by
  refine ⟨fs.getLast hne, List.getLast_mem hne, List.getLast?_eq_some_getLast hne, fun f hf => ?_⟩
  have hordered := (List.pairwise_map.mp h.embeds.increasing).imp Nat.le_of_lt
  exact hordered.rel_getLast_of_rel_getLast_getLast hf (Nat.le_refl _)

/-- Without a call in between, the matchers have their calls in a row. -/
theorem Found.aligned {first last : Nat × Call} (h : Found log start ms (first :: fs)) (hlast : last ∈ first :: fs)
    (hle : ∀ f ∈ first :: fs, f.1 ≤ last.1) (hnone : intruder? log (first :: fs) first.1 last.1 = none) :
    Aligned log ms first.1 := by
  have hinside : ∀ f ∈ first :: fs, f.1 < log.length := fun f hf => (List.getElem?_eq_some_iff.mp (h.call f hf)).1
  have hrange := eq_range' h.embeds.increasing fun j hj k hk hkj => by
    obtain ⟨f, hf, rfl⟩ := List.mem_map.mp hj
    have hkl := Nat.le_trans hkj (hle f (List.mem_cons_of_mem first hf))
    exact intruder?_none hnone (Nat.lt_of_le_of_lt hkl (hinside last hlast)) hk hkl
  have haccepted := h.embeds.accepted
  have hlength := haccepted.length_eq
  rw [List.length_map, List.length_cons] at hlength
  rw [List.map_cons, hrange, List.length_map, ← hlength] at haccepted
  exact .of_range' (hinside first List.mem_cons_self) haccepted

/-- Matchers that have calls in order, but not in a row, leave a call out. -/
theorem Found.interrupted (h : Found log start ms fs) (hnone : ∀ i, ¬Aligned log ms i) : ∃ first last intruder,
    Interrupted log (fs.map (·.1)) first last intruder ∧
    interruption log fs = interruptionText first.2 last.2 intruder.2 := by
  obtain _ | ⟨first, rest⟩ := fs
  · cases h
    exact absurd ⟨Nat.zero_le _, .nil⟩ (hnone 0)
  obtain ⟨last, hmem, hlast, hle⟩ := h.exists_last (List.cons_ne_nil _ _)
  cases hintruder : intruder? log (first :: rest) first.1 last.1 with
  | none => exact absurd (h.aligned hmem hle hintruder) (hnone first.1)
  | some c =>
      obtain ⟨k, hk, hfirst, hkl, hout⟩ := intruder?_some hintruder
      have hne : ∀ f ∈ first :: rest, k ≠ f.1 := fun f hf heq => hout (heq ▸ List.mem_map_of_mem hf)
      have hcalls := h.call
      refine ⟨first, last, (k, c), ⟨rfl, by rw [List.getLast?_map, hlast]; rfl, ?_, ?_, ?_, hout⟩, ?_⟩
      · simp [hk, hcalls first List.mem_cons_self, hcalls last hmem]
      · exact Nat.lt_of_le_of_ne hfirst (hne first List.mem_cons_self).symm
      · exact Nat.lt_of_le_of_ne hkl (hne last hmem)
      · simp [interruption, hlast, hintruder, interruptionText]

/-! ## Sequences -/

theorem sequence_ends (hr : r.inverse = false) (hp : ∀ m ∈ ms, Matcher.PureEach m.args) (log : List Call) :
    (∃ start, Aligned log ms start ∧ (∀ i, Aligned log ms i → start ≤ i) ∧
      sequence r ms log = .done (.passed (((log.drop start).take ms.length).map Call.sequence))) ∨
    (∀ i, ¬Aligned log ms i) ∧
      ((∃ fs, sequence r ms log = .done (.failed (interruption log fs)) ∧ Found log 0 ms fs) ∨
        (∃ reason, sequence r ms log = .done (.failed reason) ∧ Lacks log 0 none ms reason)) := by
  unfold sequence
  rcases alignedRun?_first hp log with ⟨start, hrun, haligned, hfirst⟩ | ⟨hrun, hnone⟩
  · exact .inl ⟨start, haligned, hfirst, by rw [hrun, hr]; rfl⟩
  · refine .inr ⟨hnone, ?_⟩
    rcases earliest_ends log ms hp 0 none with ⟨fs, hearliest, hfound⟩ | ⟨reason, hearliest, hlacks⟩
    all_goals rw [List.drop_zero] at hearliest
    · exact .inl ⟨fs, by rw [hrun, Probe.bind, hearliest, hr]; rfl, hfound⟩
    · exact .inr ⟨reason, by rw [hrun, Probe.bind, hearliest, hr]; rfl, hlacks⟩

/-- What the outcome of a sequence says about the log. -/
structure SequenceOutcome (log : List Call) (ms : List CallMatcher) (o : Outcome) : Prop where
  passed_iff : o.isPassed = true ↔ ∃ start, Aligned log ms start
  /-- The first run is reported. -/
  passed : o.isPassed = true → ∃ start, Aligned log ms start ∧ (∀ i, Aligned log ms i → start ≤ i) ∧
    o = .passed (((log.drop start).take ms.length).map Call.sequence)
  /-- Where the matchers occur in order, a call is named that is none of the earliest ones and comes between them. -/
  interrupted : o.isPassed = false → (∃ is, Embeds log ms is) → ∃ is first last intruder, Leftmost log ms is ∧
    Interrupted log is first last intruder ∧ o = .failed (interruptionText first.2 last.2 intruder.2)
  lacks : o.isPassed = false → (¬∃ is, Embeds log ms is) →
    ∃ reason, Lacks log 0 none ms reason ∧ o = .failed reason

/-- A sequence passes exactly if the matchers accept calls in a row, and says what is true of the log. -/
theorem sequence_outcome (hr : r.inverse = false) (hp : ∀ m ∈ ms, Matcher.PureEach m.args) (log : List Call) :
    ∃ o, sequence r ms log = .done o ∧ SequenceOutcome log ms o := by
  rcases sequence_ends hr hp log with
    ⟨start, haligned, hfirst, hsequence⟩ | ⟨hnone, ⟨fs, hsequence, hfound⟩ | ⟨reason, hsequence, hlacks⟩⟩
  · exact ⟨_, hsequence, {
      passed_iff := ⟨fun _ => ⟨start, haligned⟩, fun _ => rfl⟩
      passed := fun _ => ⟨start, haligned, hfirst, rfl⟩
      interrupted := nofun
      lacks := nofun }⟩
  · obtain ⟨first, last, intruder, hinterrupted, htext⟩ := hfound.interrupted hnone
    exact ⟨_, hsequence, {
      passed_iff := ⟨nofun, fun ⟨i, hi⟩ => absurd hi (hnone i)⟩
      passed := nofun
      interrupted := fun _ _ => ⟨_, first, last, intruder, hfound.leftmost, hinterrupted, by rw [htext]⟩
      lacks := fun _ h => absurd ⟨_, hfound.embeds⟩ h }⟩
  · exact ⟨_, hsequence, {
      passed_iff := ⟨nofun, fun ⟨i, hi⟩ => absurd hi (hnone i)⟩
      passed := nofun
      interrupted := fun _ ⟨is, his⟩ => absurd (fun j _ => Nat.zero_le j) (hlacks.not_embeds his)
      lacks := fun _ _ => ⟨reason, hlacks, rfl⟩ }⟩

/-- The call `f(false)` comes between the two that are to follow each other. -/
theorem sequence_outcome_interrupted : ∃ o,
    sequence .sequence [.exact (serviceCall true 0), .exact (serviceCall true 0)]
      [serviceCall true 1, serviceCall false 2, serviceCall true 3] = .done o ∧
    SequenceOutcome [serviceCall true 1, serviceCall false 2, serviceCall true 3]
      [.exact (serviceCall true 0), .exact (serviceCall true 0)] o ∧
    o = .failed "call #2 Service#1.f(false) does not match the verified sequence between #1 and #3" := by
  obtain ⟨o, hsequence, houtcome⟩ := sequence_outcome (r := .sequence) rfl
    (fun m (hm : m ∈ [serviceCall true 0, serviceCall true 0].map .exact) => CallMatcher.pureEach_exact hm)
    [serviceCall true 1, serviceCall false 2, serviceCall true 3]
  have hdone : Probe.done o = .done (.failed
      "call #2 Service#1.f(false) does not match the verified sequence between #1 and #3") := hsequence.symm
  exact ⟨o, hsequence, houtcome, Probe.done.inj hdone⟩

end TestDouble.Verification
