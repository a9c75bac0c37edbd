import Mathlib.Data.List.Forall2
import TestDouble.Proofs.Verification.Exact

/-!
# Calls in their order

An ordered verification gives each matcher the first call that is left for it. It passes exactly if there are
positions of the log, one after the other, at which the matchers accept the calls, and then reports those that are the
earliest for every matcher.
-/

namespace TestDouble

theorem CallMatcher.test_eq_true {m : CallMatcher} (h : Matcher.PureEach m.args) (c : Call) :
    m.test c = .done true ↔ m.admits c = true := by
  rw [test_eq_admits h, Probe.done.injEq]

namespace Verification

/-- The log has a call at this position, and the matcher accepts it. -/
def AcceptedAt (log : List Call) (m : CallMatcher) (i : Nat) : Prop := ∃ c, log[i]? = some c ∧ m.test c = .done true

/-- Positions of the log, one after the other, at which the matchers accept the calls. -/
structure Embeds (log : List Call) (ms : List CallMatcher) (is : List Nat) : Prop where
  increasing : is.Pairwise (· < ·)
  accepted : List.Forall₂ (AcceptedAt log) ms is

/-- No other choice of positions is earlier for any matcher. -/
structure Leftmost (log : List Call) (ms : List CallMatcher) (is : List Nat) : Prop extends Embeds log ms is where
  least : ∀ js, Embeds log ms js → List.Forall₂ (· ≤ ·) is js

/-- The sequence numbers of the calls at these positions. -/
def sequencesAt (log : List Call) (is : List Nat) : List Nat := is.filterMap fun i => log[i]?.map Call.sequence

/-- The first call from `start` on that the matcher accepts. -/
structure FirstFrom (log : List Call) (start : Nat) (m : CallMatcher) (i : Nat) (c : Call) : Prop where
  le : start ≤ i
  call : log[i]? = some c
  accepted : m.test c = .done true
  first : ∀ j, start ≤ j → AcceptedAt log m j → i ≤ j

variable {log : List Call} {m : CallMatcher} {ms : List CallMatcher} {is js : List Nat} {start i : Nat} {c : Call}
  {before : Option Call} {fs : List (Nat × Call)} {reason : String}

theorem findIdx?_first (hp : Matcher.PureEach m.args) (log : List Call) (start : Nat) :
    (∃ i c, Probe.findIdx? m.test (log.drop start) = .done (some (i, c)) ∧ FirstFrom log start m (start + i) c) ∨
    (Probe.findIdx? m.test (log.drop start) = .done none ∧ ∀ j, start ≤ j → ¬AcceptedAt log m j) := by
  obtain ⟨found, hfound, hposition⟩ := Probe.findIdx?_position fun c (_ : c ∈ log.drop start) =>
    CallMatcher.test_eq_admits hp c
  -- Positions of the log are positions of what is left of it.
  have hleft : ∀ j, start ≤ j → AcceptedAt log m j →
      ∃ c, (log.drop start)[j - start]? = some c ∧ m.admits c = true := by
    rintro j hj ⟨c, hc, htest⟩
    exact ⟨c, by rw [List.getElem?_drop, Nat.add_sub_cancel' hj, hc], (CallMatcher.test_eq_true hp c).mp htest⟩
  cases found with
  | none =>
      refine .inr ⟨hfound, fun j hj haccepted => ?_⟩
      obtain ⟨c, hc, hadmits⟩ := hleft j hj haccepted
      have hrejected := List.findIdx?_eq_none_iff.mp hposition.symm c (List.mem_of_getElem? hc)
      rw [hadmits] at hrejected
      cases hrejected
  | some f =>
      obtain ⟨i, c⟩ := f
      obtain ⟨hi, hadmits, hbefore⟩ := List.findIdx?_eq_some_iff_getElem.mp hposition.symm
      have hc : (log.drop start)[i]? = some c := by
        have halways := Probe.findIdx?_always m.test (log.drop start)
        rw [hfound] at halways
        exact halways _ rfl
      rw [(List.getElem?_eq_some_iff.mp hc).2] at hadmits
      refine .inl ⟨i, c, hfound, Nat.le_add_right start i, by rw [← List.getElem?_drop, hc],
        (CallMatcher.test_eq_true hp c).mpr hadmits, fun j hj haccepted => ?_⟩
      obtain ⟨d, hd, hadmits'⟩ := hleft j hj haccepted
      obtain ⟨hj', rfl⟩ := List.getElem?_eq_some_iff.mp hd
      by_contra hlt
      exact hbefore (j - start) (by dsimp only; omega) hadmits'

/-! ## All matchers -/

/-- Each matcher has the first call after that of the matcher before it. -/
inductive Found (log : List Call) : Nat → List CallMatcher → List (Nat × Call) → Prop
  | nil {start : Nat} : Found log start [] []
  | cons {start i : Nat} {m : CallMatcher} {c : Call} {ms : List CallMatcher} {fs : List (Nat × Call)}
      (h : FirstFrom log start m i c) (rest : Found log (i + 1) ms fs) : Found log start (m :: ms) ((i, c) :: fs)

/-- Why a matcher that has no call after this one is not in order. -/
def lackText (m : CallMatcher) (after : Option Call) : String :=
  "calls are not in the verified order: no call matching " ++ m.text ++
    match after with
    | some c => " after #" ++ toString c.sequence
    | none => " was made"

/-- The matchers before it have their calls, but for one there is none left. -/
inductive Lacks (log : List Call) : Nat → Option Call → List CallMatcher → String → Prop
  | here {start : Nat} {before : Option Call} {m : CallMatcher} {ms : List CallMatcher}
      (h : ∀ j, start ≤ j → ¬AcceptedAt log m j) : Lacks log start before (m :: ms) (lackText m before)
  | later {start i : Nat} {before : Option Call} {m : CallMatcher} {c : Call} {ms : List CallMatcher} {reason : String}
      (h : FirstFrom log start m i c) (rest : Lacks log (i + 1) (some c) ms reason) :
      Lacks log start before (m :: ms) reason

theorem earliest_ends (log : List Call) : (ms : List CallMatcher) → (∀ m ∈ ms, Matcher.PureEach m.args) →
    (start : Nat) → (before : Option Call) →
    (∃ fs, earliest start before ms (log.drop start) = .done (.ok fs) ∧ Found log start ms fs) ∨
    (∃ reason, earliest start before ms (log.drop start) = .done (.error reason) ∧ Lacks log start before ms reason)
  | [], _, _, _ => .inl ⟨[], rfl, .nil⟩
  | m :: ms, hp, start, before => by
      rcases findIdx?_first (hp m List.mem_cons_self) log start with ⟨i, c, hfound, hfirst⟩ | ⟨hfound, hnone⟩
      · have hdrop : (log.drop start).drop (i + 1) = log.drop (start + i + 1) := List.drop_drop
        simp only [earliest, hfound, Probe.bind, hdrop]
        rcases earliest_ends log ms (fun n hn => hp n (List.mem_cons_of_mem m hn)) (start + i + 1) (some c) with
          ⟨fs, hrest, hfs⟩ | ⟨reason, hrest, hlacks⟩
        · exact .inl ⟨(start + i, c) :: fs, by rw [hrest]; rfl, .cons hfirst hfs⟩
        · exact .inr ⟨reason, by rw [hrest]; rfl, .later hfirst hlacks⟩
      · simp only [earliest, hfound]
        exact .inr ⟨lackText m before, rfl, .here hnone⟩

namespace Found

theorem le (h : Found log start ms fs) : ∀ j ∈ fs.map (·.1), start ≤ j := by
  induction h with
  | nil => nofun
  | cons h _ ih =>
      simp only [List.map_cons, List.mem_cons, forall_eq_or_imp]
      exact ⟨h.le, fun j hj => Nat.le_trans h.le (Nat.le_of_succ_le (ih j hj))⟩

theorem call (h : Found log start ms fs) : ∀ f ∈ fs, log[f.1]? = some f.2 := by
  induction h with
  | nil => nofun
  | cons h _ ih =>
      simp only [List.mem_cons, forall_eq_or_imp]
      exact ⟨h.call, ih⟩

theorem embeds (h : Found log start ms fs) : Embeds log ms (fs.map (·.1)) := by
  induction h with
  | nil => exact ⟨.nil, .nil⟩
  | cons h rest ih =>
      exact ⟨List.pairwise_cons.mpr ⟨rest.le, ih.increasing⟩, .cons ⟨_, h.call, h.accepted⟩ ih.accepted⟩

/-- Taking the first call for a matcher leaves all that the others could have had. -/
theorem least (h : Found log start ms fs) (hjs : Embeds log ms js) (hle : ∀ j ∈ js, start ≤ j) :
    List.Forall₂ (· ≤ ·) (fs.map (·.1)) js := by
  induction h generalizing js with
  | nil =>
      cases hjs.accepted
      exact .nil
  | cons h _ ih =>
      obtain ⟨hincreasing, haccepted⟩ := hjs
      cases haccepted with
      | cons hj hjs =>
          obtain ⟨hlt, hincreasing⟩ := List.pairwise_cons.mp hincreasing
          have hij := h.first _ (hle _ List.mem_cons_self) hj
          exact .cons hij (ih ⟨hincreasing, hjs⟩ fun k hk => Nat.lt_of_le_of_lt hij (hlt k hk))

theorem leftmost (h : Found log 0 ms fs) : Leftmost log ms (fs.map (·.1)) where
  toEmbeds := h.embeds
  least _ hjs := h.least hjs fun j _ => Nat.zero_le j

theorem sequencesAt (h : Found log start ms fs) : sequencesAt log (fs.map (·.1)) = fs.map (·.2.sequence) := by
  induction h with
  | nil => rfl
  | cons h _ ih =>
      rw [List.map_cons, Verification.sequencesAt, List.filterMap_cons, h.call]
      exact congrArg (_ :: ·) ih

end Found

/-- No matter which calls the other matchers get, none is left for one of them. -/
theorem Lacks.not_embeds (h : Lacks log start before ms reason) (hjs : Embeds log ms js) :
    ¬∀ j ∈ js, start ≤ j := by
  intro hle
  obtain ⟨hincreasing, haccepted⟩ := hjs
  induction h generalizing js with
  | here h =>
      cases haccepted with
      | cons hj _ => exact h _ (hle _ List.mem_cons_self) hj
  | later h _ ih =>
      cases haccepted with
      | cons hj hjs =>
          obtain ⟨hlt, hincreasing⟩ := List.pairwise_cons.mp hincreasing
          have hij := h.first _ (hle _ List.mem_cons_self) hj
          exact ih (fun k hk => Nat.lt_of_le_of_lt hij (hlt k hk)) hincreasing hjs

/-! ## Ordered verifications -/

variable {r : Request}

theorem ordered_ends (hr : r.inverse = false) (hp : ∀ m ∈ ms, Matcher.PureEach m.args) (log : List Call) :
    (∃ fs, ordered r ms log = .done (.passed (fs.map (·.2.sequence))) ∧ Found log 0 ms fs) ∨
    (∃ reason, ordered r ms log = .done (.failed reason) ∧ Lacks log 0 none ms reason) := by
  unfold ordered
  rcases earliest_ends log ms hp 0 none with ⟨fs, hearliest, hfound⟩ | ⟨reason, hearliest, hlacks⟩
  all_goals rw [List.drop_zero] at hearliest
  · exact .inl ⟨fs, by rw [hearliest, hr]; rfl, hfound⟩
  · exact .inr ⟨reason, by rw [hearliest, hr]; rfl, hlacks⟩

/-- An ordered verification passes exactly if the matchers can be given calls in order, and reports the earliest. -/
theorem ordered_leftmost (hr : r.inverse = false) (hp : ∀ m ∈ ms, Matcher.PureEach m.args) (log : List Call) :
    ∃ o, ordered r ms log = .done o ∧ (o.isPassed = true ↔ ∃ is, Embeds log ms is) ∧
      (o.isPassed = true → ∃ is, Leftmost log ms is ∧ o = .passed (sequencesAt log is)) := by
  rcases ordered_ends hr hp log with ⟨fs, hordered, hfound⟩ | ⟨reason, hordered, hlacks⟩
  · refine ⟨_, hordered, ⟨fun _ => ⟨_, hfound.embeds⟩, fun _ => rfl⟩, fun _ => ?_⟩
    exact ⟨_, hfound.leftmost, by rw [hfound.sequencesAt]⟩
  · refine ⟨_, hordered, ⟨nofun, ?_⟩, nofun⟩
    rintro ⟨is, his⟩
    exact absurd (fun j _ => Nat.zero_le j) (hlacks.not_embeds his)

/-- `f` with any argument. -/
def anyServiceCall : CallMatcher := ⟨⟨1, "Service"⟩, (serviceCall true 0).method, [.any]⟩

/-- The first matcher would accept either call, but has to leave the second one. -/
theorem ordered_leftmost_overlapping : ∃ o,
    ordered .ordered [anyServiceCall, .exact (serviceCall true 0)] [serviceCall true 1, serviceCall true 2] = .done o ∧
    (o.isPassed = true ↔
      ∃ is, Embeds [serviceCall true 1, serviceCall true 2] [anyServiceCall, .exact (serviceCall true 0)] is) ∧
    (o.isPassed = true → ∃ is,
      Leftmost [serviceCall true 1, serviceCall true 2] [anyServiceCall, .exact (serviceCall true 0)] is ∧
      o = .passed (sequencesAt [serviceCall true 1, serviceCall true 2] is)) :=
  ordered_leftmost rfl (by simp [anyServiceCall, CallMatcher.exact, Matcher.pureEach_iff, Matcher.Pure, serviceCall]) _

end Verification

end TestDouble
