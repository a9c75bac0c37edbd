import TestDouble.Proofs.Verification.Consecutive

/-!
# From row to order to number

Matchers that have calls in a row have them in order, and matchers that have calls in order have one each. What is
reported for the stricter verification is reported for an unordered one, provided that matchers of the same shape accept
the same calls: of those only the first is counted.
-/

namespace TestDouble.Verification

variable {log : List Call} {m : CallMatcher} {ms : List CallMatcher} {is : List Nat} {start n : Nat} {c : Call}
  {r : Request} {matched : List Nat}

/-! ## Calls and matchers that belong together -/

theorem Embeds.exists_call (h : Embeds log ms is) : ∀ m ∈ ms, ∃ c ∈ log, m.test c = .done true := by
  obtain ⟨-, haccepted⟩ := h
  induction haccepted with
  | nil => nofun
  | cons h _ ih =>
      obtain ⟨c, hc, htest⟩ := h
      simp only [List.mem_cons, forall_eq_or_imp]
      exact ⟨⟨c, List.mem_of_getElem? hc, htest⟩, ih⟩

theorem Embeds.exists_matcher (h : Embeds log ms is) :
    ∀ n ∈ sequencesAt log is, ∃ m ∈ ms, ∃ c ∈ log, m.test c = .done true ∧ c.sequence = n := by
  obtain ⟨-, haccepted⟩ := h
  induction haccepted with
  | nil => nofun
  | cons h _ ih =>
      obtain ⟨c, hc, htest⟩ := h
      rw [sequencesAt, List.filterMap_cons, hc]
      simp only [Option.map_some, List.mem_cons, forall_eq_or_imp]
      refine ⟨⟨_, .inl rfl, c, List.mem_of_getElem? hc, htest, rfl⟩, fun n hn => ?_⟩
      obtain ⟨m, hm, hcall⟩ := ih n hn
      exact ⟨m, .inr hm, hcall⟩

/-- A run of calls, as positions. -/
theorem sequencesAt_range' (log : List Call) (start k : Nat) :
    sequencesAt log (List.range' start k) = ((log.drop start).take k).map Call.sequence := by
  induction k generalizing start with
  | zero => simp [sequencesAt]
  | succ k ih =>
      rw [List.range'_succ, sequencesAt, List.filterMap_cons, ← sequencesAt, ih]
      by_cases hstart : start < log.length
      · rw [List.drop_eq_getElem_cons hstart, List.take_succ_cons]
        simp [List.getElem?_eq_getElem hstart]
      · have hle := Nat.le_of_not_lt hstart
        simp [List.getElem?_eq_none hle, List.drop_eq_nil_of_le hle, List.drop_eq_nil_of_le (Nat.le_succ_of_le hle)]

/-! ## What passes -/

theorem embeds_of_ordered (hr : r.inverse = false) (hp : ∀ m ∈ ms, Matcher.PureEach m.args)
    (h : ordered r ms log = .done (.passed matched)) : ∃ is, Embeds log ms is ∧ matched = sequencesAt log is := by
  rcases ordered_ends hr hp log with ⟨fs, hordered, hfound⟩ | ⟨reason, hordered, -⟩
  · cases hordered.symm.trans h
    exact ⟨_, hfound.embeds, hfound.sequencesAt.symm⟩
  · cases hordered.symm.trans h

theorem embeds_of_sequence (hr : r.inverse = false) (hp : ∀ m ∈ ms, Matcher.PureEach m.args)
    (h : sequence r ms log = .done (.passed matched)) : ∃ is, Embeds log ms is ∧ matched = sequencesAt log is := by
  rcases sequence_ends hr hp log with
    ⟨start, haligned, -, hsequence⟩ | ⟨-, ⟨fs, hsequence, -⟩ | ⟨reason, hsequence, -⟩⟩
  · cases hsequence.symm.trans h
    exact ⟨_, haligned.embeds, (sequencesAt_range' log start ms.length).symm⟩
  · cases hsequence.symm.trans h
  · cases hsequence.symm.trans h

theorem ordered_of_embeds (hr : r.inverse = false) (hp : ∀ m ∈ ms, Matcher.PureEach m.args) (h : Embeds log ms is) :
    ∃ found, ordered r ms log = .done (.passed found) := by
  rcases ordered_ends hr hp log with ⟨fs, hordered, -⟩ | ⟨reason, -, hlacks⟩
  · exact ⟨_, hordered⟩
  · exact absurd (fun j _ => Nat.zero_le j) (hlacks.not_embeds h)

/-- Where every matcher has a suitable number of calls, those of the kept matchers are reported. -/
theorem unordered_of_suits (hr : r.inverse = false) (hp : ∀ m ∈ ms, Matcher.PureEach m.args)
    (hsuits : ∀ m ∈ ms, countSuits r m (log.countP m.admits) = true) :
    ∃ found, unordered r ms log = .done (.passed found) ∧
      ∀ m ∈ distinct ms, ∀ c ∈ log, m.admits c = true → c.sequence ∈ found := by
  have hwrong : (((distinct ms).map fun m => (m, log.filter m.admits)).filter
      fun h => countSuits r h.1 h.2.length == r.inverse) = [] := by
    rw [List.filter_eq_nil_iff]
    intro h hh
    obtain ⟨m, hm, rfl⟩ := List.mem_map.mp hh
    have hm' := hsuits m (mem_distinct hm)
    rw [List.countP_eq_length_filter] at hm'
    simp [hm', hr]
  refine ⟨_, by rw [unordered_eq r hp, unorderedOutcome, hwrong, hr]; rfl, fun m hm c hc hadmits => ?_⟩
  rw [if_neg Bool.false_ne_true, List.mem_flatMap]
  have haccepted : c ∈ log.filter m.admits := List.mem_filter.mpr ⟨hc, hadmits⟩
  exact ⟨(m, log.filter m.admits), List.mem_map_of_mem hm, List.mem_map_of_mem haccepted⟩

/-- One call for each matcher is what an unordered verification asks for by default. -/
theorem unordered_of_embeds (hp : ∀ m ∈ ms, Matcher.PureEach m.args) (hn : ∀ m ∈ ms, m.isNotCalled = false)
    (h : Embeds log ms is) : ∃ found, unordered .unordered ms log = .done (.passed found) ∧
      ∀ m ∈ distinct ms, ∀ c ∈ log, m.admits c = true → c.sequence ∈ found := by
  refine unordered_of_suits rfl hp fun m hm => ?_
  obtain ⟨c, hc, htest⟩ := h.exists_call m hm
  have hpos : 0 < log.countP m.admits :=
    List.countP_pos_iff.mpr ⟨c, hc, (CallMatcher.test_eq_true (hp m hm) c).mp htest⟩
  simpa [countSuits, hn m hm, Request.countOk, Request.unordered] using hpos

/-- An unordered verification reports these calls, too, where matchers of the same shape accept the same calls. -/
theorem subset_unordered (hp : ∀ m ∈ ms, Matcher.PureEach m.args) (hn : ∀ m ∈ ms, m.isNotCalled = false)
    (hsame : ∀ m ∈ ms, ∀ n ∈ ms, m.sameShape n = true → ∀ c ∈ log, m.test c = n.test c)
    (h : Embeds log ms is) :
    ∃ found, unordered .unordered ms log = .done (.passed found) ∧ sequencesAt log is ⊆ found := by
  obtain ⟨found, hunordered, hreported⟩ := unordered_of_embeds hp hn h
  refine ⟨found, hunordered, fun n hn => ?_⟩
  obtain ⟨m, hm, c, hc, htest, rfl⟩ := h.exists_matcher n hn
  obtain ⟨kept, hkept, hshape⟩ := exists_distinct hm
  rw [← hsame kept (mem_distinct hkept) m hm hshape c hc] at htest
  exact hreported kept hkept c hc ((CallMatcher.test_eq_true (hp kept (mem_distinct hkept)) c).mp htest)

/-- A sequence that passes would pass in order, and what passes in order would pass by number; what is then reported
includes what was reported for the stricter one. -/
theorem order_hierarchy {rs ro : Request} (hs : rs.inverse = false) (ho : ro.inverse = false)
    (hp : ∀ m ∈ ms, Matcher.PureEach m.args) (hn : ∀ m ∈ ms, m.isNotCalled = false) (log : List Call) :
    (∀ matched, sequence rs ms log = .done (.passed matched) → ∃ found, ordered ro ms log = .done (.passed found)) ∧
    (∀ matched, ordered ro ms log = .done (.passed matched) →
      ∃ found, unordered .unordered ms log = .done (.passed found)) ∧
    ((∀ m ∈ ms, ∀ n ∈ ms, m.sameShape n = true → ∀ c ∈ log, m.test c = n.test c) → ∀ matched,
      (sequence rs ms log = .done (.passed matched) ∨ ordered ro ms log = .done (.passed matched)) →
      ∃ found, unordered .unordered ms log = .done (.passed found) ∧ matched ⊆ found) := by
  refine ⟨fun matched h => ?_, fun matched h => ?_, fun hsame matched h => ?_⟩
  · obtain ⟨is, his, -⟩ := embeds_of_sequence hs hp h
    exact ordered_of_embeds ho hp his
  · obtain ⟨is, his, -⟩ := embeds_of_ordered ho hp h
    obtain ⟨found, hunordered, -⟩ := unordered_of_embeds hp hn his
    exact ⟨found, hunordered⟩
  · obtain ⟨is, his, rfl⟩ := h.elim (embeds_of_sequence hs hp) (embeds_of_ordered ho hp)
    exact subset_unordered hp hn hsame his

/-- Two matchers of one shape: the second call is reported for the first of them, too. -/
theorem order_hierarchy_twice :
    (∃ found, ordered .ordered ([serviceCall true 0, serviceCall true 0].map .exact)
      [serviceCall true 1, serviceCall true 2] = .done (.passed found)) ∧
    (∃ found, unordered .unordered ([serviceCall true 0, serviceCall true 0].map .exact)
      [serviceCall true 1, serviceCall true 2] = .done (.passed found) ∧ [1, 2] ⊆ found) := by
  have hsame : ∀ m ∈ [serviceCall true 0, serviceCall true 0].map CallMatcher.exact,
      m = .exact (serviceCall true 0) := by simp
  have hn : ∀ m ∈ [serviceCall true 0, serviceCall true 0].map CallMatcher.exact, m.isNotCalled = false :=
    fun m hm => by rw [hsame m hm, CallMatcher.isNotCalled_exact]
  obtain ⟨hordered, -, hreported⟩ := order_hierarchy (rfl : Request.sequence.inverse = false)
    (rfl : Request.ordered.inverse = false) (fun m hm => CallMatcher.pureEach_exact hm) hn
    [serviceCall true 1, serviceCall true 2]
  refine ⟨hordered [1, 2] rfl, hreported (fun m hm n hn' _ _ _ => ?_) [1, 2] (.inl rfl)⟩
  rw [hsame m hm, hsame n hn']

end TestDouble.Verification
