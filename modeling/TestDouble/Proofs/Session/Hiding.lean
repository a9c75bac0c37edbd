import TestDouble.Proofs.Chronicle.Agreeing
import TestDouble.Proofs.Session.Untouched

/-!
# Hiding exactly what is described

A block that hides calls hides those visible ones that one of its matchers accepts, each of them once, whichever
matchers and mocks it mentions how often. Nothing else changes.
-/

namespace TestDouble

/-! ## Hidden calls -/

namespace Stub

variable {x : Stub} {p q : Call → Bool}

/-- The calls that `p` holds of are hidden. -/
def hideWhere (p : Call → Bool) (x : Stub) : Stub :=
  { x with log := x.log.map fun l => { l with excluded := l.excluded || p l.call } }

theorem hideWhere_hideWhere (p q : Call → Bool) (x : Stub) :
    (x.hideWhere p).hideWhere q = x.hideWhere fun c => p c || q c := by
  simp only [hideWhere, List.map_map, Function.comp_def, Bool.or_assoc]

/-- Nothing changes where only hidden calls would be hidden. -/
theorem hideWhere_eq_self (h : ∀ l ∈ x.log, p l.call = true → l.excluded = true) : x.hideWhere p = x := by
  have hlog : (x.log.map fun l => { l with excluded := l.excluded || p l.call }) = x.log := by
    refine (List.map_congr_left fun l hl => ?_).trans (List.map_id x.log)
    have hflag : (l.excluded || p l.call) = l.excluded := by
      cases hp : p l.call with
      | false => exact Bool.or_false _
      | true => rw [Bool.or_true, h l hl hp]
    rw [hflag, id_eq]
  rw [hideWhere, hlog]

/-- A call is known by its number. -/
theorem contains_visible (h : (x.log.map (·.call.sequence)).Nodup) (p : Call → Bool) {l : LoggedCall} (hl : l ∈ x.log) :
    ((x.visible.filter p).map Call.sequence).contains l.call.sequence = (!l.excluded && p l.call) := by
  rw [Bool.eq_iff_iff, List.contains_iff_mem, Bool.and_eq_true, Bool.not_eq_true']
  constructor
  · intro hmem
    obtain ⟨c, hc, hn⟩ := List.mem_map.mp hmem
    obtain ⟨hvisible, hp⟩ := List.mem_filter.mp hc
    obtain ⟨k, hk, rfl⟩ := List.mem_map.mp hvisible
    obtain ⟨hk, hkept⟩ := List.mem_filter.mp hk
    cases List.inj_on_of_nodup_map h hk hl hn
    exact ⟨by simpa using hkept, hp⟩
  · rintro ⟨hkept, hp⟩
    have hvisible : l.call ∈ x.visible := List.mem_map_of_mem (List.mem_filter.mpr ⟨hl, by rw [hkept]; rfl⟩)
    exact List.mem_map_of_mem (List.mem_filter.mpr ⟨hvisible, hp⟩)

/-- Calls are hidden by their numbers. -/
theorem hide_eq_hideWhere (h : (x.log.map (·.call.sequence)).Nodup) (p : Call → Bool) :
    x.hide ((x.visible.filter p).map Call.sequence) = x.hideWhere p := by
  rw [hide, hideWhere]
  congr 1
  refine List.map_congr_left fun l hl => ?_
  rw [contains_visible h p hl]
  obtain ⟨call, verified, excluded⟩ := l
  cases excluded <;> cases p call <;> simp

theorem hiddenBy_eq (h : (x.log.map (·.call.sequence)).Nodup) (p : Call → Bool) :
    x.hiddenBy ((x.visible.filter p).map Call.sequence) = (x.visible.filter p).length := by
  have hcount :
      x.hiddenBy ((x.visible.filter p).map Call.sequence) = x.log.countP fun l => p l.call && !l.excluded := by
    refine List.countP_congr fun l hl => ?_
    rw [contains_visible h p hl]
    cases l.excluded <;> cases p l.call <;> decide
  rw [hcount, visible, List.filter_map, List.length_map, List.filter_filter, List.countP_eq_length_filter]
  rfl

end Stub

namespace Store

variable {s : Store} {p q : Call → Bool}

/-- The calls that `p` holds of are hidden, on every mock. -/
def hideWhere (p : Call → Bool) (s : Store) : Store :=
  { s with registry := ⟨s.registry.stubs.map (·.hideWhere p)⟩ }

theorem hideWhere_hideWhere (p q : Call → Bool) (s : Store) :
    (s.hideWhere p).hideWhere q = s.hideWhere fun c => p c || q c := by
  simp only [hideWhere, List.map_map, Function.comp_def, Stub.hideWhere_hideWhere]

theorem hideWhere_eq_self (h : ∀ x ∈ s.registry.stubs, ∀ l ∈ x.log, p l.call = true → l.excluded = true) :
    s.hideWhere p = s := by
  have hstubs : s.registry.stubs.map (·.hideWhere p) = s.registry.stubs :=
    (List.map_congr_left fun x hx => Stub.hideWhere_eq_self (h x hx)).trans (List.map_id _)
  rw [hideWhere, hstubs]

/-- The logged calls are as they were, but for the flag. -/
theorem exists_of_mem_hideWhere {x : Stub} (hx : x ∈ (s.hideWhere p).registry.stubs) :
    ∃ y ∈ s.registry.stubs, x.id = y.id ∧ x.log = y.log.map fun l => { l with excluded := l.excluded || p l.call } := by
  obtain ⟨y, hy, rfl⟩ := List.mem_map.mp hx
  exact ⟨y, hy, rfl, rfl⟩

theorem WellLogged.hideWhere (h : s.WellLogged) (p : Call → Bool) : (s.hideWhere p).WellLogged where
  home x hx l hl := by
    obtain ⟨y, hy, hid, hlog⟩ := exists_of_mem_hideWhere hx
    rw [hlog] at hl
    obtain ⟨k, hk, rfl⟩ := List.mem_map.mp hl
    exact (h.home y hy k hk).trans hid.symm
  apart a ha b hb x hx y hy hn := by
    obtain ⟨a', ha', hid, hlog⟩ := exists_of_mem_hideWhere ha
    obtain ⟨b', hb', hid', hlog'⟩ := exists_of_mem_hideWhere hb
    rw [hlog] at hx
    rw [hlog'] at hy
    obtain ⟨k, hk, rfl⟩ := List.mem_map.mp hx
    obtain ⟨k', hk', rfl⟩ := List.mem_map.mp hy
    rw [hid, hid']
    exact h.apart a' ha' b' hb' k hk k' hk' hn
  nodup x hx := by
    obtain ⟨y, hy, -, hlog⟩ := exists_of_mem_hideWhere hx
    rw [hlog, List.map_map]
    exact h.nodup y hy
  same x hx y hy hid := by
    obtain ⟨x', hx', hidx, hlog⟩ := exists_of_mem_hideWhere hx
    obtain ⟨y', hy', hidy, hlog'⟩ := exists_of_mem_hideWhere hy
    rw [hlog, hlog', h.same x' hx' y' hy' (hidx.symm.trans (hid.trans hidy))]

/-- An entry of a log is known by the number of its call. -/
theorem WellLogged.eq_of_sequence (h : s.WellLogged) {x y : Stub} (hx : x ∈ s.registry.stubs)
    (hy : y ∈ s.registry.stubs) {l k : LoggedCall} (hl : l ∈ x.log) (hk : k ∈ y.log)
    (hn : l.call.sequence = k.call.sequence) : l = k := by
  have hid := h.apart x hx y hy l hl k hk hn
  rw [← h.same x hx y hy hid] at hk
  exact List.inj_on_of_nodup_map (h.nodup x hx) hl hk hn

/-! ## One matcher -/

/-- The calls of a mock that a pure matcher accepts are hidden. No other mock has calls that it accepts. -/
theorem exclude_eq (h : s.WellLogged) {m : CallMatcher} (hp : Matcher.PureEach m.args) {stub : Stub}
    (hstub : s.registry.stub? m.target.id = some stub) :
    s.exclude m.target.id m = ((stub.visible.filter m.admits).length, s.hideWhere m.admits) := by
  have hmem := List.mem_of_find?_eq_some hstub
  have hid := Registry.id_of_stub? hstub
  unfold exclude
  rw [hstub]
  dsimp only
  rw [CallMatcher.filter_test hp, probe, Stub.hiddenBy_eq (h.nodup stub hmem)]
  refine congrArg (_, ·) (congrArg (fun stubs => { s with registry := ⟨stubs⟩ }) (List.map_congr_left fun x hx => ?_))
  by_cases hx' : x.id = m.target.id
  · rw [if_pos (beq_iff_eq.mpr hx'), ← Stub.hide_eq_hideWhere (h.nodup x hx)]
    have hsame := h.same x hx stub hmem (hx'.trans hid.symm)
    rw [Stub.visible, Stub.visible, hsame]
  · rw [if_neg fun hb => hx' (beq_iff_eq.mp hb), Stub.hideWhere_eq_self fun l hl hadmits => ?_]
    have htarget := ObjectRef.beq_iff.mp (Bool.and_eq_true_iff.mp hadmits).1
    exact absurd ((h.home x hx l hl).symm.trans htarget.symm) hx'

/-- These are the numbers of the visible calls that `p` holds of, each of them once. -/
structure ListsVisible (s : Store) (p : Call → Bool) (numbers : List Nat) : Prop where
  nodup : numbers.Nodup
  mem : ∀ n, n ∈ numbers ↔
    ∃ x ∈ s.registry.stubs, ∃ l ∈ x.log, l.excluded = false ∧ p l.call = true ∧ l.call.sequence = n

theorem ListsVisible.admits (h : s.WellLogged) {m : CallMatcher} {stub : Stub}
    (hstub : s.registry.stub? m.target.id = some stub) :
    s.ListsVisible m.admits ((stub.visible.filter m.admits).map Call.sequence) where
  nodup := by
    have hvisible : (stub.visible.filter m.admits).Sublist (stub.log.map (·.call)) :=
      List.filter_sublist.trans (List.filter_sublist.map _)
    have hnumbers : ((stub.log.map (·.call)).map Call.sequence).Nodup := by
      rw [List.map_map]
      exact h.nodup stub (List.mem_of_find?_eq_some hstub)
    exact hnumbers.sublist (hvisible.map _)
  mem n := by
    simp only [List.mem_map, List.mem_filter, Stub.visible, Bool.not_eq_true']
    constructor
    · rintro ⟨c, ⟨⟨l, ⟨hl, hvisible⟩, rfl⟩, hadmits⟩, rfl⟩
      exact ⟨stub, List.mem_of_find?_eq_some hstub, l, hl, hvisible, hadmits, rfl⟩
    · rintro ⟨x, hx, l, hl, hvisible, hadmits, rfl⟩
      have htarget := ObjectRef.beq_iff.mp (Bool.and_eq_true_iff.mp hadmits).1
      have hid : x.id = stub.id := (h.home x hx l hl).symm.trans (htarget.symm.trans (Registry.id_of_stub? hstub).symm)
      rw [h.same x hx stub (List.mem_of_find?_eq_some hstub) hid] at hl
      exact ⟨l.call, ⟨⟨l, ⟨hl, hvisible⟩, rfl⟩, hadmits⟩, rfl⟩

/-- What has been hidden is not hidden again. -/
theorem ListsVisible.append {ns ns' : List Nat} (hs : s.WellLogged) (h : s.ListsVisible p ns)
    (h' : (s.hideWhere p).ListsVisible q ns') : s.ListsVisible (fun c => p c || q c) (ns ++ ns') := by
  have hmem' : ∀ n, n ∈ ns' ↔ ∃ x ∈ s.registry.stubs, ∃ l ∈ x.log,
      (l.excluded || p l.call) = false ∧ q l.call = true ∧ l.call.sequence = n := by
    intro n
    rw [h'.mem]
    simp only [Store.hideWhere, List.mem_map, Stub.hideWhere, exists_exists_and_eq_and]
  refine ⟨List.nodup_append.mpr ⟨h.nodup, h'.nodup, ?_⟩, fun n => ?_⟩
  · rintro n hn _ hn' rfl
    obtain ⟨x, hx, l, hl, -, hp, rfl⟩ := (h.mem n).mp hn
    obtain ⟨y, hy, k, hk, hvisible, -, hsequence⟩ := (hmem' _).mp hn'
    rw [hs.eq_of_sequence hy hx hk hl hsequence, hp, Bool.or_true] at hvisible
    cases hvisible
  · rw [List.mem_append, h.mem, hmem']
    constructor
    · rintro (⟨x, hx, l, hl, hvisible, hp, hn⟩ | ⟨x, hx, l, hl, hvisible, hq, hn⟩)
      · exact ⟨x, hx, l, hl, hvisible, by rw [hp, Bool.true_or], hn⟩
      · exact ⟨x, hx, l, hl, (Bool.or_eq_false_iff.mp hvisible).1, by rw [hq, Bool.or_true], hn⟩
    · rintro ⟨x, hx, l, hl, hvisible, hpq, hn⟩
      cases hp : p l.call with
      | true => exact .inl ⟨x, hx, l, hl, hvisible, hp, hn⟩
      | false =>
          rw [hp, Bool.false_or] at hpq
          exact .inr ⟨x, hx, l, hl, by rw [hvisible, hp]; rfl, hpq, hn⟩

end Store

/-! ## All matchers -/

/-- One of the matchers, and not one on a detached mock, accepts the call. -/
def CallMatcher.describes (detached : List Nat) (ms : List CallMatcher) (c : Call) : Bool :=
  ms.any fun m => !detached.contains m.target.id && m.admits c

/-- Hiding for one matcher after another hides what one of them accepts, and counts no call twice. -/
theorem Hides.exact {detached : List Nat} {s s' : Store} {ms : List CallMatcher} {n : Nat}
    (h : Hides detached s ms n s') (hs : s.WellLogged) (hp : ∀ m ∈ ms, Matcher.PureEach m.args) :
    s' = s.hideWhere (CallMatcher.describes detached ms) ∧
      ∃ numbers, s.ListsVisible (CallMatcher.describes detached ms) numbers ∧ n = numbers.length := by
  induction h with
  | nil s =>
      refine ⟨(Store.hideWhere_eq_self fun _ _ _ _ h => by cases h).symm, [],
        ⟨List.nodup_nil, fun n => ⟨nofun, ?_⟩⟩, rfl⟩
      rintro ⟨x, -, l, -, -, hdescribes, -⟩
      cases hdescribes
  | @skipped s s' m ms n hd rest ih =>
      have hsame : CallMatcher.describes detached (m :: ms) = CallMatcher.describes detached ms := by
        funext c
        rw [CallMatcher.describes, List.any_cons, hd, Bool.not_true, Bool.false_and, Bool.false_or,
          CallMatcher.describes]
      rw [hsame]
      exact ih hs fun m hm => hp m (List.mem_cons_of_mem _ hm)
  | @hidden s s' m ms n stub hd hstub rest ih =>
      have hdescribes : CallMatcher.describes detached (m :: ms) =
          fun c => m.admits c || CallMatcher.describes detached ms c := by
        funext c
        rw [CallMatcher.describes, List.any_cons, hd, Bool.not_false, Bool.true_and, CallMatcher.describes]
      rw [Store.exclude_eq hs (hp m List.mem_cons_self) hstub] at ih ⊢
      obtain ⟨hstore, numbers, hnumbers, rfl⟩ :=
        ih (hs.hideWhere m.admits) fun m hm => hp m (List.mem_cons_of_mem _ hm)
      rw [hdescribes, hstore, Store.hideWhere_hideWhere]
      refine ⟨rfl, _, Store.ListsVisible.append hs (.admits hs hstub) hnumbers, ?_⟩
      rw [List.length_append, List.length_map]

/-! ## The statement -/

namespace Act

variable {σ : Type} {w w₁ w' : World σ} {i n : Nat}

/-- Calls are hidden for all matchers of the recorded block. -/
theorem excludeRecords_ok {block : Act σ Failure Unit}
    (hrec : (beginVerification i {} >>= fun _ => runRecordedBlock i block).runOn w = (.ok (), w₁))
    (h : (excludeRecords i block).runOn w = (.ok n, w')) : ∃ resolution, (w₁.session i).resolution = some resolution ∧
      Hides (Resolution.linked w₁.store.registry [] resolution).2 w₁.store
        (Resolution.linked w₁.store.registry [] resolution).1.matchers n w'.store := by
  rw [excludeRecords, ← bind_assoc, runOn_bind_ok hrec] at h
  by_cases hready : (w₁.session i).phase ≠ .verifying ∨ (w₁.session i).resolution = none
  · rw [runOn_bind_error (runOn_takeVerification_error hready)] at h
    cases h
  · have hphase : (w₁.session i).phase = .verifying := Decidable.byContradiction fun hp => hready (.inl hp)
    obtain ⟨resolution, hres⟩ := Option.ne_none_iff_exists'.mp fun hr => hready (.inr hr)
    refine ⟨resolution, hres, ?_⟩
    rw [runOn_bind_ok (runOn_takeVerification hphase hres), runOn_bind_ok (runOn_get _)] at h
    dsimp only [World.store_modifySession] at h
    generalize hlinked : Resolution.linked w₁.store.registry [] resolution = linked at h ⊢
    obtain ⟨done, rest, k, s', hsplit, hdone, hrest⟩ := Hides.exists_prefix linked.2 linked.1.matchers w₁.store
    have hrun := Hides.runOn (w := w₁.modifySession i Session.cleared) hdone rest
    rw [← hsplit, h] at hrun
    cases rest with
    | nil =>
        rw [hsplit, List.append_nil]
        cases hrun
        exact hdone
    | cons m rest =>
        obtain ⟨hkept, hnone⟩ := hrest m rfl
        rw [runOn_excludeEach_unknown hkept hnone] at hrun
        cases hrun

end Act

/-- A matcher of the block accepts the call: links of chains are replaced by children that stand for them, and where
there is none, the calls on the link are left out. -/
def Resolution.describes (res : Resolution) (s : Store) : Call → Bool :=
  CallMatcher.describes (res.linked s.registry []).2 (res.linked s.registry []).1.matchers

namespace Act

variable {μ : Type} {w w' w'' : World (Log μ)} {i n n' : Nat} {p : Program μ} {res res' : Resolution}

/-- To record this block as one that verifies gives these calls. -/
def ResolvesTo {σ : Type} (i : Nat) (block : Act σ Failure Unit) (w : World σ) (res : Resolution) : Prop :=
  ∃ w₁, (beginVerification i {} >>= fun _ => runRecordedBlock i block).runOn w = (.ok (), w₁) ∧
    (w₁.session i).resolution = some res

/-- What recording this block gives, if it gives calls at all. -/
def resolved? {σ : Type} (i : Nat) (block : Act σ Failure Unit) (w : World σ) : Option Resolution :=
  match (beginVerification i {} >>= fun _ => runRecordedBlock i block).runOn w with
  | (.ok _, w₁) => (w₁.session i).resolution
  | (.error _, _) => none

theorem resolvesTo_iff {σ : Type} {block : Act σ Failure Unit} {w : World σ} :
    ResolvesTo i block w res ↔ resolved? i block w = some res := by
  rw [ResolvesTo, resolved?]
  rcases (beginVerification i {} >>= fun _ => runRecordedBlock i block).runOn w with ⟨e | u, w₁⟩
  · refine ⟨fun ⟨_, hrun, _⟩ => ?_, nofun⟩
    cases hrun
  · refine ⟨fun ⟨w₁', hrun, hres⟩ => ?_, fun hres => ⟨w₁, rfl, hres⟩⟩
    cases hrun
    exact hres

theorem ResolvesTo.eq {σ : Type} {block : Act σ Failure Unit} {w : World σ} (h : ResolvesTo i block w res)
    (h' : ResolvesTo i block w res') : res = res' :=
  Option.some.inj ((resolvesTo_iff.mp h).symm.trans (resolvesTo_iff.mp h'))

/-- What the block describes is hidden, and what was hidden is counted. -/
theorem excludeRecords_hides (hp : p.OnlyRecords i true) (hw : w.store.WellLogged)
    (h : (excludeRecords i (inBlock i p.run)).runOn w = (.ok n, w')) : ∃ res,
      ResolvesTo i (inBlock i p.run) w res ∧ (w.store.hideWhere (res.describes w.store)).Spent w'.store ∧
      ∃ numbers, w.store.ListsVisible (res.describes w.store) numbers ∧ n = numbers.length := by
  rcases hrec : (beginVerification i {} >>= fun _ => runRecordedBlock i (inBlock i p.run)).runOn w with ⟨_ | _, w₁⟩
  · rw [excludeRecords, ← bind_assoc, runOn_bind_error hrec] at h
    cases h
  · obtain ⟨hspent, -, -, res, hres, hresolution⟩ := (beginVerification_records {} hp w).ok hrec
    obtain ⟨res', hresolution', hhides⟩ := excludeRecords_ok hrec h
    cases hresolution.symm.trans hresolution'
    rw [hspent.registry] at hhides
    have hlinked := (hres.linked w.store.registry []).matchers
    -- recording has only taken numbers, so what is hidden is hidden in the logs as they were
    obtain ⟨k, k', hk, hstore⟩ := hspent
    rw [hstore] at hhides
    obtain ⟨hhidden, numbers, hnumbers, hn⟩ := hhides.exact ⟨hw.home, hw.apart, hw.nodup, hw.same⟩ hlinked
    exact ⟨res, ⟨w₁, hrec, hresolution⟩, ⟨k, k', hk, hhidden⟩, numbers, ⟨hnumbers.nodup, hnumbers.mem⟩, hn⟩

/-- A block that describes nothing new hides nothing more. -/
theorem excludeRecords_again (hp : p.OnlyRecords i true) (hw : w.store.WellLogged)
    (hhidden : (w.store.hideWhere (res.describes w.store)).Spent w'.store)
    (hagain : ResolvesTo i (inBlock i p.run) w' res')
    (hsame : ∀ x ∈ w.store.registry.stubs, ∀ l ∈ x.log,
      res'.describes w'.store l.call = true → res.describes w.store l.call = true)
    (h : (excludeRecords i (inBlock i p.run)).runOn w' = (.ok n', w'')) : n' = 0 ∧ w'.store.Spent w''.store := by
  have hregistry := hhidden.registry
  have hw' : w'.store.WellLogged := by
    obtain ⟨k, k', -, hstore⟩ := hhidden
    have hkept := hw.hideWhere (res.describes w.store)
    rw [hstore]
    exact ⟨hkept.home, hkept.apart, hkept.nodup, hkept.same⟩
  have hexcluded : ∀ x ∈ w'.store.registry.stubs, ∀ l ∈ x.log,
      res'.describes w'.store l.call = true → l.excluded = true := by
    intro x hx l hl hdescribes
    rw [hregistry] at hx
    obtain ⟨y, hy, -, hlog⟩ := Store.exists_of_mem_hideWhere hx
    rw [hlog] at hl
    obtain ⟨k, hk, rfl⟩ := List.mem_map.mp hl
    dsimp only at hdescribes ⊢
    rw [hsame y hy k hk hdescribes, Bool.or_true]
  obtain ⟨res'', hres'', hhidden', numbers, hnumbers, rfl⟩ := excludeRecords_hides hp hw' h
  cases hres''.eq hagain
  rw [Store.hideWhere_eq_self hexcluded] at hhidden'
  refine ⟨List.length_eq_zero_iff.mpr (List.eq_nil_iff_forall_not_mem.mpr fun k hk => ?_), hhidden'⟩
  obtain ⟨x, hx, l, hl, hvisible, hdescribes, -⟩ := (hnumbers.mem k).mp hk
  rw [hexcluded x hx l hl hdescribes] at hvisible
  cases hvisible

end Act

end TestDouble
