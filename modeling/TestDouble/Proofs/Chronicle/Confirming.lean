import TestDouble.Proofs.Chronicle.Programs

/-!
# Confirming that nothing is left

Whatever has been done before, confirming lists the logged calls that no passing verification has matched and no
statement has hidden. The flags that it reads are never taken back.
-/

namespace TestDouble

/-! ## Running it -/

namespace Act

variable {σ : Type} {w : World σ}

/-- The calls of these mocks that are neither verified nor hidden, in their order. -/
def unverified (s : Store) (mocks : List ObjectRef) : List Call :=
  inOrder ((mocks.map (·.id)).flatMap fun mock => ((s.registry.stub? mock).map Stub.unverified).getD [])

theorem exists_stubs : ∀ mocks : List ObjectRef, (∀ o ∈ mocks, w.store.registry.contains o.id = true) →
    ∃ stubs, (mocks.mapM fun o => stub o.id : Act σ MockError (List Stub)).runOn w = (.ok stubs, w) ∧
      stubs.flatMap Stub.unverified =
        (mocks.map (·.id)).flatMap fun mock => ((w.store.registry.stub? mock).map Stub.unverified).getD []
  | [], _ => ⟨[], rfl, rfl⟩
  | o :: mocks, h => by
      obtain ⟨ho, hmocks⟩ := List.forall_mem_cons.mp h
      rw [Registry.contains_eq_isSome] at ho
      obtain ⟨x, hx⟩ := Option.isSome_iff_exists.mp ho
      obtain ⟨stubs, hrun, hstubs⟩ := exists_stubs mocks hmocks
      refine ⟨x :: stubs, ?_, ?_⟩
      · rw [List.mapM_cons, runOn_bind_ok (runOn_stub_ok hx), runOn_bind_ok hrun]
        rfl
      · rw [List.flatMap_cons, hstubs, List.map_cons, List.flatMap_cons, hx]
        rfl

theorem runOn_confirmVerified {mocks : List ObjectRef} (h : ∀ o ∈ mocks, w.store.registry.contains o.id = true) :
    (confirmVerified mocks).runOn w =
      (if (unverified w.store mocks).isEmpty then .ok ()
        else .error (.verificationFailed (.of .all
          (.failed (toString (unverified w.store mocks).length ++ " calls were not verified")) []
          (unverified w.store mocks))), w) := by
  obtain ⟨stubs, hrun, hstubs⟩ := exists_stubs mocks h
  rw [confirmVerified, runOn_bind_ok hrun, hstubs]
  change runOn (if (unverified w.store mocks).isEmpty then _ else _) w = _
  split <;> rfl

end Act

/-! ## What it finds -/

namespace Chronicle.Agrees

variable {t : Chronicle} {s : Store} {c : Call}

theorem mem_stub_unverified (h : t.Agrees s) {mock : Nat} {x : Stub} (hx : s.registry.stub? mock = some x) :
    c ∈ x.unverified ↔ c ∈ x.log.map (·.call) ∧ ¬Marks t .verified mock c ∧ ¬Marks t .excluded mock c := by
  have hflags : ∀ l ∈ x.log, (!l.verified && !l.excluded) = true ↔
      ¬Marks t .verified mock l.call ∧ ¬Marks t .excluded mock l.call := by
    intro l hl
    rw [h.stub hx] at hl
    rw [← has_iff_marks h.ordered hl .verified, ← has_iff_marks h.ordered hl .excluded]
    simp [LoggedCall.has]
  constructor
  · intro hc
    obtain ⟨l, hl, rfl⟩ := List.mem_map.mp hc
    obtain ⟨hl, hflag⟩ := List.mem_filter.mp hl
    exact ⟨List.mem_map_of_mem hl, (hflags l hl).mp hflag⟩
  · rintro ⟨hc, hmarks⟩
    obtain ⟨l, hl, rfl⟩ := List.mem_map.mp hc
    exact List.mem_map_of_mem (List.mem_filter.mpr ⟨hl, (hflags l hl).mpr hmarks⟩)

theorem mem_unverified (h : t.Agrees s) {mocks : List ObjectRef} : c ∈ Act.unverified s mocks ↔
    ∃ o ∈ mocks, ∃ x, s.registry.stub? o.id = some x ∧ c ∈ x.log.map (·.call) ∧
      ¬Marks t .verified o.id c ∧ ¬Marks t .excluded o.id c := by
  rw [Act.unverified, (Act.inOrder_perm _).mem_iff, List.flatMap_map, List.mem_flatMap]
  refine exists_congr fun o => and_congr_right fun _ => ?_
  cases hx : s.registry.stub? o.id with
  | none => simp
  | some x => simpa using h.mem_stub_unverified hx

theorem unverified_increasing (h : t.Agrees s) {mocks : List ObjectRef} (hmocks : (mocks.map (·.id)).Nodup) :
    ((Act.unverified s mocks).map (·.sequence)).Pairwise (· < ·) :=
  Act.inOrder_increasing (h.ordered.nodup_flatMap hmocks fun mock _ =>
    h.sublist_log mock fun _ => List.filter_sublist.map _)

end Chronicle.Agrees

namespace Program

variable {μ : Type}

/-- From a world without calls, whatever the program does: wherever it has control, confirming that live mocks have no
unverified calls succeeds if all calls in their logs have been hidden, or matched by a verification that has passed; it
fails with the others in their order, if there are any. A logged call keeps its flags as long as it is in the log. -/
theorem unverified_calls_listed (p : Program μ) (hp : p.Manages) (w : World μ) (hw : w.Fresh) :
    (∃ t, p.chronicle w = .seen (p.run.runOn { w with memory := { memory := w.memory } }).2.store :: t) ∧
    ∀ s t, (.seen s :: t) <:+ p.chronicle w →
      (∀ {σ : Type} (v : World σ) (mocks : List ObjectRef), v.store = s → (mocks.map (·.id)).Nodup →
        (∀ o ∈ mocks, s.registry.contains o.id = true) →
        ∃ left : List Call, (left.map (·.sequence)).Pairwise (· < ·) ∧
          (∀ c, c ∈ left ↔ ∃ o ∈ mocks, ∃ x, s.registry.stub? o.id = some x ∧ c ∈ x.log.map (·.call) ∧
            ¬Chronicle.Marks t .verified o.id c ∧ ¬Chronicle.Marks t .excluded o.id c) ∧
          (Act.confirmVerified mocks).runOn v =
            (if left.isEmpty then .ok ()
              else .error (.verificationFailed (.of .all
                (.failed (toString left.length ++ " calls were not verified")) [] left)), v)) ∧
      ∀ s' t', (.seen s' :: t') <:+ t → ∀ x' ∈ s'.registry.stubs, ∀ x ∈ s.registry.stubs, x'.id = x.id →
        ∀ l' ∈ x'.log, ∀ l ∈ x.log, l'.call.sequence = l.call.sequence →
          l'.call = l.call ∧ (l'.verified = true → l.verified = true) ∧ (l'.excluded = true → l.excluded = true) := by
  obtain ⟨hsound, -⟩ := p.chronicle_sound hp hw
  refine ⟨p.exists_chronicle w, fun s t hsuffix => ?_⟩
  have hsound' := hsound.of_suffix hsuffix
  have hagrees : Chronicle.Agrees t s := hsound'.1
  refine ⟨fun v mocks hs hmocks hlive => ?_, fun s' t' hsuffix' x' hx' x hx hid l' hl' l hl hn => ?_⟩
  · subst hs
    exact ⟨Act.unverified v.store mocks, hagrees.unverified_increasing hmocks, fun c => hagrees.mem_unverified,
      Act.runOn_confirmVerified hlive⟩
  · have hagrees' : Chronicle.Agrees t' s' := (hsound'.2.of_suffix hsuffix').1
    rw [hagrees'.log x' hx', hid] at hl'
    rw [hagrees.log x hx] at hl
    have hkept := Chronicle.has_of_suffix hagrees.ordered ((List.suffix_cons _ t').trans hsuffix') hl' hl hn
    exact ⟨hkept.1, hkept.2 .verified, hkept.2 .excluded⟩

/-- A call is made and forgotten. Of three more calls one is verified, and one is hidden. -/
def pings : Program Unit :=
  let ping : Method := { name := "ping", params := [.int], returns := .unit }
  let block (n : Int32) : Program Unit := call 0 ⟨1, "Server"⟩ ping [.int n] fun _ => done (.ok .unit)
  useStore (fun s => s.create "Server" .relaxed) fun server =>
    call 0 server ping [.int 0] fun _ =>
      useStore (fun s => ((), (s.clear server.id .recordedCallsOnly).toOption.getD s)) fun _ =>
        call 0 server ping [.int 1] fun _ => call 0 server ping [.int 2] fun _ => call 0 server ping [.int 3] fun _ =>
          statement 0 (.verify {}) (block 1) fun _ => statement 0 .excludeRecords (block 2) fun _ => done (.ok .unit)

theorem pings_manages : pings.Manages := by
  refine ⟨fun s => (s.create_keepsLogs _ _).manages, fun server _ => ⟨fun s => ?_, fun _ _ _ _ => ?_⟩⟩
  · dsimp only
    cases hs : s.clear server.id .recordedCallsOnly with
    | error e => exact (Store.KeepsLogs.refl s).manages
    | ok s' => exact Store.clear_manages hs
  · exact ⟨fun _ => trivial, fun _ => ⟨fun _ => trivial, fun _ => trivial⟩⟩

theorem unverified_calls_listed_pings :
    let w : World Unit := { sessions := [{ generator := .ofSeed none }], depth := 1, memory := () }
    let v := (pings.run.runOn { w with memory := { memory := w.memory } }).2
    (v.store.registry.stubs.map fun x => x.log.map fun l => (l.call.sequence, l.verified, l.excluded)) =
        [[(2, true, false), (3, false, true), (4, false, false)]] ∧
      ∃ (t : Chronicle) (left : List Call), pings.chronicle w = .seen v.store :: t ∧
        (∀ c, c ∈ left ↔ ∃ o ∈ [(⟨1, "Server"⟩ : ObjectRef)], ∃ x, v.store.registry.stub? o.id = some x ∧
          c ∈ x.log.map (·.call) ∧ ¬Chronicle.Marks t .verified o.id c ∧ ¬Chronicle.Marks t .excluded o.id c) ∧
        (Act.confirmVerified [⟨1, "Server"⟩]).runOn v = (if left.isEmpty then .ok ()
          else .error (.verificationFailed (.of .all
            (.failed (toString left.length ++ " calls were not verified")) [] left)), v) := by
  intro w v
  have hflags : (v.store.registry.stubs.map fun x => x.log.map fun l => (l.call.sequence, l.verified, l.excluded)) =
      [[(2, true, false), (3, false, true), (4, false, false)]] := by decide +kernel
  have hlive : ∀ o ∈ [(⟨1, "Server"⟩ : ObjectRef)], v.store.registry.contains o.id = true := by decide +kernel
  have hw : w.Fresh := .of_empty rfl fun _ hs => by cases List.mem_singleton.mp hs; rfl
  obtain ⟨⟨t, ht⟩, hseen⟩ := unverified_calls_listed pings pings_manages w hw
  have hv : pings.chronicle w = .seen v.store :: t := ht
  -- from here on the run must not be unfolded
  clear_value v w
  have hsuffix : (.seen v.store :: t) <:+ pings.chronicle w := hv ▸ List.suffix_refl _
  obtain ⟨left, -, hleft, hrun⟩ := (hseen v.store t hsuffix).1 v [⟨1, "Server"⟩] rfl (List.nodup_singleton _) hlive
  exact ⟨hflags, t, left, hv, hleft, hrun⟩

end Program

end TestDouble
