import TestDouble.Proofs.Store
import TestDouble.Proofs.Verification.Matched

/-!
# Searching while answers are cleared

Predicates may clear the answers of any mock while a call is looking for the entry that serves it. Where the entry
that accepted the call is gone by then, the search takes a new snapshot of the table. It ends after two snapshots, or
one where there is no entry, and an entry that serves the call is in the table when it is chosen.
-/

namespace TestDouble

/-- Without answers, if it is among these mocks. -/
def Stub.clearedIn (mocks : List Nat) (s : Stub) : Stub := if s.id ∈ mocks then s.clear .answersOnly else s

namespace Stub

variable {mocks : List Nat} {s : Stub}

theorem clearedIn_of_mem (h : s.id ∈ mocks) : s.clearedIn mocks = s.clear .answersOnly := if_pos h

theorem clearedIn_of_notMem (h : s.id ∉ mocks) : s.clearedIn mocks = s := if_neg h

@[simp] theorem id_clearedIn (mocks : List Nat) (s : Stub) : (s.clearedIn mocks).id = s.id := by
  unfold clearedIn
  split <;> rfl

@[simp] theorem log_clearedIn (mocks : List Nat) (s : Stub) : (s.clearedIn mocks).log = s.log := by
  unfold clearedIn
  split <;> rfl

theorem clearedIn_clearedIn (mocks mocks' : List Nat) (s : Stub) :
    (s.clearedIn mocks).clearedIn mocks' = s.clearedIn (mocks ++ mocks') := by
  have hid : (s.clear .answersOnly).id = s.id := rfl
  by_cases h : s.id ∈ mocks <;> by_cases h' : s.id ∈ mocks' <;> simp [clearedIn, hid, h, h']
  rfl

end Stub

namespace Store

variable {s s' s'' : Store} {mock : Nat} {c : Call} {stub : Stub}

/-! ## Cleared answers -/

/-- Some mocks have lost all their answers; else the registry is as it was. -/
def Clears (s s' : Store) : Prop := ∃ mocks, s'.registry.stubs = s.registry.stubs.map (Stub.clearedIn mocks)

namespace Clears

/-- Only the registry counts. -/
theorem of_registry (h : s'.registry = s.registry) : s.Clears s' :=
  ⟨[], by rw [h, List.map_congr_left fun x _ => Stub.clearedIn_of_notMem List.not_mem_nil, List.map_id']⟩

theorem trans (h : s.Clears s') (h' : s'.Clears s'') : s.Clears s'' := by
  obtain ⟨mocks, h⟩ := h
  obtain ⟨mocks', h'⟩ := h'
  refine ⟨mocks ++ mocks', ?_⟩
  rw [h', h, List.map_map]
  exact List.map_congr_left fun x _ => x.clearedIn_clearedIn _ _

theorem clearAnswers (s : Store) (mock : Nat) : s.Clears (s.clearAnswers mock) :=
  ⟨[mock], List.map_congr_left fun x _ => by simp [Stub.clearedIn]⟩

/-- Whatever predicates do to mocks is to clear their answers. -/
theorem probe {α : Type} (p : Probe α) (s : Store) : s.Clears (s.probe p).2 :=
  probe_preserves (fun s' mock hs => hs.trans (clearAnswers s' mock)) (fun _ _ hs => hs.trans (of_registry rfl)) p
    (of_registry rfl)

theorem stub?_eq (h : s.Clears s') : ∃ mocks, ∀ mock,
    s'.registry.stub? mock = (s.registry.stub? mock).map (Stub.clearedIn mocks) := by
  obtain ⟨mocks, h⟩ := h
  refine ⟨mocks, fun mock => ?_⟩
  have hid : ((·.id == mock) ∘ Stub.clearedIn mocks) = (·.id == mock) := funext fun x => by simp
  rw [Registry.stub?, h, List.find?_map, hid, Registry.stub?]

/-- A mock stays, with its answers or without. -/
theorem stub? (h : s.Clears s') (hstub : s.registry.stub? mock = some stub) :
    s'.registry.stub? mock = some stub ∨ s'.registry.stub? mock = some (stub.clear .answersOnly) := by
  obtain ⟨mocks, h⟩ := h.stub?_eq
  rw [h, hstub, Option.map_some]
  by_cases hmem : stub.id ∈ mocks
  · exact .inr (congrArg some (Stub.clearedIn_of_mem hmem))
  · exact .inl (congrArg some (Stub.clearedIn_of_notMem hmem))

theorem log (h : s.Clears s') (mock : Nat) :
    (s'.registry.stub? mock).map Stub.log = (s.registry.stub? mock).map Stub.log := by
  obtain ⟨mocks, h⟩ := h.stub?_eq
  rw [h, Option.map_map]
  exact congrArg (Option.map · _) (funext fun x => x.log_clearedIn mocks)

end Clears

/-! ## The search -/

/-- The first entry of a snapshot of the table that accepts the call, with its position, and what testing leaves. -/
def tested (s : Store) (mock : Nat) (c : Call) : Option (Nat × Entry) × Store :=
  s.probe (Probe.findIdx? (fun e : Entry => e.matcher.test c) (((s.registry.stub? mock).map Stub.candidates).getD []))

/-- The entry of this number is in the table. -/
def Holds (s : Store) (mock id : Nat) : Prop := ((s.registry.stub? mock).bind (·.entryOf? id)).isSome = true

/-- Searching for the entry that serves the call, for as long as it takes: `Search mock c n s found s'` if it takes `n`
snapshots from `s` on. At `s'` the search has come to its end, and the entry it found is in the table. -/
inductive Search (mock : Nat) (c : Call) : Nat → Store → Option Entry → Store → Prop
  /-- No entry accepts the call. -/
  | refused {s s' : Store} (h : s.tested mock c = (none, s')) : Search mock c 1 s none s'
  /-- The entry that accepted the call is gone. -/
  | gone {s s₁ s' : Store} {i n : Nat} {e : Entry} {found : Option Entry} (h : s.tested mock c = (some (i, e), s₁))
      (hgone : ¬s₁.Holds mock e.id) (rest : Search mock c n s₁ found s') : Search mock c (n + 1) s found s'
  /-- The entry that accepted the call is still there. -/
  | accepted {s s' : Store} {i : Nat} {e : Entry} (h : s.tested mock c = (some (i, e), s'))
      (hholds : s'.Holds mock e.id) : Search mock c 1 s (some e) s'

/-- The call is counted, and leaves its captures. -/
def serve (s : Store) (mock : Nat) (c : Call) (e : Entry) : Store :=
  let (captures, s) := (s.modify mock (·.hit e.id)).probe (e.matcher.captures c)
  s.keep captures

theorem serve_clears (s : Store) (mock : Nat) (c : Call) (e : Entry) :
    (s.modify mock (·.hit e.id)).Clears (s.serve mock c e) :=
  (Clears.probe (e.matcher.captures c) (s.modify mock (·.hit e.id))).trans (.of_registry rfl)

theorem tested_clears (s : Store) (mock : Nat) (c : Call) : s.Clears (s.tested mock c).2 := .probe _ s

/-- What accepts the call is an entry of the table. -/
theorem mem_of_tested (hstub : s.registry.stub? mock = some stub) {i : Nat} {e : Entry}
    (h : (s.tested mock c).1 = some (i, e)) : e ∈ stub.entries := by
  have hmem := probe_always (Probe.findIdx?_always (fun e : Entry => e.matcher.test c) stub.candidates) s
  rw [tested, hstub] at h
  exact List.mem_reverse.mp (List.mem_of_getElem? (hmem (i, e) h))

/-- Without entries there is nothing to test. -/
theorem tested_of_empty (hstub : s.registry.stub? mock = some stub) (hempty : stub.entries = []) (c : Call) :
    s.tested mock c = (none, s) := by
  rw [tested, hstub, Option.map_some, Option.getD_some, Stub.candidates, hempty]
  rfl

/-- One more look at the table. -/
theorem selectAnswer_succ (s : Store) (mock : Nat) (c : Call) (n : Nat) : s.selectAnswer mock c (n + 1) =
    match s.tested mock c with
    | (none, s) => (none, s)
    | (some (_, candidate), s) =>
      match (s.registry.stub? mock).bind (·.entryOf? candidate.id) with
      | none => s.selectAnswer mock c n
      | some entry =>
        let (captures, s) := (s.modify mock (·.hit entry.id)).probe (candidate.matcher.captures c)
        (some (entry.answer.select entry.hits), s.keep captures) := rfl

/-- The search of a registered mock ends, and with what is left where it ends the answer is selected. -/
theorem exists_search (hstub : s.registry.stub? mock = some stub) (hsound : stub.Sound) (c : Call) :
    ∃ n found s', Search mock c n s found s' ∧ n ≤ min 2 (stub.entries.length + 1) ∧ s.Clears s' ∧
      (∀ e, found = some e → e ∈ stub.entries ∧ s'.registry.stub? mock = some stub) ∧
      s.selectAnswer mock c (stub.entries.length + 1) =
        (found.map fun e => e.answer.select e.hits, found.elim s' (s'.serve mock c)) := by
  have hclears := s.tested_clears mock c
  have hmem := fun i e => mem_of_tested hstub (c := c) (i := i) (e := e)
  rw [selectAnswer_succ]
  generalize htested : s.tested mock c = probed at hclears hmem
  obtain ⟨_ | ⟨i, e⟩, s₁⟩ := probed
  · exact ⟨1, none, s₁, .refused htested, by omega, hclears, nofun, rfl⟩
  · have he : e ∈ stub.entries := hmem i e rfl
    dsimp only
    rcases hclears.stub? hstub with hkept | hcleared
    · have hentry : (s₁.registry.stub? mock).bind (·.entryOf? e.id) = some e := by
        rw [hkept, Option.bind_some, hsound.entryOf? he]
      rw [hentry]
      refine ⟨1, some e, s₁, .accepted htested ?_, by omega, hclears, ?_, rfl⟩
      · exact Option.isSome_iff_exists.mpr ⟨e, hentry⟩
      · rintro _ ⟨⟩
        exact ⟨he, hkept⟩
    · have hgone : (s₁.registry.stub? mock).bind (·.entryOf? e.id) = none := by
        rw [hcleared]
        rfl
      have hempty := tested_of_empty hcleared rfl c
      obtain ⟨k, hk⟩ := Nat.exists_eq_succ_of_ne_zero (Nat.ne_of_gt (List.length_pos_of_mem he))
      rw [hgone, hk]
      dsimp only
      rw [selectAnswer_succ, hempty]
      refine ⟨2, none, s₁, .gone htested ?_ (.refused hempty), by omega, hclears, nofun, rfl⟩
      rw [Holds, hgone]
      exact Bool.false_ne_true

/-! ## Resolving -/

/-- The call has been logged, if asked for. -/
def noted (s : Store) (mock : Nat) (c : Call) (log : Bool) : Store := if log then s.modify mock (·.addCall c) else s

/-- The entry was in the table when it was chosen, it alone counts the call, and then some answers may be cleared. -/
structure Served (mock : Nat) (table : List Entry) (e : Entry) (s s' : Store) : Prop where
  holds : (s.registry.stub? mock).map Stub.entries = some table
  counts : ∃ older newer, table = older ++ e :: newer ∧ ((s.modify mock (·.hit e.id)).registry.stub? mock).map
    Stub.entries = some (older ++ { e with hits := e.hits + 1 } :: newer)
  clears : (s.modify mock (·.hit e.id)).Clears s'

/-- How a call on a registered mock is resolved: with `n` snapshots the search finds an entry or none at `sought`, and
the call leaves `s'`. -/
structure Resolved (s : Store) (mock : Nat) (stub : Stub) (c : Call) (log : Bool) (n : Nat) (found : Option Entry)
    (sought s' : Store) : Prop where
  search : Search mock c n (s.noted mock c log) found sought
  snapshots : n ≤ min 2 (stub.entries.length + 1)
  /-- Nothing is counted while the search goes on. -/
  clears : (s.noted mock c log).Clears sought
  result : s.resolve mock c log = (found.map fun e => e.answer.select e.hits, s')
  refused : found = none → s' = sought
  served : ∀ e, found = some e → Served mock stub.entries e sought s'
  /-- The call is logged once, however many snapshots were taken. -/
  logged : (s'.registry.stub? mock).map Stub.log = some (stub.log ++ if log then [{ call := c }] else [])
  elsewhere : ∀ other, other ≠ mock → (s'.registry.stub? other).map Stub.log = (s.registry.stub? other).map Stub.log

/-- Logging the call adds it to the log, and leaves the table alone. -/
theorem stub?_noted (hstub : s.registry.stub? mock = some stub) (hsound : stub.Sound) (c : Call) (log : Bool) :
    ∃ x, (s.noted mock c log).registry.stub? mock = some x ∧ x.Sound ∧ x.entries = stub.entries ∧
      x.log = stub.log ++ if log then [{ call := c }] else [] := by
  cases log with
  | true => exact ⟨stub.addCall c, stub?_modify hstub fun _ => rfl, ⟨hsound.nodup, hsound.below⟩, rfl, rfl⟩
  | false => exact ⟨stub, hstub, hsound, rfl, (List.append_nil _).symm⟩

theorem stub?_noted_of_ne {other : Nat} (hne : other ≠ mock) (s : Store) (c : Call) (log : Bool) :
    (s.noted mock c log).registry.stub? other = s.registry.stub? other := by
  cases log with
  | true => exact Registry.stub?_modify_of_ne (fun _ => rfl) hne
  | false => rfl

/-- Serving a call leaves the logs alone. -/
theorem log_serve (s : Store) (mock : Nat) (c : Call) (e : Entry) (other : Nat) :
    ((s.serve mock c e).registry.stub? other).map Stub.log = (s.registry.stub? other).map Stub.log := by
  rw [(s.serve_clears mock c e).log]
  by_cases hother : other = mock
  · rw [hother, modify, Registry.stub?_modify (f := (·.hit e.id)) fun _ => rfl, Option.map_map]
    rfl
  · rw [modify, Registry.stub?_modify_of_ne (f := (·.hit e.id)) (fun _ => rfl) hother]

end Store

/-- Only this entry counts the call. -/
theorem Stub.Sound.hit_entries {s : Stub} (h : s.Sound) {e : Entry} (he : e ∈ s.entries) : ∃ older newer,
    s.entries = older ++ e :: newer ∧ (s.hit e.id).entries = older ++ { e with hits := e.hits + 1 } :: newer := by
  obtain ⟨older, newer, hsplit⟩ := List.append_of_mem he
  have hnodup := h.nodup
  rw [hsplit, List.map_append, List.map_cons, List.nodup_middle, List.nodup_cons] at hnodup
  have hothers : ∀ x ∈ older ++ newer, (if x.id == e.id then { x with hits := x.hits + 1 } else x) = x := by
    intro x hx
    have hne : x.id ≠ e.id := fun heq => hnodup.1 (by
      rw [← List.map_append, ← heq]
      exact List.mem_map_of_mem hx)
    rw [if_neg (by simpa using hne)]
  refine ⟨older, newer, hsplit, ?_⟩
  rw [Stub.hit, hsplit, List.map_append, List.map_cons, if_pos (beq_self_eq_true e.id)]
  rw [List.map_congr_left fun x hx => hothers x (List.mem_append_left _ hx), List.map_id',
    List.map_congr_left fun x hx => hothers x (List.mem_append_right _ hx), List.map_id']

namespace Store

variable {s : Store} {mock : Nat} {stub : Stub}

/-- Whatever answers are cleared meanwhile, a call on a registered mock is resolved. -/
theorem exists_resolved (hstub : s.registry.stub? mock = some stub) (hsound : stub.Sound) (c : Call) (log : Bool) :
    ∃ n found sought s', Resolved s mock stub c log n found sought s' := by
  obtain ⟨x, hx, hxsound, hentries, hlog⟩ := stub?_noted hstub hsound c log
  obtain ⟨n, found, sought, hsearch, hn, hclears, hfound, hselect⟩ := exists_search hx hxsound c
  have hlogs : ∀ other, ((found.elim sought (sought.serve mock c)).registry.stub? other).map Stub.log =
      ((s.noted mock c log).registry.stub? other).map Stub.log := fun other => by
    rw [← hclears.log]
    cases found with
    | none => rfl
    | some e => exact log_serve _ _ _ _ _
  have hresolve : s.resolve mock c log = (s.noted mock c log).selectAnswer mock c
      ((((s.noted mock c log).registry.stub? mock).map (·.entries.length)).getD 0 + 1) := rfl
  refine ⟨n, found, sought, found.elim sought (sought.serve mock c), hsearch, hentries ▸ hn, hclears,
    ?_, ?_, ?_, ?_, ?_⟩
  · rw [hresolve, hx, Option.map_some, Option.getD_some, hselect]
  · rintro rfl
    rfl
  · rintro e rfl
    obtain ⟨he, hthere⟩ := hfound e rfl
    obtain ⟨older, newer, hsplit, hhit⟩ := hxsound.hit_entries he
    refine ⟨?_, ⟨older, newer, hentries ▸ hsplit, ?_⟩, serve_clears _ _ _ _⟩
    · rw [hthere, Option.map_some, hentries]
    · rw [stub?_modify hthere (f := (·.hit e.id)) fun _ => rfl, Option.map_some, hhit]
  · rw [hlogs, hx, Option.map_some, hlog]
  · intro other hne
    rw [hlogs, stub?_noted_of_ne hne]

/-- Accepts every call `f`, and clears the answers of its own mock the first time. -/
def clearsItself : CallMatcher :=
  ⟨⟨1, "Service"⟩, { name := "f", params := [.bool], returns := .int }, [.predicate "clears at first" fun _ =>
    .tally 0 fun n => if n == 0 then .clearAnswers 1 fun _ => .done true else .done true]⟩

/-- A mock with an answer for every call, and a newer one that clears both when it is tried. -/
def stubClearingItself : Stub :=
  let empty : Stub := { object := ⟨1, "Service"⟩, kind := .strict }
  (empty.addAnswer ⟨⟨1, "Service"⟩, clearsItself.method, [.any]⟩ (.constant .unit)).addAnswer clearsItself
    (.constant .null)

/-- The call is logged, but both answers are gone before one of them could serve it. -/
theorem exists_resolved_stubClearingItself :
    (∃ n found sought s', Resolved { registry := ⟨[stubClearingItself]⟩ } 1 stubClearingItself
      ⟨⟨1, "Service"⟩, clearsItself.method, [.bool true], 0, none⟩ true n found sought s') ∧
    (({ registry := ⟨[stubClearingItself]⟩ } : Store).resolve 1
      ⟨⟨1, "Service"⟩, clearsItself.method, [.bool true], 0, none⟩ true).1.isNone = true :=
  ⟨exists_resolved rfl ⟨by decide, by decide⟩ _ _, by decide⟩

end Store

end TestDouble
