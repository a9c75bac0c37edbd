import Mathlib.Data.List.Nodup
import TestDouble.Proofs.Registry

/-!
# Reached stores

Whatever mocks are created, stubbed, called, cleared and released: new identities are never those of
registered mocks, and the entries of a mock are told apart by their numbers.
-/

namespace TestDouble

/-- Every entry has a number of its own, used before. -/
structure Stub.Sound (s : Stub) : Prop where
  nodup : (s.entries.map (·.id)).Nodup
  below : ∀ e ∈ s.entries, e.id < s.nextEntry

namespace Stub.Sound

variable {s : Stub}

/-- Only the numbers count. -/
theorem of_entries (h : s.Sound) {s' : Stub} (hids : (s'.entries.map (·.id)).Sublist (s.entries.map (·.id)))
    (hnext : s'.nextEntry = s.nextEntry) : s'.Sound := by
  refine ⟨hids.nodup h.nodup, fun e he => ?_⟩
  obtain ⟨e', he', heq⟩ := List.mem_map.mp (hids.subset (List.mem_map_of_mem he))
  rw [hnext, ← heq]
  exact h.below e' he'

theorem addAnswer (h : s.Sound) (m : CallMatcher) (a : Answer) : (s.addAnswer m a).Sound := by
  refine ⟨?_, fun e he => ?_⟩
  · rw [Stub.addAnswer, List.map_append, List.nodup_append]
    refine ⟨h.nodup, List.nodup_cons.mpr ⟨List.not_mem_nil, List.nodup_nil⟩, fun id hid id' hid' => ?_⟩
    obtain ⟨e, he, rfl⟩ := List.mem_map.mp hid
    cases List.mem_singleton.mp hid'
    exact Nat.ne_of_lt (h.below e he)
  · rcases List.mem_append.mp he with he | he
    · exact Nat.lt_succ_of_lt (h.below e he)
    · cases List.mem_singleton.mp he
      exact Nat.lt_succ_self _

theorem hit (h : s.Sound) (id : Nat) : (s.hit id).Sound := by
  refine h.of_entries ?_ rfl
  have hsame : (s.hit id).entries.map (·.id) = s.entries.map (·.id) := by
    rw [Stub.hit, List.map_map]
    refine List.map_congr_left fun e _ => ?_
    rw [Function.comp_apply]
    split <;> rfl
  exact hsame ▸ List.Sublist.refl _

theorem clear (h : s.Sound) (o : ClearOptions) : (s.clear o).Sound := by
  refine h.of_entries ?_ rfl
  rw [Stub.clear]
  split
  · exact List.nil_sublist _
  · exact List.Sublist.refl _

theorem adopt (h : s.Sound) (child : Nat) : (s.adopt child).Sound := by
  unfold Stub.adopt
  split
  · exact h
  · exact ⟨h.nodup, h.below⟩

/-- An entry is found by its number. -/
theorem entryOf? (h : s.Sound) {e : Entry} (he : e ∈ s.entries) : s.entryOf? e.id = some e := by
  obtain ⟨e', he'⟩ := Option.isSome_iff_exists.mp
    (List.find?_isSome (p := fun x : Entry => x.id == e.id).mpr ⟨e, he, beq_self_eq_true e.id⟩)
  have hid : e'.id = e.id := by simpa using List.find?_some he'
  have hsame := List.inj_on_of_nodup_map h.nodup (List.mem_of_find?_eq_some he') he hid
  rw [Stub.entryOf?, he', hsame]

end Stub.Sound

theorem Registry.mem_of_mem_releaseEach {stub : Stub} : {r : Registry} → {n : Nat} → {ids : List Nat} →
    stub ∈ (r.releaseEach n ids).stubs → stub ∈ r.stubs
  | _, 0, _, h => h
  | r, n + 1, ids, h => by
      rw [releaseEach] at h
      split at h
      · exact h
      · exact List.mem_of_mem_filter (mem_of_mem_releaseEach h)

/-- Identities of registered mocks were handed out before, and every stub is sound. -/
structure Store.Sound (s : Store) : Prop where
  below : ∀ stub ∈ s.registry.stubs, stub.id < s.nextObject
  stubs : ∀ stub ∈ s.registry.stubs, stub.Sound

namespace Store

variable {s : Store} {P : Store → Prop}

/-- What a probe leaves is what the rest of it starts from. -/
theorem probe_bind {α β : Type} (p : Probe α) (f : α → Probe β) (s : Store) :
    s.probe (p.bind f) = (s.probe p).2.probe (f (s.probe p).1) := by
  induction p generalizing s with
  | done a => rfl
  | callCount mock next ih => exact ih _ s
  | clearAnswers mock next ih => exact ih _ (s.clearAnswers mock)
  | tally counter next ih => exact ih _ (s.countTally counter)

/-- What clearing answers and counting preserve, predicates preserve. -/
theorem probe_preserves {α : Type} (hclear : ∀ s mock, P s → P (s.clearAnswers mock))
    (htally : ∀ s counter, P s → P (s.countTally counter)) (p : Probe α) (h : P s) : P (s.probe p).2 := by
  induction p generalizing s with
  | done a => exact h
  | callCount mock next ih => exact ih _ h
  | clearAnswers mock next ih => exact ih _ (hclear s mock h)
  | tally counter next ih => exact ih _ (htally s counter h)

/-- Selecting an answer evaluates predicates, counts the call and keeps what it captures. -/
theorem selectAnswer_preserves {mock : Nat} (hprobe : ∀ {α : Type} (p : Probe α) s, P s → P (s.probe p).2)
    (hhit : ∀ s id, P s → P (s.modify mock (·.hit id))) (hkeep : ∀ s captures, P s → P (s.keep captures)) (c : Call)
    (n : Nat) (h : P s) : P (s.selectAnswer mock c n).2 := by
  induction n generalizing s with
  | zero => exact h
  | succ n ih =>
      rw [selectAnswer]
      dsimp only
      have hprobed := hprobe (Probe.findIdx? (fun e : Entry => e.matcher.test c)
        (((s.registry.stub? mock).map Stub.candidates).getD [])) s h
      split
      case h_1 heq => rwa [heq] at hprobed
      case h_2 candidate s₁ heq =>
        rw [heq] at hprobed
        split
        case h_1 => exact ih hprobed
        case h_2 entry _ => exact hkeep _ _ (hprobe (candidate.matcher.captures c) _ (hhit s₁ entry.id hprobed))

end Store

namespace Store.Sound

variable {s : Store}

theorem stub (h : s.Sound) {id : Nat} {stub : Stub} (hstub : s.registry.stub? id = some stub) : stub.Sound :=
  h.stubs stub (List.mem_of_find?_eq_some hstub)

theorem lt_nextObject (h : s.Sound) {id : Nat} {stub : Stub} (hstub : s.registry.stub? id = some stub) :
    id < s.nextObject := by
  rw [← Registry.id_of_stub? hstub]
  exact h.below stub (List.mem_of_find?_eq_some hstub)

/-- New identities are not registered. -/
theorem stub?_eq_none (h : s.Sound) {id : Nat} (hid : s.nextObject ≤ id) : s.registry.stub? id = none := by
  cases hstub : s.registry.stub? id with
  | none => rfl
  | some stub => exact absurd (h.lt_nextObject hstub) (Nat.not_lt.mpr hid)

/-- Fewer mocks, and more identities handed out. -/
theorem of_subset (h : s.Sound) {s' : Store} (hsub : ∀ stub ∈ s'.registry.stubs, stub ∈ s.registry.stubs)
    (hle : s.nextObject ≤ s'.nextObject) : s'.Sound :=
  ⟨fun x hx => Nat.lt_of_lt_of_le (h.below x (hsub x hx)) hle, fun x hx => h.stubs x (hsub x hx)⟩

theorem modify (h : s.Sound) (mock : Nat) {f : Stub → Stub} (hid : ∀ x : Stub, (f x).id = x.id)
    (hf : ∀ x : Stub, x.Sound → (f x).Sound) : (s.modify mock f).Sound := by
  have hmem : ∀ x ∈ (s.modify mock f).registry.stubs, ∃ y ∈ s.registry.stubs, x.id = y.id ∧ x.Sound := by
    intro x hx
    obtain ⟨y, hy, rfl⟩ := List.mem_map.mp hx
    refine ⟨y, hy, ?_⟩
    split
    · exact ⟨hid y, hf y (h.stubs y hy)⟩
    · exact ⟨rfl, h.stubs y hy⟩
  refine ⟨fun x hx => ?_, fun x hx => ?_⟩
  · obtain ⟨y, hy, heq, -⟩ := hmem x hx
    rw [heq]
    exact h.below y hy
  · obtain ⟨-, -, -, hsound⟩ := hmem x hx
    exact hsound

theorem insert (h : s.Sound) (new : Stub) (hid : new.id = s.nextObject) (hnew : new.Sound) :
    Store.Sound { s with registry := s.registry.insert new, nextObject := s.nextObject + 1 } := by
  refine ⟨fun x hx => ?_, fun x hx => ?_⟩
  · rcases List.mem_append.mp hx with hx | hx
    · exact Nat.lt_succ_of_lt (h.below x hx)
    · cases List.mem_singleton.mp hx
      rw [hid]
      exact Nat.lt_succ_self _
  · rcases List.mem_append.mp hx with hx | hx
    · exact h.stubs x hx
    · cases List.mem_singleton.mp hx
      exact hnew

theorem create (h : s.Sound) (className : String) (kind : MockKind) : (s.create className kind).2.Sound :=
  h.insert _ rfl ⟨List.nodup_nil, nofun⟩

theorem createChild (h : s.Sound) (parent : Stub) (className : String) : (s.createChild parent className).2.Sound :=
  (h.insert { object := ⟨s.nextObject, className⟩, kind := parent.kind.forChild, parent := some parent.id } rfl
    ⟨List.nodup_nil, nofun⟩).modify parent.id (fun x => by unfold Stub.adopt; split <;> rfl) fun _ hx => hx.adopt _

theorem addAnswer (h : s.Sound) (mock : Nat) (m : CallMatcher) (a : Answer) :
    (s.modify mock (·.addAnswer m a)).Sound := h.modify mock (fun _ => rfl) fun _ hx => hx.addAnswer m a

/-! ## Calls and predicates -/

theorem probe {α : Type} (p : Probe α) (h : s.Sound) : (s.probe p).2.Sound :=
  probe_preserves (fun _ mock hs => hs.modify mock (fun _ => rfl) fun _ hx => hx.clear _)
    (fun _ _ hs => ⟨hs.below, hs.stubs⟩) p h

theorem selectAnswer (h : s.Sound) (mock : Nat) (c : Call) (n : Nat) : (s.selectAnswer mock c n).2.Sound :=
  selectAnswer_preserves (fun p _ hs => hs.probe p)
    (fun _ _ hs => hs.modify mock (fun _ => rfl) fun _ hx => hx.hit _) (fun _ _ hs => ⟨hs.below, hs.stubs⟩) c n h

theorem resolve (h : s.Sound) (mock : Nat) (c : Call) (log : Bool) : (s.resolve mock c log).2.Sound := by
  rw [Store.resolve]
  refine selectAnswer ?_ mock c _
  split
  · exact h.modify mock (fun _ => rfl) fun _ hx => ⟨hx.nodup, hx.below⟩
  · exact h

theorem exclude (h : s.Sound) (mock : Nat) (m : CallMatcher) : (s.exclude mock m).2.Sound := by
  rw [Store.exclude]
  split
  · exact h
  · exact (h.probe _).modify mock (fun _ => rfl) fun _ hx => ⟨hx.nodup, hx.below⟩

/-! ## Releasing -/

theorem clear (h : s.Sound) {mock : Nat} {o : ClearOptions} {s' : Store} (hs : s.clear mock o = .ok s') : s'.Sound := by
  unfold Store.clear at hs
  cases hget : s.registry.get mock with
  | error e => rw [hget] at hs; cases hs
  | ok stub =>
      rw [hget] at hs
      cases hs
      exact (h.modify mock (f := (·.clear o)) (fun _ => rfl) fun _ hx => hx.clear o).of_subset
        (fun _ => Registry.mem_of_mem_releaseEach) (Nat.le_refl _)

theorem release (h : s.Sound) {mock : Nat} {s' : Store} (hs : s.release mock = .ok s') : s'.Sound := by
  unfold Store.release Registry.release at hs
  split at hs
  · cases hs
    exact h.of_subset (fun _ => Registry.mem_of_mem_releaseEach) (Nat.le_refl _)
  · cases hs

end Store.Sound

/-- A store to which the operations of the library have led. -/
inductive Store.Reached : Store → Prop where
  | start : Reached {}
  /-- Identities and sequence numbers are taken. -/
  | drawn {s : Store} (h : Reached s) (n k : Nat) (hn : s.nextObject ≤ n) :
      Reached { s with nextObject := n, nextSequence := k }
  | slots {s : Store} (h : Reached s) (captures : Matcher.Captures) (tallies : List (Nat × Nat)) :
      Reached { s with captures, tallies }
  | create {s : Store} (h : Reached s) (className : String) (kind : MockKind) : Reached (s.create className kind).2
  | createChild {s : Store} (h : Reached s) (parent : Stub) (className : String) :
      Reached (s.createChild parent className).2
  | addAnswer {s : Store} (h : Reached s) (mock : Nat) (m : CallMatcher) (a : Answer) :
      Reached (s.modify mock (·.addAnswer m a))
  | resolve {s : Store} (h : Reached s) (mock : Nat) (c : Call) (log : Bool) : Reached (s.resolve mock c log).2
  | probe {s : Store} (h : Reached s) {α : Type} (p : Probe α) : Reached (s.probe p).2
  | markVerified {s : Store} (h : Reached s) (mock : Nat) (sequences : List Nat) :
      Reached (s.modify mock (·.markVerified sequences))
  | exclude {s : Store} (h : Reached s) (mock : Nat) (m : CallMatcher) : Reached (s.exclude mock m).2
  | clear {s s' : Store} (h : Reached s) {mock : Nat} {o : ClearOptions} (hs : s.clear mock o = .ok s') : Reached s'
  | release {s s' : Store} (h : Reached s) {mock : Nat} (hs : s.release mock = .ok s') : Reached s'

theorem Store.Reached.sound {s : Store} (h : s.Reached) : s.Sound := by
  induction h with
  | start => exact ⟨nofun, nofun⟩
  | drawn _ _ _ hn ih => exact ih.of_subset (fun _ hx => hx) hn
  | slots _ _ _ ih => exact ih.of_subset (fun _ hx => hx) (Nat.le_refl _)
  | create _ className kind ih => exact ih.create className kind
  | createChild _ parent className ih => exact ih.createChild parent className
  | addAnswer _ mock m a ih => exact ih.addAnswer mock m a
  | resolve _ mock c log ih => exact ih.resolve mock c log
  | probe _ p ih => exact ih.probe p
  | markVerified _ mock _ ih => exact ih.modify mock (fun _ => rfl) fun _ hx => ⟨hx.nodup, hx.below⟩
  | exclude _ mock m ih => exact ih.exclude mock m
  | clear _ hs ih => exact ih.clear hs
  | release _ hs ih => exact ih.release hs

end TestDouble
