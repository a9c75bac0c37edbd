import TestDouble.Proofs.Stub.Searching

/-!
# Clearing everything

A stub from which everything was cleared goes on numbering its entries where it had stopped. Nothing shows
these numbers: whatever is done to such a stub, it answers as a new one does.
-/

namespace TestDouble

/-! ## Operations on a stub -/

/-- Everything that a stub can be asked without changing it. -/
structure StubView where
  object : ObjectRef
  kind : MockKind
  parent : Option Nat
  children : List Nat
  /-- The matcher, the kind of answer and the number of hits of every entry. -/
  entries : List (String × String × Nat)
  registered : List String
  unused : List String
  log : List LoggedCall
  callCount : Nat
  unverified : List Call

def Stub.view (s : Stub) : StubView where
  object := s.object
  kind := s.kind
  parent := s.parent
  children := s.children
  entries := s.entries.map fun e => (e.matcher.text, e.answer.kind, e.hits)
  registered := s.registered
  unused := s.unused
  log := s.log
  callCount := s.callCount
  unverified := s.unverified

inductive StubOperation where
  | addAnswer (matcher : CallMatcher) (answer : Answer)
  | resolve (c : Call) (log : Bool)
  | findChild (m : CallMatcher)
  | adopt (child : Nat)
  | markVerified (sequences : List Nat)
  | exclude (m : CallMatcher)
  | clear (o : ClearOptions)
  | inspect

inductive StubResult where
  | nothing
  | answer (selected : Option Answer)
  | child (found : Option ObjectRef)
  | hidden (calls : Nat)
  | dropped (children : Option (List Nat))
  | view (shown : Option StubView)

namespace StubOperation

/-- An operation on the stub of a mock. Its predicates see the other mocks too. -/
def apply (mock : Nat) (s : Store) : StubOperation → StubResult × Store
  | addAnswer matcher answer => (.nothing, s.modify mock (·.addAnswer matcher answer))
  | resolve c log => (s.resolve mock c log).map .answer id
  | findChild m => (.child ((s.registry.stub? mock).bind (·.chainChild? m)), s)
  | adopt child => (.nothing, s.modify mock (·.adopt child))
  | markVerified sequences => (.nothing, s.modify mock (·.markVerified sequences))
  | exclude m => (s.exclude mock m).map .hidden id
  | clear o => (.dropped ((s.registry.stub? mock).map (·.dropped o)), s.modify mock (·.clear o))
  | inspect => (.view ((s.registry.stub? mock).map Stub.view), s)

/-- The results of operations one after the other, and the store after them. -/
def applyAll (mock : Nat) (s : Store) : List StubOperation → List StubResult × Store
  | [] => ([], s)
  | op :: ops =>
    let (result, s) := op.apply mock s
    (applyAll mock s ops).map (result :: ·) id

end StubOperation

/-! ## Other numbers for the entries -/

def Entry.renumbered (k : Nat) (e : Entry) : Entry := { e with id := k + e.id }

namespace Stub

/-- The same stub, with `k` added to the numbers of its entries. -/
def renumbered (k : Nat) (s : Stub) : Stub :=
  { s with entries := s.entries.map (·.renumbered k), nextEntry := k + s.nextEntry }

variable (k : Nat) (s : Stub)

@[simp] theorem id_renumbered : (s.renumbered k).id = s.id := rfl

theorem addAnswer_renumbered (m : CallMatcher) (a : Answer) :
    (s.renumbered k).addAnswer m a = (s.addAnswer m a).renumbered k := by
  simp [renumbered, Entry.renumbered, addAnswer, Nat.add_assoc]

theorem adopt_renumbered (child : Nat) : (s.renumbered k).adopt child = (s.adopt child).renumbered k := by
  unfold adopt
  rw [show (s.renumbered k).children = s.children from rfl]
  split <;> rfl

theorem clear_renumbered (o : ClearOptions) : (s.renumbered k).clear o = (s.clear o).renumbered k := by
  cases h : o.answers <;> simp [renumbered, clear, h]

theorem hit_renumbered (id : Nat) : (s.renumbered k).hit (k + id) = (s.hit id).renumbered k := by
  simp only [renumbered, hit, List.map_map, Stub.mk.injEq, and_self, and_true, true_and]
  refine List.map_congr_left fun e _ => ?_
  by_cases he : e.id = id <;> simp [Entry.renumbered, he]

theorem entryOf?_renumbered (id : Nat) :
    (s.renumbered k).entryOf? (k + id) = (s.entryOf? id).map (·.renumbered k) := by
  rw [entryOf?, entryOf?, renumbered, List.find?_map]
  congr 2
  funext e
  simp [Entry.renumbered]

theorem candidates_renumbered : (s.renumbered k).candidates = s.candidates.map (·.renumbered k) := by
  simp [candidates, renumbered]

theorem chainChild?_renumbered (m : CallMatcher) : (s.renumbered k).chainChild? m = s.chainChild? m := by
  rw [chainChild?, candidates_renumbered, List.findSome?_map]
  rfl

theorem view_renumbered : (s.renumbered k).view = s.view := by
  simp [view, registered, unused, renumbered, Entry.renumbered, List.filter_map, Function.comp_def, callCount,
    unverified]

end Stub

namespace Store

/-- The same store, with `k` added to the numbers of the entries of a mock. -/
def renumbered (mock k : Nat) (s : Store) : Store := s.modify mock (·.renumbered k)

variable (mock k : Nat) (s : Store)

theorem stub?_renumbered : (s.renumbered mock k).registry.stub? mock =
    (s.registry.stub? mock).map (·.renumbered k) := Registry.stub?_modify fun _ => rfl

theorem stub?_renumbered_of_ne {other : Nat} (hne : other ≠ mock) :
    (s.renumbered mock k).registry.stub? other = s.registry.stub? other :=
  Registry.stub?_modify_of_ne (fun _ => rfl) hne

/-- What changes a stub and its renumbered form alike. -/
theorem modify_renumbered {f g : Stub → Stub} (hf : ∀ x, (f x).id = x.id)
    (hcomm : ∀ x, g (x.renumbered k) = (f x).renumbered k) :
    (s.renumbered mock k).modify mock g = (s.modify mock f).renumbered mock k := by
  simp only [renumbered, modify, Registry.modify, List.map_map]
  congr 2
  refine List.map_congr_left fun x _ => ?_
  by_cases hx : x.id = mock <;> simp [hx, hf, hcomm]

theorem modify_renumbered_of_ne {f : Stub → Stub} (hf : ∀ x, (f x).id = x.id) {other : Nat} (hne : other ≠ mock) :
    (s.renumbered mock k).modify other f = (s.modify other f).renumbered mock k := by
  simp only [renumbered, modify, Registry.modify, List.map_map]
  congr 2
  refine List.map_congr_left fun x _ => ?_
  by_cases hx : x.id = other
  · simp [hx, hf, hne]
  · by_cases hx' : x.id = mock
    · simp [hx', hne.symm]
    · simp [hx, hx']

theorem clearAnswers_renumbered (other : Nat) :
    (s.renumbered mock k).clearAnswers other = (s.clearAnswers other).renumbered mock k := by
  by_cases hother : other = mock
  · rw [hother]
    exact modify_renumbered mock k s (fun _ => rfl) fun x => x.clear_renumbered k _
  · exact modify_renumbered_of_ne mock k s (f := (·.clear .answersOnly)) (fun _ => rfl) hother

theorem callCount?_renumbered (other : Nat) : (s.renumbered mock k).callCount? other = s.callCount? other := by
  by_cases hother : other = mock
  · rw [hother, callCount?, stub?_renumbered, Option.map_map]
    rfl
  · rw [callCount?, stub?_renumbered_of_ne _ _ _ hother]
    rfl

theorem contains_renumbered (other : Nat) :
    (s.renumbered mock k).registry.contains other = s.registry.contains other := by
  rw [Registry.contains_eq_isSome, Registry.contains_eq_isSome]
  by_cases hother : other = mock
  · rw [hother, stub?_renumbered, Option.isSome_map]
  · rw [stub?_renumbered_of_ne _ _ _ hother]

/-- No predicate can tell the numbers. -/
theorem probe_renumbered {α : Type} (p : Probe α) :
    (s.renumbered mock k).probe p = (s.probe p).map id (·.renumbered mock k) := by
  induction p generalizing s with
  | done a => rfl
  | callCount other next ih => rw [probe, callCount?_renumbered, ih]; rfl
  | clearAnswers other next ih => rw [probe, clearAnswers_renumbered, contains_renumbered, ih]; rfl
  | tally counter next ih => exact ih _ (s.countTally counter)

theorem tested_renumbered (c : Call) : (s.renumbered mock k).tested mock c =
    (s.tested mock c).map (·.map (·.map id (·.renumbered k))) (·.renumbered mock k) := by
  rw [tested, probe_renumbered, stub?_renumbered]
  have hcandidates : (((s.registry.stub? mock).map (·.renumbered k)).map Stub.candidates).getD [] =
      (((s.registry.stub? mock).map Stub.candidates).getD []).map (·.renumbered k) := by
    cases s.registry.stub? mock with
    | none => rfl
    | some stub => exact stub.candidates_renumbered k
  rw [hcandidates, Probe.findIdx?_map (f := Entry.renumbered k) fun _ => rfl, probe_bind]
  rfl

theorem selectAnswer_renumbered (c : Call) (n : Nat) :
    (s.renumbered mock k).selectAnswer mock c n = (s.selectAnswer mock c n).map id (·.renumbered mock k) := by
  induction n generalizing s with
  | zero => rfl
  | succ n ih =>
      rw [selectAnswer_succ, selectAnswer_succ, tested_renumbered]
      obtain ⟨_ | ⟨i, e⟩, s₁⟩ := s.tested mock c
      · rfl
      · have hentry : ((s₁.renumbered mock k).registry.stub? mock).bind (·.entryOf? (k + e.id)) =
            ((s₁.registry.stub? mock).bind (·.entryOf? e.id)).map (·.renumbered k) := by
          rw [stub?_renumbered]
          cases s₁.registry.stub? mock with
          | none => rfl
          | some stub => exact stub.entryOf?_renumbered k e.id
        simp only [Prod.map, Option.map_some, id, Entry.renumbered, hentry]
        cases (s₁.registry.stub? mock).bind (·.entryOf? e.id) with
        | none => exact ih s₁
        | some entry =>
            have hhit : (s₁.renumbered mock k).modify mock (·.hit (k + entry.id)) =
                (s₁.modify mock (·.hit entry.id)).renumbered mock k :=
              modify_renumbered mock k s₁ (fun _ => rfl) fun x => x.hit_renumbered k entry.id
            simp only [Option.map_some, hhit, probe_renumbered]
            rfl

theorem noted_renumbered (c : Call) (log : Bool) :
    (s.renumbered mock k).noted mock c log = (s.noted mock c log).renumbered mock k := by
  cases log with
  | true => exact modify_renumbered mock k s (fun _ => rfl) fun _ => rfl
  | false => rfl

theorem resolve_renumbered (c : Call) (log : Bool) :
    (s.renumbered mock k).resolve mock c log = (s.resolve mock c log).map id (·.renumbered mock k) := by
  have hresolve (s : Store) : s.resolve mock c log = selectAnswer mock c
    ((((s.noted mock c log).registry.stub? mock).map (·.entries.length)).getD 0 + 1) (s.noted mock c log) := rfl
  have hlength : (((s.noted mock c log).renumbered mock k).registry.stub? mock).map (·.entries.length) =
      ((s.noted mock c log).registry.stub? mock).map (·.entries.length) := by
    rw [stub?_renumbered, Option.map_map]
    exact congrArg (Option.map · _) (funext fun _ => List.length_map _)
  rw [hresolve, hresolve, noted_renumbered, hlength, selectAnswer_renumbered]

theorem exclude_renumbered (m : CallMatcher) :
    (s.renumbered mock k).exclude mock m = (s.exclude mock m).map id (·.renumbered mock k) := by
  rw [exclude, exclude, stub?_renumbered]
  cases s.registry.stub? mock with
  | none => rfl
  | some stub =>
      simp only [Option.map_some, probe_renumbered]
      exact Prod.ext rfl (modify_renumbered mock k _ (fun _ => rfl) fun _ => rfl)

end Store

namespace StubOperation

variable (mock k : Nat) (s : Store)

/-- No operation returns a number of an entry, and what it does, it does under other numbers too. -/
theorem apply_renumbered (op : StubOperation) :
    op.apply mock (s.renumbered mock k) = (op.apply mock s).map id (·.renumbered mock k) := by
  cases op with
  | addAnswer m a =>
      exact Prod.ext rfl (s.modify_renumbered mock k (fun _ => rfl) fun x => x.addAnswer_renumbered k m a)
  | resolve c log => rw [apply, s.resolve_renumbered]; rfl
  | findChild m =>
      rw [apply, s.stub?_renumbered, Option.bind_map]
      simp only [Function.comp_def, Stub.chainChild?_renumbered]
      rfl
  | adopt child =>
      exact Prod.ext rfl (s.modify_renumbered mock k (fun x => by unfold Stub.adopt; split <;> rfl)
        fun x => x.adopt_renumbered k child)
  | markVerified sequences => exact Prod.ext rfl (s.modify_renumbered mock k (fun _ => rfl) fun _ => rfl)
  | exclude m => rw [apply, s.exclude_renumbered]; rfl
  | clear o =>
      rw [apply, s.stub?_renumbered, Option.map_map]
      exact Prod.ext rfl (s.modify_renumbered mock k (fun _ => rfl) fun x => x.clear_renumbered k o)
  | inspect =>
      rw [apply, s.stub?_renumbered, Option.map_map]
      simp only [Function.comp_def, Stub.view_renumbered]
      rfl

theorem applyAll_renumbered (ops : List StubOperation) :
    applyAll mock (s.renumbered mock k) ops = (applyAll mock s ops).map id (·.renumbered mock k) := by
  induction ops generalizing s with
  | nil => rfl
  | cons op ops ih => simp only [applyAll, apply_renumbered, Prod.map, ih]; rfl

end StubOperation

/-! ## Clearing -/

/-- The store with this stub for its mock. -/
def Store.hosting (s : Store) (stub : Stub) : Store := { s with registry := (s.registry.erase stub.id).insert stub }

theorem Store.hosting_renumbered (s : Store) (stub : Stub) (k : Nat) :
    s.hosting (stub.renumbered k) = (s.hosting stub).renumbered stub.id k := by
  have hothers : (s.registry.erase stub.id).stubs.map (fun x => if x.id == stub.id then x.renumbered k else x) =
      (s.registry.erase stub.id).stubs := by
    refine (List.map_congr_left fun x hx => ?_).trans (List.map_id _)
    have hx : x.id ≠ stub.id := by simpa using (List.mem_filter.mp hx).2
    simp [hx]
  simp only [hosting, renumbered, modify, Registry.modify, Registry.insert, List.map_append, hothers]
  simp

/-- Whatever is done to a stub after everything was cleared, the results are those of a new stub. -/
theorem StubOperation.clear_resets (s : Store) (stub : Stub) (ops : List StubOperation) :
    let everything : ClearOptions := { answers := true, recordedCalls := true, childMocks := true }
    let new : Stub := { object := stub.object, kind := stub.kind, parent := stub.parent }
    let afterClear := applyAll stub.id (s.hosting (stub.clear everything)) ops
    let afterNew := applyAll stub.id (s.hosting new) ops
    afterClear.1 = afterNew.1 ∧ afterClear.2.captures = afterNew.2.captures := by
  intro everything new afterClear afterNew
  have hclear : stub.clear everything = new.renumbered stub.nextEntry := rfl
  have hafter : afterClear = Prod.map id (·.renumbered stub.id stub.nextEntry) afterNew := by
    change applyAll stub.id (s.hosting (stub.clear everything)) ops = _
    rw [hclear, s.hosting_renumbered new]
    exact applyAll_renumbered _ _ _ ops
  rw [hafter]
  exact ⟨rfl, rfl⟩

end TestDouble
