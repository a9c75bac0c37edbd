import TestDouble.Proofs.Matcher.Literal
import TestDouble.Proofs.Session.Installing
import TestDouble.Proofs.Store

/-!
# What a mock gives

A mock gives a value for a call if the search among its entries ends, without effects, at one that answers with
that value. Calls do not change what is given, and a new entry only changes it for the calls it accepts.
-/

namespace TestDouble

namespace Probe

variable {α β : Type}

theorem bind_eq_done {p : Probe α} {f : α → Probe β} {b : β} : p.bind f = .done b ↔ ∃ a, p = .done a ∧ f a = .done b := by
  cases p <;> simp [Probe.bind]

/-- What is found without effects is one of the elements. -/
theorem mem_of_findIdx? {p : α → Probe Bool} {as : List α} {n : Nat} {a : α}
    (h : findIdx? p as = .done (some (n, a))) : a ∈ as := by
  induction as generalizing n with
  | nil => cases h
  | cons x as ih =>
      obtain ⟨b, -, h⟩ := bind_eq_done.mp h
      cases b with
      | true => cases h; exact List.mem_cons_self
      | false =>
          obtain ⟨found, hfound, h⟩ := bind_eq_done.mp h
          cases found with
          | none => cases h
          | some f => cases h; exact List.mem_cons_of_mem x (ih hfound)

end Probe

/-! ## One mock -/

/-- The newest entry that accepts the call answers with this value, and is found without effects. -/
def Stub.Gives (s : Stub) (c : Call) (v : Value) : Prop :=
  ∃ n e, Probe.findIdx? (fun e : Entry => e.matcher.test c) s.candidates = .done (some (n, e)) ∧
    (e.matcher.captures c).Pure ∧ e.answer = .constant v

namespace Stub.Gives

variable {s : Stub} {c d : Call} {v : Value}

theorem repeats (h : s.Gives c v) (hd : d.Repeats c) : s.Gives d v := by
  obtain ⟨n, e, hfind, hcaptures, hanswer⟩ := h
  refine ⟨n, e, ?_, CallMatcher.captures_repeats _ hd ▸ hcaptures, hanswer⟩
  rw [← hfind]
  exact congrArg (Probe.findIdx? · s.candidates) (funext fun e => e.matcher.test_repeats hd)

/-- Only the entries decide. -/
theorem of_entries (h : s.Gives c v) {s' : Stub} (hs : s'.entries = s.entries) : s'.Gives c v := by
  unfold Stub.Gives Stub.candidates
  rw [hs]
  exact h

theorem hit (h : s.Gives c v) (id : Nat) : (s.hit id).Gives c v := by
  obtain ⟨n, e, hfind, hcaptures, hanswer⟩ := h
  let f : Entry → Entry := fun e => if e.id == id then { e with hits := e.hits + 1 } else e
  have hmatcher : ∀ e, (f e).matcher = e.matcher := fun e => by dsimp only [f]; split <;> rfl
  have hsame : ∀ e, (f e).answer = e.answer := fun e => by dsimp only [f]; split <;> rfl
  have hcandidates : (s.hit id).candidates = s.candidates.map f := (List.map_reverse (f := f) (l := s.entries)).symm
  refine ⟨n, f e, ?_, (hmatcher e).symm ▸ hcaptures, (hsame e).trans hanswer⟩
  rw [hcandidates, Probe.findIdx?_map (fun e => by rw [hmatcher]), hfind]
  rfl

/-- The newest entry serves the calls it accepts. -/
theorem of_addAnswer (s : Stub) {m : CallMatcher} (htest : m.test c = .done true) (hcaptures : (m.captures c).Pure)
    (v : Value) : (s.addAnswer m (.constant v)).Gives c v := by
  refine ⟨0, ⟨s.nextEntry, m, .constant v, 0⟩, ?_, hcaptures, rfl⟩
  rw [candidates_addAnswer, Probe.findIdx?, htest]
  rfl

/-- The newest entry is passed over by the calls it rejects. -/
theorem addAnswer (h : s.Gives c v) {m : CallMatcher} (htest : m.test c = .done false) (a : Answer) :
    (s.addAnswer m a).Gives c v := by
  obtain ⟨n, e, hfind, hrest⟩ := h
  refine ⟨n + 1, e, ?_, hrest⟩
  rw [candidates_addAnswer, Probe.findIdx?, htest, Probe.bind, hfind]
  rfl

end Stub.Gives

/-! ## All mocks -/

/-- The target of the call is registered, and gives this value for it. -/
def Store.Gives (s : Store) (c : Call) (v : Value) : Prop :=
  ∃ stub, s.registry.stub? c.target.id = some stub ∧ stub.Gives c v

/-- Whatever is given stays so. -/
def Store.KeepsGiving (s s' : Store) : Prop := ∀ c v, s.Gives c v → s'.Gives c v

namespace Store.KeepsGiving

theorem trans {a b c : Store} (h : a.KeepsGiving b) (h' : b.KeepsGiving c) : a.KeepsGiving c :=
  fun _ _ hg => h' _ _ (h _ _ hg)

/-- Only the registry decides. -/
theorem of_registry {s s' : Store} (h : s'.registry = s.registry) : s.KeepsGiving s' := fun _ _ hg => by
  unfold Store.Gives
  rw [h]
  exact hg

end Store.KeepsGiving

namespace Store.Gives

variable {s : Store} {c d : Call} {v : Value}

theorem repeats (h : s.Gives c v) (hd : d.Repeats c) : s.Gives d v := by
  obtain ⟨stub, hstub, hgives⟩ := h
  exact ⟨stub, by rw [hd.target]; exact hstub, hgives.repeats hd⟩

theorem modify (h : s.Gives c v) (mock : Nat) {f : Stub → Stub} (hid : ∀ x : Stub, (f x).id = x.id)
    (hf : ∀ x : Stub, x.id = mock → x.Gives c v → (f x).Gives c v) : (s.modify mock f).Gives c v := by
  obtain ⟨stub, hstub, hgives⟩ := h
  by_cases hmock : c.target.id = mock
  · subst hmock
    exact ⟨f stub, Store.stub?_modify hstub hid, hf stub (Registry.id_of_stub? hstub) hgives⟩
  · exact ⟨stub, (Registry.stub?_modify_of_ne hid hmock).trans hstub, hgives⟩

theorem createChild (h : s.Gives c v) (parent : Stub) (className : String) :
    (s.createChild parent className).2.Gives c v := by
  obtain ⟨stub, hstub, hgives⟩ := h
  obtain ⟨x, hx, hentries⟩ := s.stub?_createChild hstub parent className
  exact ⟨x, hx, hgives.of_entries hentries⟩

/-- A literal entry gives its answer for the call itself. -/
theorem of_addAnswer {stub : Stub} (hstub : s.registry.stub? c.target.id = some stub) (hself : c.sameAs c = true)
    (v : Value) : (s.modify c.target.id (·.addAnswer (.literal c) (.constant v))).Gives c v :=
  ⟨_, Store.stub?_modify hstub fun _ => rfl,
    .of_addAnswer stub (by rw [CallMatcher.test_literal, hself]) (CallMatcher.captures_literal c c) v⟩

/-- A literal entry for another call changes nothing. -/
theorem addAnswer (h : s.Gives c v) {d : Call} (hother : d.sameAs c = false) (mock : Nat) (a : Answer) :
    (s.modify mock (·.addAnswer (.literal d) a)).Gives c v :=
  h.modify mock (fun _ => rfl) fun _ _ hx => hx.addAnswer (by rw [CallMatcher.test_literal, hother]) a

end Store.Gives

/-! ## Calls -/

namespace Store

variable {s : Store} {c : Call} {v : Value}

theorem KeepsGiving.modify (s : Store) (mock : Nat) {f : Stub → Stub} (hid : ∀ x : Stub, (f x).id = x.id)
    (hf : ∀ c v (x : Stub), x.Gives c v → (f x).Gives c v) : s.KeepsGiving (s.modify mock f) :=
  fun c v h => h.modify mock hid fun x _ => hf c v x

/-- The entry that gives the value is the one that serves the call. -/
theorem Gives.selectAnswer (h : s.Gives c v) (hs : s.Sound) (n : Nat) : ∃ s',
    s.selectAnswer c.target.id c (n + 1) = (some (.constant v), s') ∧ s.KeepsGiving s' := by
  obtain ⟨stub, hstub, m, e, hfind, ⟨kept, hkept⟩, hanswer⟩ := h
  have hmem : e ∈ stub.entries := List.mem_reverse.mp (Probe.mem_of_findIdx? hfind)
  have hentry : (s.registry.stub? c.target.id).bind (·.entryOf? e.id) = some e := by
    rw [hstub, Option.bind_some, (hs.stub hstub).entryOf? hmem]
  refine ⟨(s.modify c.target.id (·.hit e.id)).keep kept, ?_, ?_⟩
  · rw [Store.selectAnswer, hstub, Option.map_some, Option.getD_some, hfind]
    simp [Store.probe, hentry, hkept, hanswer, Answer.select]
  · have hhit : s.KeepsGiving (s.modify c.target.id (·.hit e.id)) := .modify s _ (fun _ => rfl) fun _ _ _ hx => hx.hit _
    exact hhit.trans (.of_registry rfl)

theorem Gives.resolve (h : s.Gives c v) (hs : s.Sound) (log : Bool) : ∃ s',
    s.resolve c.target.id c log = (some (.constant v), s') ∧ s.KeepsGiving s' := by
  rw [Store.resolve]
  cases log with
  | false => exact h.selectAnswer hs _
  | true =>
      have hlogged : s.KeepsGiving (s.modify c.target.id (·.addCall c)) :=
        .modify s _ (fun _ => rfl) fun _ _ _ hx => hx.of_entries rfl
      have hsound := hs.modify c.target.id (f := (·.addCall c)) (fun _ => rfl) fun _ hx => ⟨hx.nodup, hx.below⟩
      obtain ⟨s', hres, hkeeps⟩ := (hlogged c v h).selectAnswer hsound _
      exact ⟨s', hres, hlogged.trans hkeeps⟩

end Store

end TestDouble
