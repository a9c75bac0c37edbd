import TestDouble.Stub.Basic

/-!
# Pure matchers

A matcher whose predicates only look at the value gives its answer at once, and leaves the world alone.
-/

namespace TestDouble

namespace Probe

variable {α β : Type}

/-- The probe asks for nothing. -/
def Pure (p : Probe α) : Prop := ∃ a, p = .done a

theorem Pure.done (a : α) : (Probe.done a).Pure := ⟨a, rfl⟩

theorem Pure.bind {p : Probe α} {f : α → Probe β} (hp : p.Pure) (hf : ∀ a, (f a).Pure) : (p.bind f).Pure := by
  obtain ⟨a, rfl⟩ := hp
  exact hf a

theorem Pure.ite {p q : Probe α} {b : Bool} (hp : p.Pure) (hq : q.Pure) : (if b then p else q).Pure := by
  cases b
  · exact hq
  · exact hp

theorem Pure.all {p : α → Probe Bool} (hp : ∀ a, (p a).Pure) : (as : List α) → (Probe.all p as).Pure
  | [] => .done true
  | a :: as => (hp a).bind fun _ => (Pure.all hp as).ite (.done false)

theorem bind_assoc {γ : Type} (p : Probe α) (f : α → Probe β) (g : β → Probe γ) :
    (p.bind f).bind g = p.bind fun a => (f a).bind g := by
  induction p with
  | done a => rfl
  | callCount mock next ih => exact congrArg (callCount mock) (funext ih)
  | clearAnswers mock next ih => exact congrArg (clearAnswers mock) (funext ih)
  | tally counter next ih => exact congrArg (tally counter) (funext ih)

/-- A search only depends on the tests. -/
theorem findIdx?_map {p : α → Probe Bool} {f : α → α} (hf : ∀ a, p (f a) = p a) (as : List α) :
    findIdx? p (as.map f) = (findIdx? p as).bind fun found => .done (found.map (·.map id f)) := by
  induction as with
  | nil => rfl
  | cons a as ih =>
      rw [List.map_cons, findIdx?, findIdx?, hf, bind_assoc]
      refine congrArg (p a).bind (funext fun b => ?_)
      cases b with
      | true => rfl
      | false =>
          simp only [Bool.false_eq_true, ↓reduceIte, ih, bind_assoc, Probe.bind, Option.map_map]
          rfl

/-- A pure test keeps what passes it. -/
theorem filter_eq {p : α → Probe Bool} {q : α → Bool} {as : List α} (h : ∀ a ∈ as, p a = .done (q a)) :
    Probe.filter p as = .done (as.filter q) := by
  induction as with
  | nil => rfl
  | cons a as ih =>
      rw [Probe.filter, h a List.mem_cons_self, ih fun b hb => h b (List.mem_cons_of_mem a hb)]
      cases hq : q a <;> simp [Probe.bind, hq]

/-- A pure test finds the first that passes it. -/
theorem findIdx?_eq {p : α → Probe Bool} {q : α → Bool} {as : List α} (h : ∀ a ∈ as, p a = .done (q a)) :
    ∃ found, Probe.findIdx? p as = .done found ∧ found.map (·.2) = as.find? q := by
  induction as with
  | nil => exact ⟨none, rfl, rfl⟩
  | cons a as ih =>
      obtain ⟨found, hfound, hmap⟩ := ih fun b hb => h b (List.mem_cons_of_mem a hb)
      rw [Probe.findIdx?, h a List.mem_cons_self, Probe.bind, hfound, List.find?_cons]
      cases q a with
      | true => exact ⟨some (0, a), rfl, rfl⟩
      | false =>
          refine ⟨found.map fun f => (f.1 + 1, f.2), rfl, ?_⟩
          rw [Option.map_map]
          exact hmap

end Probe

namespace Matcher

/-! ## Predicates that only look at the value -/

mutual
/-- All predicates only look at the value. -/
def Pure : Matcher → Prop
| predicate _ p => ∀ v, (p v).Pure
| not m => Pure m
| and l r => Pure l ∧ Pure r
| or l r => Pure l ∧ Pure r
| capture _ m => Pure m
| varargAll m => Pure m
| varargs ms => PureEach ms
| _ => True

def PureEach : List Matcher → Prop
| [] => True
| m :: ms => Pure m ∧ PureEach ms
end

mutual
theorem Pure.test : (m : Matcher) → m.Pure → ∀ v, (m.test v).Pure
  | any, _, _ => .done _
  | eq _, _, _ => .done _
  | same _, _, _ => .done _
  | compare _ _, _, _ => .done _
  | predicate _ _, h, v => by simp only [Matcher.Pure] at h; exact h v
  | ofShape _, _, _ => .done _
  | null, _, _ => .done _
  | notNull, _, _ => .done _
  | not m, h, v => by simp only [Matcher.Pure] at h; exact (Pure.test m h v).bind fun _ => .done _
  | and l r, h, v => by
      simp only [Matcher.Pure] at h
      exact (Pure.test l h.1 v).bind fun _ => (Pure.test r h.2 v).ite (.done _)
  | or l r, h, v => by
      simp only [Matcher.Pure] at h
      exact (Pure.test l h.1 v).bind fun _ => Probe.Pure.ite (.done _) (Pure.test r h.2 v)
  | capture _ m, h, v => by simp only [Matcher.Pure] at h; exact Pure.test m h v
  | varargAny, _, _ => .done _
  | varargAll m, h, v => by
      simp only [Matcher.Pure] at h
      cases v with
      | list items => exact .all (Pure.test m h) items
      | _ => exact .done _
  | varargs ms, h, v => by
      simp only [Matcher.Pure] at h
      cases v with
      | list items =>
          simp only [Matcher.test]
          split
          · exact PureEach.testEach ms h items
          · exact .done _
      | _ => exact .done _
  | notCalled, _, _ => .done _

theorem PureEach.testEach : (ms : List Matcher) → PureEach ms → ∀ vs, (Matcher.testEach ms vs).Pure
  | [], _, _ => .done _
  | _ :: _, _, [] => .done _
  | m :: ms, h, v :: vs => by
      simp only [Matcher.PureEach] at h
      exact (Pure.test m h.1 v).bind fun _ => (PureEach.testEach ms h.2 vs).ite (.done _)
end

theorem capturesAll_pure {f : Value → Probe Captures} (hf : ∀ v, (f v).Pure) :
    (vs : List Value) → (Matcher.capturesAll f vs).Pure
  | [] => .done _
  | v :: vs => (hf v).bind fun _ => (capturesAll_pure hf vs).bind fun _ => .done _

mutual
theorem Pure.captures : (m : Matcher) → m.Pure → ∀ v, (m.captures v).Pure
  | capture _ m, h, v => by simp only [Matcher.Pure] at h; exact (Pure.captures m h v).bind fun _ => .done _
  | and l r, h, v => by
      simp only [Matcher.Pure] at h
      exact (Pure.captures l h.1 v).bind fun _ => (Pure.captures r h.2 v).bind fun _ => .done _
  | or l r, h, v => by
      simp only [Matcher.Pure] at h
      exact (Pure.test l h.1 v).bind fun _ => (Pure.captures l h.1 v).ite (Pure.captures r h.2 v)
  | varargAll m, h, v => by
      simp only [Matcher.Pure] at h
      cases v with
      | list items => exact capturesAll_pure (Pure.captures m h) items
      | _ => exact .done _
  | varargs ms, h, v => by
      simp only [Matcher.Pure] at h
      cases v with
      | list items => exact PureEach.capturesEach ms h items
      | _ => exact .done _
  | any, _, _ => .done _
  | eq _, _, _ => .done _
  | same _, _, _ => .done _
  | compare _ _, _, _ => .done _
  | predicate _ _, _, _ => .done _
  | ofShape _, _, _ => .done _
  | null, _, _ => .done _
  | notNull, _, _ => .done _
  | not _, _, _ => .done _
  | varargAny, _, _ => .done _
  | notCalled, _, _ => .done _

theorem PureEach.capturesEach : (ms : List Matcher) → PureEach ms → ∀ vs, (Matcher.capturesEach ms vs).Pure
  | [], _, _ => .done _
  | _ :: _, _, [] => .done _
  | m :: ms, h, v :: vs => by
      simp only [Matcher.PureEach] at h
      exact (Pure.captures m h.1 v).bind fun _ => (PureEach.capturesEach ms h.2 vs).bind fun _ => .done _
end

theorem pureEach_iff {ms : List Matcher} : PureEach ms ↔ ∀ m ∈ ms, m.Pure := by
  induction ms with
  | nil => simp [PureEach]
  | cons m ms ih => simp [PureEach, ih]

/-! ## What a pure matcher accepts -/

/-- The answer of the matcher, where it needs nothing from the world. -/
def accepts (m : Matcher) (v : Value) : Bool :=
  match m.test v with
  | .done b => b
  | _ => false

theorem Pure.test_eq {m : Matcher} (h : m.Pure) (v : Value) : m.test v = .done (m.accepts v) := by
  obtain ⟨b, hb⟩ := Pure.test m h v
  simp [accepts, hb]

/-- Position by position, and for as many arguments as there are matchers. -/
def acceptsEach : List Matcher → List Value → Bool
  | [], [] => true
  | m :: ms, v :: vs => m.accepts v && acceptsEach ms vs
  | _, _ => false

theorem PureEach.testEach_eq : (ms : List Matcher) → PureEach ms → ∀ vs, ms.length = vs.length →
    Matcher.testEach ms vs = .done (acceptsEach ms vs)
  | [], _, [], _ => rfl
  | m :: ms, h, v :: vs, hlen => by
      simp only [Matcher.PureEach] at h
      rw [Matcher.testEach, h.1.test_eq v, acceptsEach, Probe.bind]
      cases m.accepts v with
      | true => simpa using PureEach.testEach_eq ms h.2 vs (Nat.succ.inj hlen)
      | false => rfl

theorem acceptsEach_of_length_ne : (ms : List Matcher) → (vs : List Value) → ms.length ≠ vs.length →
    acceptsEach ms vs = false
  | [], [], h => absurd rfl h
  | [], _ :: _, _ => rfl
  | _ :: _, [], _ => rfl
  | m :: ms, v :: vs, h => by
      rw [acceptsEach, acceptsEach_of_length_ne ms vs fun hl => h (congrArg Nat.succ hl), Bool.and_false]

end Matcher

namespace CallMatcher

/-- The call has this target and method, and every argument is accepted. -/
def accepts (m : CallMatcher) (c : Call) : Bool :=
  m.target == c.target && m.method == c.method && Matcher.acceptsEach m.args c.args

theorem test_eq {m : CallMatcher} (h : Matcher.PureEach m.args) (hn : m.isNotCalled = false) (c : Call) :
    m.test c = .done (m.accepts c) := by
  unfold test accepts
  rw [hn, bne]
  cases ht : m.target == c.target with
  | false => rfl
  | true =>
      cases hm : m.method == c.method with
      | false => rfl
      | true =>
          by_cases hl : m.args.length = c.args.length
          · simp [hl, Matcher.PureEach.testEach_eq m.args h c.args hl]
          · simp [hl, Matcher.acceptsEach_of_length_ne m.args c.args hl]

theorem captures_pure {m : CallMatcher} (h : Matcher.PureEach m.args) (c : Call) : (m.captures c).Pure :=
  Matcher.PureEach.capturesEach m.args h c.args

/-- What the matcher accepts, the statement that there were no calls included. -/
def admits (m : CallMatcher) (c : Call) : Bool :=
  m.target == c.target && (m.isNotCalled || m.method == c.method && Matcher.acceptsEach m.args c.args)

theorem admits_eq_accepts {m : CallMatcher} (hn : m.isNotCalled = false) : m.admits = m.accepts := by
  funext c
  rw [admits, accepts, hn, Bool.false_or, Bool.and_assoc]

theorem test_eq_admits {m : CallMatcher} (h : Matcher.PureEach m.args) (c : Call) : m.test c = .done (m.admits c) := by
  cases hn : m.isNotCalled with
  | false => rw [test_eq h hn, admits_eq_accepts hn]
  | true =>
      unfold test admits
      rw [hn, bne]
      cases m.target == c.target <;> rfl

/-- What the call leaves in the slots, where the matcher needs nothing from the world. -/
def kept (m : CallMatcher) (c : Call) : Matcher.Captures :=
  match m.captures c with
  | .done captures => captures
  | _ => []

theorem captures_eq_kept {m : CallMatcher} (h : Matcher.PureEach m.args) (c : Call) : m.captures c = .done (m.kept c) := by
  obtain ⟨captures, hc⟩ := captures_pure h c
  simp [kept, hc]

end CallMatcher

end TestDouble
