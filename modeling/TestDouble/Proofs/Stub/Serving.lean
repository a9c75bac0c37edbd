import TestDouble.Proofs.Matcher.Pure
import TestDouble.Proofs.Registry

/-!
# The answer table over whole runs

Answers are registered and calls arrive in any order. What has happened so far decides which entry serves
the next call, with which of its answers, what is captured, counted and logged.
-/

namespace TestDouble

/-- The answer for a call that comes after `k` others served by the same entry. -/
inductive Answer.Turn (k : Nat) : Answer → Answer → Prop where
  /-- One after the other; the last one repeats. -/
  | inSequence {answers : List Answer} {a : Answer} (h : answers[min k (answers.length - 1)]? = some a) :
      Turn k (.sequence answers) a
  | ofNothing : Turn k (.sequence []) (.constant .unit)
  | alone {a : Answer} (h : ∀ answers, a ≠ .sequence answers) : Turn k a a

theorem Answer.turn_select (k : Nat) (a : Answer) : a.Turn k (a.select k) := by
  cases a with
  | sequence answers =>
      cases answers with
      | nil => exact .ofNothing
      | cons a as =>
          refine .inSequence ?_
          rw [Answer.select, List.length_cons, Nat.add_sub_cancel]
          by_cases hk : k ≤ as.length
          · rw [Nat.min_eq_left hk, List.getElem?_eq_getElem (Nat.lt_succ_of_le hk)]
            rfl
          · have hnone : (a :: as)[k]? = none := List.getElem?_eq_none (Nat.lt_of_not_le hk)
            rw [Nat.min_eq_right (Nat.le_of_not_le hk), hnone, List.getLast?_eq_getElem?, List.length_cons,
              Nat.add_sub_cancel, List.getElem?_eq_getElem (Nat.lt_succ_self _)]
            rfl
  | _ => exact .alone fun _ h => nomatch h

/-! ## Histories -/

/-- What happens to the answer table of a mock. -/
inductive TableEvent where
  | register (matcher : CallMatcher) (answer : Answer)
  /-- A call, and whether it is logged. -/
  | call (c : Call) (log : Bool)

def TableEvent.apply (mock : Nat) (s : Store) : TableEvent → Store
  | register matcher answer => s.modify mock (·.addAnswer matcher answer)
  | call c log => (s.resolve mock c log).2

/-- The predicates only look at the values. -/
def TableEvent.Pure : TableEvent → Prop
  | register matcher _ => Matcher.PureEach matcher.args
  | call _ _ => True

/-- The newest event first. -/
abbrev History := List TableEvent

namespace History

def Pure (h : History) : Prop := ∀ e ∈ h, e.Pure

theorem Pure.tail {e : TableEvent} {h : History} (hp : Pure (e :: h)) : h.Pure :=
  fun e he => hp e (List.mem_cons_of_mem _ he)

/-- The store after the events. -/
def run (mock : Nat) (s : Store) (h : History) : Store := h.foldr (fun e s => e.apply mock s) s

/-- The oldest first. -/
def registered : History → List (CallMatcher × Answer)
  | [] => []
  | .register matcher answer :: h => registered h ++ [(matcher, answer)]
  | .call _ _ :: h => registered h

/-- The newest matcher that accepts the call, with its answer and its position. -/
def serving? (h : History) (c : Call) : Option ((CallMatcher × Answer) × Nat) :=
  (registered h).zipIdx.reverse.find? fun e => e.1.1.admits c

/-- The number of calls that were served from position `j`. -/
def served (j : Nat) : History → Nat
  | [] => 0
  | .register _ _ :: h => served j h
  | .call c _ :: h => served j h + if (serving? h c).any (·.2 == j) then 1 else 0

def logged : History → List Call
  | [] => []
  | .register _ _ :: h => logged h
  | .call c log :: h => logged h ++ if log then [c] else []

/-- What the calls left in the slots. -/
def kept : History → Matcher.Captures
  | [] => []
  | .register _ _ :: h => kept h
  | .call c _ :: h => kept h ++ ((serving? h c).map fun e => e.1.1.kept c).getD []

/-- The entries, numbered from `base` on. -/
def entries (base : Nat) (h : History) : List Entry :=
  (registered h).zipIdx.map fun e => ⟨base + e.2, e.1.1, e.1.2, served e.2 h⟩

variable {h : History} {c : Call} {base j : Nat}

theorem registered_of_serving? {e : (CallMatcher × Answer) × Nat} (he : serving? h c = some e) :
    (registered h)[e.2]? = some e.1 := by
  have hmem := List.mem_of_find?_eq_some he
  rw [List.mem_reverse] at hmem
  exact List.mem_zipIdx_iff_getElem?.mp hmem

/-- There are no calls to serve before there is an entry. -/
theorem served_of_length_le : (h : History) → (registered h).length ≤ j → served j h = 0
  | [], _ => rfl
  | .register matcher answer :: h, hj => by
      rw [registered, List.length_append] at hj
      exact served_of_length_le h (Nat.le_of_add_right_le hj)
  | .call c _ :: h, hj => by
      rw [registered] at hj
      rw [served, served_of_length_le h hj, Nat.zero_add, if_neg]
      intro hany
      cases he : serving? h c with
      | none => rw [he] at hany; cases hany
      | some e =>
          rw [he, Option.any_some, beq_iff_eq] at hany
          have hlt := (List.getElem?_eq_some_iff.mp (registered_of_serving? he)).1
          omega

theorem Pure.registered : (h : History) → h.Pure → ∀ e ∈ registered h, Matcher.PureEach e.1.args
  | [], _, _, he => nomatch he
  | .register matcher answer :: h, hp, e, he => by
      rw [History.registered, List.mem_append, List.mem_singleton] at he
      rcases he with he | rfl
      · exact Pure.registered h hp.tail e he
      · exact hp _ List.mem_cons_self
  | .call _ _ :: h, hp, e, he => Pure.registered h hp.tail e he

/-- The newest of the matchers that accept the call, with its answer and its position. -/
structure Newest (h : History) (c : Call) (e : (CallMatcher × Answer) × Nat) : Prop where
  registered : (History.registered h)[e.2]? = some e.1
  accepts : e.1.1.test c = .done true
  newest : ∀ j e', e.2 < j → (History.registered h)[j]? = some e' → e'.1.test c = .done false

theorem newest_of_serving? (hp : h.Pure) {e : (CallMatcher × Answer) × Nat} (he : serving? h c = some e) :
    Newest h c e := by
  have hposition := registered_of_serving? he
  obtain ⟨haccepts, newer, older, hsplit, hnewer⟩ := List.find?_eq_some_iff_append.mp he
  have htest : ∀ e' ∈ History.registered h, e'.1.test c = .done (e'.1.admits c) :=
    fun e' he' => CallMatcher.test_eq_admits (hp.registered _ e' he') c
  refine ⟨hposition, by rw [htest _ (List.mem_of_getElem? hposition), haccepts], fun j e' hj he' => ?_⟩
  have hordered : (History.registered h).zipIdx.reverse.Pairwise fun x y => y.2 < x.2 := by
    rw [List.pairwise_reverse, ← List.pairwise_map, List.zipIdx_map_snd]
    exact List.pairwise_lt_range'
  rw [hsplit, List.pairwise_append] at hordered
  have hmem : (e', j) ∈ newer ++ e :: older := by
    rw [← hsplit, List.mem_reverse]
    exact List.mem_zipIdx_iff_getElem?.mpr he'
  rw [htest e' (List.mem_of_getElem? he')]
  rcases List.mem_append.mp hmem with hmem | hmem
  · simpa using hnewer _ hmem
  · rcases List.mem_cons.mp hmem with rfl | hmem
    · exact absurd hj (Nat.lt_irrefl _)
    · exact absurd hj (Nat.lt_asymm (List.rel_of_pairwise_cons hordered.2.1 hmem))

theorem refused_of_serving? (hp : h.Pure) (hn : serving? h c = none) :
    ∀ e ∈ registered h, e.1.test c = .done false := by
  intro e he
  obtain ⟨j, hj⟩ := List.mem_iff_getElem?.mp he
  have := List.find?_eq_none.mp hn (e, j) (List.mem_reverse.mpr (List.mem_zipIdx_iff_getElem?.mpr hj))
  rw [CallMatcher.test_eq_admits (hp.registered _ e he), Bool.eq_false_iff.mpr this]

theorem entries_register (matcher : CallMatcher) (answer : Answer) : entries base (.register matcher answer :: h) =
    entries base h ++ [⟨base + (registered h).length, matcher, answer, 0⟩] := by
  simp [entries, registered, served, List.zipIdx_append, served_of_length_le h (Nat.le_refl _)]

/-- Only the entry that serves the call counts it. -/
theorem entries_call (log : Bool) : entries base (.call c log :: h) =
    match serving? h c with
    | some e => (entries base h).map fun x => if x.id == base + e.2 then { x with hits := x.hits + 1 } else x
    | none => entries base h := by
  cases hs : serving? h c with
  | none => simp [entries, registered, served, hs]
  | some e =>
      simp only [entries, registered, served, hs, List.map_map]
      refine List.map_congr_left fun x _ => ?_
      by_cases hx : x.2 = e.2
      · simp [hx]
      · simp [hx, Ne.symm hx]

theorem find?_entries {e : (CallMatcher × Answer) × Nat} (he : (registered h)[e.2]? = some e.1) :
    (entries base h).find? (·.id == base + e.2) = some ⟨base + e.2, e.1.1, e.1.2, served e.2 h⟩ := by
  have hnumber : ((·.id == base + e.2) ∘ fun x : (CallMatcher × Answer) × Nat =>
      (⟨base + x.2, x.1.1, x.1.2, served x.2 h⟩ : Entry)) = fun x => x.2 == e.2 := by
    funext x
    rw [Function.comp_apply, Bool.eq_iff_iff, beq_iff_eq, beq_iff_eq]
    exact Nat.add_left_cancel_iff
  have hmem : e ∈ (registered h).zipIdx := List.mem_zipIdx_iff_getElem?.mpr he
  obtain ⟨x, hx⟩ := Option.isSome_iff_exists.mp
    (List.find?_isSome (p := fun x => x.2 == e.2).mpr ⟨e, hmem, beq_self_eq_true e.2⟩)
  -- A position stands for one registration only.
  have hsame : x = e := by
    have hposition : x.2 = e.2 := by simpa using List.find?_some hx
    have hx1 := List.mem_zipIdx_iff_getElem?.mp (List.mem_of_find?_eq_some hx)
    rw [hposition, he] at hx1
    exact Prod.ext (Option.some.inj hx1).symm hposition
  rw [entries, List.find?_map, hnumber, hx, hsame, Option.map_some]

end History

/-! ## The table along a history -/

/-- The mock and the slots after the events. Entries are numbered from `base` on; `captures` is what the slots
held before. -/
structure History.Shown (mock base : Nat) (log : List LoggedCall) (captures : Matcher.Captures) (h : History)
    (s : Store) : Prop where
  stub : ∃ stub, s.registry.stub? mock = some stub ∧ stub.entries = History.entries base h ∧
    stub.nextEntry = base + (History.registered h).length ∧ stub.log = log
  captures : s.captures = captures ++ History.kept h

namespace History.Shown

variable {mock base : Nat} {log : List LoggedCall} {captures : Matcher.Captures} {h : History} {s : Store}

theorem register (hs : Shown mock base log captures h s) (matcher : CallMatcher) (answer : Answer) :
    Shown mock base log captures (.register matcher answer :: h) (s.modify mock (·.addAnswer matcher answer)) where
  stub := by
    obtain ⟨stub, hfound, hentries, hnext, hlog⟩ := hs.stub
    refine ⟨stub.addAnswer matcher answer, Store.stub?_modify hfound fun _ => rfl, ?_, ?_, hlog⟩
    · rw [entries_register, ← hentries, ← hnext]
      rfl
    · rw [registered, List.length_append, ← Nat.add_assoc, ← hnext]
      rfl
  captures := hs.captures

theorem addCall (hs : Shown mock base log captures h s) (c : Call) :
    Shown mock base (log ++ [{ call := c }]) captures h (s.modify mock (·.addCall c)) where
  stub := by
    obtain ⟨stub, hfound, hentries, hnext, hlog⟩ := hs.stub
    exact ⟨stub.addCall c, Store.stub?_modify hfound fun _ => rfl, hentries, hnext, by rw [Stub.addCall, hlog]⟩
  captures := hs.captures

/-- The newest accepting entry serves the call with its turn, and counts it. -/
theorem select (hs : Shown mock base log captures h s) (hp : h.Pure) (c : Call) (logs : Bool) (n : Nat) : ∃ s',
    s.selectAnswer mock c (n + 1) = ((serving? h c).map fun e => e.1.2.select (served e.2 h), s') ∧
      Shown mock base log captures (.call c logs :: h) s' := by
  obtain ⟨stub, hfound, hentries, hnext, hlog⟩ := hs.stub
  have htest : ∀ e ∈ stub.candidates, e.matcher.test c = .done (e.matcher.admits c) := by
    intro e he
    rw [Stub.candidates, List.mem_reverse, hentries, entries] at he
    obtain ⟨x, hx, rfl⟩ := List.mem_map.mp he
    exact CallMatcher.test_eq_admits (hp.registered _ x.1 (List.mem_of_getElem? (List.mem_zipIdx_iff_getElem?.mp hx))) c
  obtain ⟨found, hprobe, hnewest⟩ := Probe.findIdx?_eq htest
  have hserving : found.map (·.2) =
      (serving? h c).map fun e => (⟨base + e.2, e.1.1, e.1.2, served e.2 h⟩ : Entry) := by
    rw [hnewest, Stub.candidates, hentries, entries, ← List.map_reverse, List.find?_map]
    rfl
  have hcandidates : ((s.registry.stub? mock).map Stub.candidates).getD [] = stub.candidates := by
    rw [hfound, Option.map_some, Option.getD_some]
  rw [Store.selectAnswer, hcandidates]
  dsimp only
  rw [hprobe, Store.probe]
  cases he : serving? h c with
  | none =>
      rw [he, Option.map_none, Option.map_eq_none_iff] at hserving
      subst hserving
      refine ⟨s, rfl, ⟨stub, hfound, ?_, hnext, hlog⟩, ?_⟩
      · rw [hentries, entries_call, he]
      · simpa [kept, he] using hs.captures
  | some e =>
      rw [he, Option.map_some] at hserving
      obtain ⟨⟨i, candidate⟩, rfl, hcandidate⟩ := Option.map_eq_some_iff.mp hserving
      dsimp only at hcandidate
      subst hcandidate
      have hposition := registered_of_serving? he
      have hentry : (s.registry.stub? mock).bind (·.entryOf? (base + e.2)) =
          some ⟨base + e.2, e.1.1, e.1.2, served e.2 h⟩ := by
        rw [hfound, Option.bind_some, Stub.entryOf?, hentries, find?_entries hposition]
      have hkept := CallMatcher.captures_eq_kept
        (hp.registered _ e.1 (List.mem_of_getElem? hposition)) c
      dsimp only
      rw [hentry]
      dsimp only
      rw [hkept, Store.probe]
      refine ⟨_, rfl, ⟨stub.hit (base + e.2), Store.stub?_modify hfound fun _ => rfl, ?_, hnext, hlog⟩, ?_⟩
      · rw [entries_call, he, Stub.hit, hentries]
      · simp [Store.keep, Store.modify, kept, he, hs.captures]

/-- A call is logged if asked for, then served. -/
theorem resolve (hs : Shown mock base log captures h s) (hp : h.Pure) (c : Call) (logs : Bool) : ∃ s',
    s.resolve mock c logs = ((serving? h c).map fun e => e.1.2.select (served e.2 h), s') ∧
      Shown mock base (log ++ if logs then [{ call := c }] else []) captures (.call c logs :: h) s' := by
  rw [Store.resolve]
  cases logs with
  | true => exact (hs.addCall c).select hp c true _
  | false => simpa using hs.select hp c false _

end History.Shown

namespace History

/-- The log after the events, where it was `log` before. -/
def logAfter (log : List LoggedCall) (h : History) : List LoggedCall :=
  log ++ (logged h).map fun c => { call := c }

theorem logAfter_call (log : List LoggedCall) (h : History) (c : Call) (logs : Bool) :
    logAfter log (.call c logs :: h) = logAfter log h ++ if logs then [{ call := c }] else [] := by
  cases logs <;> simp [logAfter, logged]

variable {mock : Nat} {s : Store} {stub : Stub}

/-- A whole run, from an empty table. -/
theorem shown_run (hfound : s.registry.stub? mock = some stub) (hempty : stub.entries = []) : (h : History) →
    h.Pure → Shown mock stub.nextEntry (logAfter stub.log h) s.captures h (run mock s h)
  | [], _ => ⟨⟨stub, hfound, hempty, rfl, by simp [logAfter, logged]⟩, by simp [run, kept]⟩
  | .register matcher answer :: h, hp => (shown_run hfound hempty h hp.tail).register matcher answer
  | .call c logs :: h, hp => by
      obtain ⟨s', hres, hshown⟩ := (shown_run hfound hempty h hp.tail).resolve hp.tail c logs
      have hrun : run mock s (.call c logs :: h) = s' := congrArg Prod.snd hres
      rw [hrun, logAfter_call]
      exact hshown

theorem unused_entries (stub : Stub) (base : Nat) (hentries : stub.entries = entries base h) :
    stub.unused = ((registered h).zipIdx.filter fun e => served e.2 h == 0).map fun e => e.1.1.text := by
  rw [Stub.unused, hentries, entries, List.filter_map, List.map_map]
  rfl

/-- Whatever has been registered and called so far, the newest entry that accepts a call serves it, and gives
the answer whose turn it is. Every entry counts the calls it served, the slots hold what the serving matchers
captured, and the log has every call that was to be logged. -/
theorem run_serves (mock : Nat) (s : Store) (stub : Stub) (hfound : s.registry.stub? mock = some stub)
    (hempty : stub.entries = []) (h : History) (hp : h.Pure) : ∃ now,
    (run mock s h).registry.stub? mock = some now ∧
    (now.entries = (registered h).zipIdx.map fun e => ⟨stub.nextEntry + e.2, e.1.1, e.1.2, served e.2 h⟩) ∧
    (now.unused = ((registered h).zipIdx.filter fun e => served e.2 h == 0).map fun e => e.1.1.text) ∧
    now.log = stub.log ++ (logged h).map (fun c => { call := c }) ∧
    (run mock s h).captures = s.captures ++ kept h ∧
    ∀ c logs, ∃ answer? s', (run mock s h).resolve mock c logs = (answer?, s') ∧
      match serving? h c with
      | some e => Newest h c e ∧ (∃ a, answer? = some a ∧ e.1.2.Turn (served e.2 h) a) ∧
          e.1.1.captures c = .done (e.1.1.kept c) ∧ s'.captures = (run mock s h).captures ++ e.1.1.kept c
      | none => (∀ e ∈ registered h, e.1.test c = .done false) ∧ answer? = none ∧
          s'.captures = (run mock s h).captures ∧
          (s'.registry.stub? mock).map Stub.entries = some now.entries := by
  have hshown := shown_run hfound hempty h hp
  obtain ⟨now, hnow, hentries, -, hlog⟩ := hshown.stub
  refine ⟨now, hnow, hentries, unused_entries now _ hentries, hlog, hshown.captures, fun c logs => ?_⟩
  obtain ⟨s', hres, hafter⟩ := hshown.resolve hp c logs
  refine ⟨_, s', hres, ?_⟩
  cases he : serving? h c with
  | some e =>
      have hpure := hp.registered _ e.1 (List.mem_of_getElem? (registered_of_serving? he))
      refine ⟨newest_of_serving? hp he, ⟨_, rfl, Answer.turn_select _ _⟩, CallMatcher.captures_eq_kept hpure c, ?_⟩
      rw [hafter.captures, hshown.captures, kept, he, Option.map_some, Option.getD_some, List.append_assoc]
  | none =>
      obtain ⟨after, hfound', hentries', -⟩ := hafter.stub
      refine ⟨refused_of_serving? hp he, rfl, ?_, ?_⟩
      · rw [hafter.captures, hshown.captures, kept, he, Option.map_none, Option.getD_none, List.append_nil]
      · rw [hfound', Option.map_some, hentries', entries_call, he, hentries]

/-- A call that looks up a number. -/
def lookup (n : Int32) : Call :=
  ⟨⟨1, "Service"⟩, { name := "lookup", params := [.int], returns := .int }, [.int n], 0, none⟩

def lookupOf (m : Matcher) : CallMatcher := { CallMatcher.exact (lookup 0) with args := [m] }

def service : Stub := { object := ⟨1, "Service"⟩, kind := .strict }

/-- Two answers in turn for the number 5, which is kept in a slot, and one answer for all other numbers. -/
def lookups : History :=
  [.call (lookup 5) true, .call (lookup 7) false, .call (lookup 5) true,
    .register (lookupOf (.capture 3 (.eq (.int 5)))) (.sequence [.constant (.int 1), .constant (.int 2)]),
    .register (lookupOf .any) (.constant (.int 0))]

theorem run_serves_lookups : lookups.Pure ∧ ∃ now s',
    (run 1 { registry := ⟨[service]⟩ } lookups).registry.stub? 1 = some now ∧ now.entries.map (·.hits) = [1, 2] ∧
    now.log.map (·.call.args) = [[.int 5], [.int 5]] ∧
    (run 1 { registry := ⟨[service]⟩ } lookups).captures = [(3, .int 5), (3, .int 5)] ∧
    (run 1 { registry := ⟨[service]⟩ } lookups).resolve 1 (lookup 5) true = (some (.constant (.int 2)), s') := by
  have hp : lookups.Pure := by
    intro e he
    simp only [lookups, List.mem_cons, List.not_mem_nil, or_false] at he
    rcases he with rfl | rfl | rfl | rfl | rfl <;>
      simp [TestDouble.TableEvent.Pure, lookupOf, Matcher.PureEach, Matcher.Pure]
  obtain ⟨now, hnow, hentries, -, hlog, hcaptures, hnext⟩ :=
    run_serves 1 { registry := ⟨[service]⟩ } service rfl rfl lookups hp
  obtain ⟨answer?, s', hres, hserved⟩ := hnext (lookup 5) true
  have hserving : serving? lookups (lookup 5) = some ((lookupOf (.capture 3 (.eq (.int 5))),
      .sequence [.constant (.int 1), .constant (.int 2)]), 1) := rfl
  rw [hserving] at hserved
  obtain ⟨-, ⟨a, rfl, hturn⟩, -⟩ := hserved
  cases hturn with
  | inSequence ha => cases ha; exact ⟨hp, now, s', hnow, by rw [hentries]; rfl, by rw [hlog]; rfl, hcaptures, hres⟩
  | alone h => exact absurd rfl (h _)

/-- A sequence without answers is not given as it is: the call returns unit. -/
theorem run_serves_nothing : serving? [.register (lookupOf .any) (.sequence [])] (lookup 5) =
      some ((lookupOf .any, .sequence []), 0) ∧
    ((run 1 { registry := ⟨[service]⟩ } [.register (lookupOf .any) (.sequence [])]).resolve 1 (lookup 5) true).1 =
      some (.constant .unit) ∧ Answer.constant .unit ≠ .sequence [] :=
  ⟨rfl, rfl, nofun⟩

end History

end TestDouble
