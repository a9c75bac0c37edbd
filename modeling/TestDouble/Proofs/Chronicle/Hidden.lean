import TestDouble.Proofs.Chronicle.Tracking
import TestDouble.Proofs.Session.Hiding
import TestDouble.Proofs.Session.Unlogged

/-!
# Hidden calls

A statement that hides calls hides those that it describes, and nothing else. What is verified or confirmed later on
ends as if these calls had never been logged.
-/

namespace TestDouble

namespace Chronicle

theorem Agrees.conceals {t t' : Chronicle} {s s' : Store} (h : t.Agrees s) (h' : t'.Agrees s') (hsuffix : t <:+ t')
    {numbers : List Nat}
    (hnumbers : ∀ n ∈ numbers, ∃ x ∈ s.registry.stubs, ∃ l ∈ x.log, l.excluded = true ∧ l.call.sequence = n) :
    s'.Conceals numbers := by
  intro y hy k hk hn
  obtain ⟨x, hx, l, hl, hexcluded, hsequence⟩ := hnumbers _ hn
  rw [h.log x hx] at hl
  rw [h'.log y hy] at hk
  have hcall := h'.ordered.eq_of_sequence ((calls_suffix hsuffix).subset (mem_log hl).1) (mem_log hk).1 hsequence
  have hid : x.id = y.id := by rw [← (mem_log hl).2, hcall, (mem_log hk).2]
  rw [hid] at hl
  exact (has_of_suffix h'.ordered hsuffix hl hk hsequence).2 .excluded hexcluded

end Chronicle

/-- The calls that have been hidden are hidden in the store. -/
theorem Store.ListsVisible.exists_excluded {s s' : Store} {p : Call → Bool} {numbers : List Nat}
    (h : s.ListsVisible p numbers) (hs : (s.hideWhere p).Spent s') :
    ∀ n ∈ numbers, ∃ x ∈ s'.registry.stubs, ∃ l ∈ x.log, l.excluded = true ∧ l.call.sequence = n := by
  intro n hn
  obtain ⟨x, hx, l, hl, -, hp, rfl⟩ := (h.mem n).mp hn
  rw [hs.registry]
  exact ⟨x.hideWhere p, List.mem_map_of_mem hx, _, List.mem_map_of_mem hl, by rw [hp, Bool.or_true], rfl⟩

namespace Program

variable {μ : Type}

/-! ## Runs after runs -/

theorem eq_ok_of_toOption {ε α β : Type} {r : Except ε α × β} {a : α} (h : r.1.toOption = some a) :
    r = (.ok a, r.2) := by
  obtain ⟨_ | b, s⟩ := r
  · cases h
  · cases h
    rfl

/-- A world that a program has led to, as a watched one. -/
theorem exists_watched (before : Program μ) (hbefore : before.Manages) {w₀ : World μ} (hw₀ : w₀.Fresh) :
    ∃ u : World (Log (Watched μ)), u.Told [] [] ∧
      u.forget = (before.run.runOn { w₀ with memory := { memory := w₀.memory } }).2 := by
  have hrun := before.watch_forgets { w₀ with memory := { memory := { memory := w₀.memory } } }
  exact ⟨_, (before.watch_told hbefore [] _ hw₀.told).world, (congrArg Prod.snd hrun).symm⟩

theorem watched_excludeRecords (i : Nat) {p : Program μ} (hp : p.Manages) {u : World (Log (Watched μ))}
    (hu : u.Told [] []) : ∃ u' : World (Log (Watched μ)), u'.Told [] [] ∧
      u'.forget = ((Act.excludeRecords i (Act.inBlock i p.run)).runOn u.forget).2 := by
  have hblock : (Act.inBlock i p.watch).Preserves (World.Told [] []) :=
    .inBlock World.Told.keptByNotes (p.watch_told hp []) i
  have hrun := Act.Forgets.statement (i := i) (.inBlock p.watch_forgets i) Statement.excludeRecords u
  exact ⟨_, (Act.statement_watched_preserves hblock Statement.excludeRecords u hu).world, (congrArg Prod.snd hrun).symm⟩

/-- What has been told is still told after another run. -/
theorem watched_later {later : Program μ} (hlater : later.Manages) {u : World (Log (Watched μ))} (hu : u.Told [] []) :
    ∃ v : World (Log (Watched μ)), v.Told [] [] ∧ u.chronicle <:+ v.chronicle ∧
      v.forget = (later.run.runOn u.forget).2 :=
  ⟨_, (later.watch_told hlater [] u hu).world, later.watch_extends u,
    (congrArg Prod.snd (later.watch_forgets u)).symm⟩

/-- Whatever has been done before, from a world without calls: if a block hides calls, it hides the visible ones that it
describes, each of which is counted once, and leaves the mocks as they were otherwise. As long as it describes nothing
new, it hides nothing more. Whatever is done later, every verification and every confirmation then ends the same, with
the same report, as if the hidden calls had not been logged. -/
theorem hidden_calls_disappear (before : Program μ) (hbefore : before.Manages) (w₀ : World μ) (hw₀ : w₀.Fresh) (i : Nat)
    (p : Program μ) (hrecords : p.OnlyRecords i true) (hp : p.Manages) :
    let w := (before.run.runOn { w₀ with memory := { memory := w₀.memory } }).2
    ∀ n w', (Act.excludeRecords i (Act.inBlock i p.run)).runOn w = (.ok n, w') →
      ∃ res numbers, Act.ResolvesTo i (Act.inBlock i p.run) w res ∧
        n = numbers.length ∧ w.store.ListsVisible (res.describes w.store) numbers ∧
        (w.store.hideWhere (res.describes w.store)).Spent w'.store ∧
        (∀ n' w'' res', (Act.excludeRecords i (Act.inBlock i p.run)).runOn w' = (.ok n', w'') →
          Act.ResolvesTo i (Act.inBlock i p.run) w' res' →
          (∀ x ∈ w.store.registry.stubs, ∀ l ∈ x.log,
            res'.describes w'.store l.call = true → res.describes w.store l.call = true) →
          n' = 0 ∧ w'.store.Spent w''.store) ∧
        ∀ later : Program μ, later.Manages →
          let v := (later.run.runOn w').2
          (∀ r res', res'.Pure → ∀ notCalled, (Act.evaluate r res' notCalled).runOn (v.without numbers) =
            (((Act.evaluate r res' notCalled).runOn v).1, ((Act.evaluate r res' notCalled).runOn v).2.without numbers)) ∧
          ∀ mocks, (Act.confirmVerified mocks).runOn (v.without numbers) =
            (((Act.confirmVerified mocks).runOn v).1, ((Act.confirmVerified mocks).runOn v).2.without numbers) := by
  intro w n w' hrun
  obtain ⟨u, hu, hforget⟩ := exists_watched before hbefore hw₀
  have hlogged : w.store.WellLogged := by
    have hstore : u.store = w.store := congrArg World.store hforget
    exact hstore ▸ hu.agrees.wellLogged
  obtain ⟨res, hres, hhidden, numbers, hnumbers, hn⟩ := Act.excludeRecords_hides hrecords hlogged hrun
  refine ⟨res, numbers, hres, hn, hnumbers, hhidden, fun n' w'' res' hrun' hres' hsame => ?_, fun later hlater => ?_⟩
  · exact Act.excludeRecords_again hrecords hlogged hhidden hres' hsame hrun'
  · obtain ⟨u', hu', hforget'⟩ := watched_excludeRecords i hp hu
    rw [hforget, hrun] at hforget'
    obtain ⟨v, hv, hextends, hforgetLater⟩ := watched_later hlater hu'
    rw [hforget'] at hforgetLater
    rw [← hforgetLater]
    have hstore : u'.store = w'.store := congrArg World.store hforget'
    have hconceals : v.forget.store.Conceals numbers :=
      hu'.agrees.conceals hv.agrees hextends (hstore ▸ hnumbers.exists_excluded hhidden)
    exact ⟨fun r res' hres' notCalled => Act.evaluate_without hconceals r hres' notCalled,
      fun mocks => Act.confirmVerified_without hconceals mocks⟩

/-- Three numbers are added, two of them to two. -/
def adds : Program Unit :=
  useStore (fun s => s.create "Calculator" .relaxed) fun calculator =>
    call 0 calculator add [.int 1, .int 2] fun _ => call 0 calculator add [.int 1, .int 3] fun _ =>
      call 0 calculator add [.int 4, .int 2] fun _ => done (.ok .unit)

theorem adds_manages : adds.Manages := ⟨fun s => (s.create_keepsLogs _ _).manages, fun _ _ _ _ => trivial⟩

theorem addTwo_manages : addTwo.Manages := fun r => by
  cases r with
  | ok n => exact fun _ => trivial
  | error e => trivial

/-- Two calls are hidden. To hide them again hides nothing, as the block describes the same calls as before. When one
like them has been made, verifications and confirmations see that one only. -/
theorem hidden_calls_disappear_adds :
    let w₀ : World Unit := { sessions := [{ generator := .ofSeed none }], depth := 1, memory := () }
    let w := (adds.run.runOn { w₀ with memory := { memory := w₀.memory } }).2
    let hide := Act.excludeRecords 0 (Act.inBlock 0 addTwo.run)
    let hidden := hide.runOn w
    let repeated := hide.runOn hidden.2
    let again : Program Unit := call 0 ⟨1, "Calculator"⟩ add [.int 5, .int 2] fun _ => done (.ok .unit)
    let v := (again.run.runOn hidden.2).2
    hidden.1.toOption = some 2 ∧ repeated.1.toOption = some 0 ∧ hidden.2.store.Spent repeated.2.store ∧
      ∃ numbers : List Nat, numbers.length = 2 ∧
        (∀ r res, res.Pure → ∀ notCalled, (Act.evaluate r res notCalled).runOn (v.without numbers) =
          (((Act.evaluate r res notCalled).runOn v).1, ((Act.evaluate r res notCalled).runOn v).2.without numbers)) ∧
        ∀ mocks, (Act.confirmVerified mocks).runOn (v.without numbers) =
          (((Act.confirmVerified mocks).runOn v).1, ((Act.confirmVerified mocks).runOn v).2.without numbers) := by
  intro w₀ w hide hidden repeated again v
  have htwo : hidden.1.toOption = some 2 := by decide +kernel
  have hagain : repeated.1.toOption.isSome = true := by decide +kernel
  have hdescribed : ((Act.resolved? 0 (Act.inBlock 0 addTwo.run) w).bind fun res =>
      (Act.resolved? 0 (Act.inBlock 0 addTwo.run) hidden.2).map fun res' =>
        w.store.registry.stubs.all fun x => x.log.all fun l =>
          !res'.describes hidden.2.store l.call || res.describes w.store l.call) = some true := by decide +kernel
  have hw₀ : w₀.Fresh := .of_empty rfl fun _ hs => by cases List.mem_singleton.mp hs; rfl
  have hdisappear := hidden_calls_disappear adds adds_manages w₀ hw₀ 0 addTwo (addTwo_onlyRecords true) addTwo_manages
  -- from here on the runs must not be unfolded
  clear_value w₀
  obtain ⟨res, hres, hdescribed⟩ := Option.bind_eq_some_iff.mp hdescribed
  obtain ⟨res', hres', hdescribed⟩ := Option.map_eq_some_iff.mp hdescribed
  have hsame : ∀ x ∈ w.store.registry.stubs, ∀ l ∈ x.log,
      res'.describes hidden.2.store l.call = true → res.describes w.store l.call = true := by
    intro x hx l hl hdescribes
    have hl := List.all_eq_true.mp (List.all_eq_true.mp hdescribed x hx) l hl
    rwa [hdescribes, Bool.not_true, Bool.false_or] at hl
  obtain ⟨n', hn'⟩ := Option.isSome_iff_exists.mp hagain
  obtain ⟨res₀, numbers, hres₀, hn, -, -, hrepeat, hlater⟩ := hdisappear 2 hidden.2 (eq_ok_of_toOption htwo)
  cases hres₀.eq (Act.resolvesTo_iff.mpr hres)
  obtain ⟨rfl, hspent⟩ :=
    hrepeat n' repeated.2 res' (eq_ok_of_toOption hn') (Act.resolvesTo_iff.mpr hres') hsame
  exact ⟨htwo, hn', hspent, numbers, hn.symm, hlater again fun _ => trivial⟩

/-! ## Hiding again -/

def adopt : Method := { name := "adopt", params := [.object "Tree", .object "Tree"], returns := .unit }

/-- A garden adopts two trees, each of them twice. -/
def adopts : Program Unit :=
  let tree (id : Nat) : Value := .object ⟨id, "Tree"⟩
  useStore (fun s => s.create "Garden" .relaxed) fun garden =>
    call 0 garden adopt [tree 3, tree 3] fun _ => call 0 garden adopt [tree 5, tree 5] fun _ => done (.ok .unit)

/-- Any tree is adopted twice. -/
def adoptsAny : Program Unit :=
  command 0 (.registerMatcher .any (.object "Tree")) fun
    | .ok tree => call 0 ⟨1, "Garden"⟩ adopt [tree, tree] fun _ => done (.ok .unit)
    | .error e => done (.error (.mock e))

/-- The second tree is a literal, and another one each time the block is recorded. So what is hidden first is not what
is hidden then. -/
theorem hidden_calls_repeated_adopts :
    adopts.Manages ∧ adoptsAny.Manages ∧ adoptsAny.OnlyRecords 0 true ∧
      let w₀ : World Unit := { sessions := [{ generator := .ofSeed none }], depth := 1, memory := () }
      let hide := Act.excludeRecords 0 (Act.inBlock 0 adoptsAny.run)
      let first := hide.runOn (adopts.run.runOn { w₀ with memory := { memory := w₀.memory } }).2
      let second := hide.runOn first.2
      first.1.toOption = some 1 ∧ second.1.toOption = some 1 := by
  refine ⟨⟨fun s => (s.create_keepsLogs _ _).manages, fun _ _ _ => trivial⟩, fun r => ?_, ⟨rfl, ?_, fun r => ?_⟩, ?_⟩
  · cases r with
    | ok tree => exact fun _ => trivial
    | error e => trivial
  · simp only [Command.Records, Matcher.Pure]
  · cases r with
    | ok tree => exact ⟨rfl, fun _ => trivial⟩
    | error e => trivial
  · decide +kernel

end Program

end TestDouble
