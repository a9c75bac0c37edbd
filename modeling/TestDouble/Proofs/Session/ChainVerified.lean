import TestDouble.Proofs.Session.Expecting
import TestDouble.Proofs.Session.Walking

/-!
# Verifying a chain

A chain is verified on the mock that its links lead to. Where they lead to no mock there are no calls.
-/

namespace TestDouble

/-! ## The last call -/

namespace CallMatcher

variable {m : CallMatcher}

theorem isNotCalled_replaceObject (old : Nat) (new : ObjectRef) :
    (m.replaceObject old new).isNotCalled = m.isNotCalled := by
  obtain ⟨target, method, args⟩ := m
  match args with
  | [] => rfl
  | [a] =>
      cases a with
      | eq v => cases v <;> rfl
      | _ => rfl
  | _ :: _ :: _ => simp [isNotCalled, replaceObject, Matcher.replaceObjectEach]

theorem isNotCalled_apply (links : Links) (m : CallMatcher) : (links.apply m).isNotCalled = m.isNotCalled := by
  induction links generalizing m with
  | nil => rfl
  | cons l links ih => exact (ih (m.replaceObject l.1 l.2)).trans (isNotCalled_replaceObject l.1 l.2)

end CallMatcher

namespace Act

variable {σ : Type} {req : Request} {res : Resolution} {last : ResolvedCall} {o : ObjectRef}

/-- To verify a chain, in any run, is to count the visible calls in the window on the mock that its links lead to, as
far as the last call, with the links replaced, accepts them. If the links lead to no mock, none is counted and no mock is
missed. A last call that states that there were no calls is judged by itself, whatever the bounds. -/
theorem finalizeVerification_chain (i : Nat) {w : World σ} (hw : w.Traced [])
    (hphase : (w.session i).phase = .verifying) (hrequest : (w.session i).request = some req)
    (hres : (w.session i).resolution = some res) (hnotCalled : (w.session i).notCalled = []) (hpure : res.Pure)
    (horder : req.order = .unordered) (hinverse : req.inverse = false) (hchain : res.Chain last o) :
    let result := ((finalizeVerification i).runOn w).1
    let verdict (n : Nat) : Bool := if last.matcher.isNotCalled then n == 0 else req.countOk n
    (∀ t m, res.walk? w.store.registry o [] = some (t, m) →
      (∀ stub, w.store.registry.stub? t.id = some stub → ∃ report : Report,
        report.passed = verdict (stub.visible.countP fun c => req.window.contains c.sequence && m.admits c) ∧
          result = if report.passed then .ok report else .error (.verificationFailed report)) ∧
      (w.store.registry.stub? t.id = none → result = .error (.unknown t.id))) ∧
    (res.walk? w.store.registry o [] = none → ∃ report : Report,
      report.actual = [] ∧ report.passed = verdict 0 ∧
        result = if report.passed then .ok report else .error (.verificationFailed report)) := by
  intro result verdict
  have htraced := (hw.sessions i).resolution res hres
  have hlinking := htraced.linking hchain
  have hlead : Links.lead [] o = o := rfl
  have hnodup : (([] : Links).map (·.1) ++ (res.filterMap ResolvedCall.linkObject?).map (·.id)).Nodup :=
    htraced.links_nodup
  have hpures := (hpure.linked w.store.registry []).topLevel.matchers
  have hverdict (links : Links) (n : Nat) :
      Verification.countSuits req (links.apply last.matcher) n = verdict n := by
    rw [Verification.countSuits, CallMatcher.isNotCalled_apply]
  constructor
  · intro t m hwalk
    obtain ⟨hmatchers, hdetached, htarget, links, hm⟩ := hchain.linked_of_walk hlinking hlead hnodup hwalk
    have hexpects : Expects i w req res m :=
      ⟨hphase, hrequest, hres, hnotCalled, horder, hinverse, hmatchers, hpures m (by rw [hmatchers]; exact .head _)⟩
    have hmocks : examined w res m = [t.id] := by
      rw [examined, hdetached, htarget]
      rfl
    refine ⟨fun stub hstub => ?_, hexpects.unknown hmocks⟩
    obtain ⟨report, hpassed, -, hrun⟩ := hexpects.judged fun mock hmock => by
      rw [hmocks] at hmock
      cases List.mem_singleton.mp hmock
      rw [hstub]
      rfl
    refine ⟨report, ?_, hrun⟩
    rw [hpassed, hmocks, hm, hverdict, countP_mergedLog hstub]
  · intro hwalk
    obtain ⟨links, hmatchers, hdetached⟩ := hchain.linked_of_stop hlinking hlead hnodup
      (fun c hc y hy => (htraced.apart hc (ResolvedCall.returned_of_linkObject? hy)).2) hwalk
    have hexpects : Expects i w req res (links.apply last.matcher) :=
      ⟨hphase, hrequest, hres, hnotCalled, horder, hinverse, hmatchers, hpures _ (by rw [hmatchers]; exact .head _)⟩
    have hmocks : examined w res (links.apply last.matcher) = [] :=
      List.filter_cons_of_neg (by simpa using hdetached)
    obtain ⟨report, hpassed, hactual, hrun⟩ := hexpects.judged (by rw [hmocks]; exact nofun)
    rw [hmocks] at hpassed hactual
    exact ⟨report, hactual, hpassed.trans (hverdict links 0), hrun⟩

end Act

/-! ## A growing child -/

theorem ObjectRef.eq_of {o p : ObjectRef} (hid : o.id = p.id) (hclass : o.className = p.className) : o = p := by
  cases o
  cases p
  cases hid
  cases hclass
  rfl

namespace Program

/-- The tree's child grows. -/
def growChild : Program Nat :=
  call 0 ⟨1, "Tree"⟩ childMethod [] fun
    | .ok (.object x) => call 0 x grow [] fun _ => done (.ok .unit)
    | _ => done (.ok .unit)

/-- Once the child has been stubbed it grows twice, and that is to be verified. -/
def growTwice : Program Nat :=
  statement 0 .every growChild fun _ => command 0 (.finish (.constant .unit)) fun _ =>
    call 0 ⟨1, "Tree"⟩ childMethod [] fun
      | .ok (.object c) => call 0 c grow [] fun _ => call 0 c grow [] fun _ =>
          command 0 (.beginVerification (({} : Request).times 2)) fun _ =>
            statement 0 .runRecordedBlock growChild fun _ => done (.ok .unit)
      | _ => done (.ok .unit)

theorem uses_growChild : growChild.Uses Store.Evolves := by
  intro r
  dsimp only
  split
  · exact fun _ => trivial
  · trivial

theorem uses_growTwice : growTwice.Uses Store.Evolves := by
  refine ⟨uses_growChild, fun _ _ r => ?_⟩
  dsimp only
  split
  · exact fun _ _ _ => ⟨uses_growChild, fun _ => trivial⟩
  · trivial

/-- What a recorded block says of its calls: on what they are made, which objects they have returned, and how many
arguments they have. -/
def recordedLinks (w : World (Log Nat)) : List ((Nat × String) × Option (Nat × String) × Nat) :=
  ((w.session 0).resolution.getD []).map fun c => ((c.matcher.target.id, c.matcher.target.className),
    c.returned.object?.map fun x => (x.id, x.className), c.matcher.args.length)

def grownTwice : World (Log Nat) := (growTwice.run.runOn garden).2

/-- Where the links lead, and how many calls count there. -/
def counted (w : World (Log Nat)) : Option (Nat × Option (List String × Nat)) :=
  (((w.session 0).resolution.getD []).walk? w.store.registry ⟨1, "Tree"⟩ []).map fun p =>
    (p.1.id, (w.store.registry.stub? p.1.id).map fun stub => (stub.visible.map (·.text),
      stub.visible.countP fun c => (({} : Request).times 2).window.contains c.sequence && p.2.admits c))

/-- The links lead to the child, where two calls count. -/
theorem finalizeVerification_chain_grown : ∃ res t m stub, (grownTwice.session 0).resolution = some res ∧
    res.walk? grownTwice.store.registry ⟨1, "Tree"⟩ [] = some (t, m) ∧ t.id = 5 ∧
    grownTwice.store.registry.stub? t.id = some stub ∧
    stub.visible.map (·.text) = ["Tree#5.grow()", "Tree#5.grow()"] ∧
    ∃ report, ((Act.finalizeVerification 0).runOn grownTwice).1 = .ok report := by
  have hrecorded : recordedLinks grownTwice = [((1, "Tree"), some (7, "Tree"), 0), ((7, "Tree"), none, 0)] := by
    decide +kernel
  have hsession : ((grownTwice.session 0).resolution.isSome = true ∧ (grownTwice.session 0).phase = .verifying ∧
      (grownTwice.session 0).request = some (({} : Request).times 2) ∧
      (grownTwice.session 0).notCalled.isEmpty = true) := by decide +kernel
  have hcounted : counted grownTwice = some (5, some (["Tree#5.grow()", "Tree#5.grow()"], 2)) := by decide +kernel
  obtain ⟨htraced, -⟩ := growTwice.run_traced uses_growTwice begins_garden
  rw [← grownTwice] at htraced
  -- From here on nothing is evaluated.
  generalize grownTwice = w at *
  obtain ⟨hsome, hphase, hrequest, hnotCalled⟩ := hsession
  obtain ⟨res, hres⟩ := Option.isSome_iff_exists.mp hsome
  rw [recordedLinks, hres, Option.getD_some] at hrecorded
  rw [counted, hres, Option.getD_some] at hcounted
  obtain ⟨⟨t, m⟩, hwalk, hcounts⟩ := Option.map_eq_some_iff.mp hcounted
  rw [Prod.mk.injEq] at hcounts
  obtain ⟨stub, hstub, hcalls⟩ := Option.map_eq_some_iff.mp hcounts.2
  rw [Prod.mk.injEq] at hcalls
  obtain ⟨c, rest, rfl, hc, hrest⟩ := List.map_eq_cons_iff.mp hrecorded
  obtain ⟨d, rest, rfl, hd, hrest⟩ := List.map_eq_cons_iff.mp hrest
  cases List.map_eq_nil_iff.mp hrest
  simp only [Prod.mk.injEq] at hc hd
  obtain ⟨x, hreturned, hx⟩ := Option.map_eq_some_iff.mp hc.2.1
  rw [Prod.mk.injEq] at hx
  have hchain : Resolution.Chain d ⟨1, "Tree"⟩ [c, d] :=
    .link c (ObjectRef.eq_of hc.1.1 hc.1.2) hreturned
      (.last (ObjectRef.eq_of (hd.1.1.trans hx.1.symm) (hd.1.2.trans hx.2.symm)))
  have hcargs : c.matcher.args = [] := List.length_eq_zero_iff.mp hc.2.2
  have hdargs : d.matcher.args = [] := List.length_eq_zero_iff.mp hd.2.2
  have hpure : Resolution.Pure [c, d] := by
    intro e he
    simp only [List.mem_cons, List.not_mem_nil, or_false] at he
    rcases he with rfl | rfl
    · rw [hcargs]; trivial
    · rw [hdargs]; trivial
  obtain ⟨hreached, -⟩ := Act.finalizeVerification_chain 0 htraced hphase hrequest hres
    (List.isEmpty_iff.mp hnotCalled) hpure rfl rfl hchain
  obtain ⟨report, hpassed, hrun⟩ := (hreached t m hwalk).1 stub hstub
  have hlast : d.matcher.isNotCalled = false := by rw [CallMatcher.isNotCalled, hdargs]
  have htwice : report.passed = true := by
    rw [hpassed, hlast, hcalls.2]
    rfl
  exact ⟨[c, d], t, m, stub, hres, hwalk, hcounts.1, hstub, hcalls.1, report, by rw [hrun, htwice]; rfl⟩

def leaf : Method := { name := "leaf", params := [.int], returns := .int }

/-- That the tree's child has no calls is to be verified, once. -/
def neverLeaf : Program Nat :=
  command 0 (.beginVerification (({} : Request).times 1)) fun _ =>
    statement 0 .runRecordedBlock (call 0 ⟨1, "Tree"⟩ childMethod [] fun
      | .ok (.object x) => command 0 (.registerMatcher .notCalled .int) fun
          | .ok v => call 0 x leaf [v] fun _ => done (.ok .unit)
          | .error e => done (.error (.mock e))
      | _ => done (.ok .unit)) fun _ => done (.ok .unit)

/-- The tree's child is planted, alone in a list. -/
def plantChild : Program Nat :=
  call 0 ⟨1, "Tree"⟩ childMethod [] fun
    | .ok (.object x) => call 0 x plantAll [.list [.object x]] fun _ => done (.ok .unit)
    | _ => done (.ok .unit)

/-- That is done, and is to be verified, once. -/
def plantOnce : Program Nat :=
  statement 0 .every growChild fun _ => command 0 (.finish (.constant .unit)) fun _ =>
    call 0 ⟨1, "Tree"⟩ childMethod [] fun
      | .ok (.object c) => call 0 c plantAll [.list [.object c]] fun _ =>
          command 0 (.beginVerification (({} : Request).times 1)) fun _ =>
            statement 0 .runRecordedBlock plantChild fun _ => done (.ok .unit)
      | _ => done (.ok .unit)

def walked (w : World (Log Nat)) : Option (String × String) :=
  (((w.session 0).resolution.getD []).walk? w.store.registry ⟨1, "Tree"⟩ []).map fun p => (p.1.text, p.2.text)

/-- A last call that states that there were no calls passes although the bounds do not accept none. And an object in a
list is not replaced, so the one call that was made is not accepted. -/
theorem finalizeVerification_chain_apart :
    let unlinked := (neverLeaf.run.runOn garden).2
    let planted := (plantOnce.run.runOn garden).2
    (recordedLinks unlinked = [((1, "Tree"), some (4, "Tree"), 0), ((4, "Tree"), none, 1)] ∧
      (unlinked.session 0).request = some (({} : Request).times 1) ∧ (({} : Request).times 1).countOk 0 = false ∧
      walked unlinked = none ∧ ((Act.finalizeVerification 0).runOn unlinked).1.isOk = true) ∧
    (recordedLinks planted = [((1, "Tree"), some (7, "Tree"), 0), ((7, "Tree"), none, 1)] ∧
      (planted.session 0).request = some (({} : Request).times 1) ∧ (({} : Request).times 1).countOk 1 = true ∧
      walked planted = some ("Tree#5", "Tree#5.plant_all(eq([Tree#7]))") ∧
      (planted.store.registry.stub? 5).map (·.visible.map (·.text)) = some ["Tree#5.plant_all([Tree#5])"] ∧
      ((Act.finalizeVerification 0).runOn planted).1.isOk = false) := by
  decide +kernel

end Program

end TestDouble
