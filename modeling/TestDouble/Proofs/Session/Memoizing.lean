import TestDouble.Proofs.Session.Answering
import TestDouble.Proofs.Stub.Memoizing

/-!
# One child for equal calls

Whichever sessions call a relaxed mock, in whichever order: calls of the same method with equal arguments return the
same child, all others children of their own.
-/

namespace TestDouble

/-- A call to a method that is declared to return objects: the session it goes through, and what is behind the
mock. -/
structure ObjectCall (σ : Type) where
  session : Nat
  method : Method
  className : String
  returns : method.returns = .object className
  args : List Value
  underlying : Option (Underlying σ) := none

namespace ObjectCall

variable {σ : Type}

/-- The same method with equal arguments, through any session. -/
def same (a b : ObjectCall σ) : Bool := a.method == b.method && a.args == b.args

/-- The arguments, as they appear in the text of the matcher that accepts them. -/
def argumentsText (a : ObjectCall σ) : String := ", ".intercalate (Matcher.textEach (a.args.map .eq))

def matcher (a : ObjectCall σ) (mock : ObjectRef) : CallMatcher := ⟨mock, a.method, a.args.map .eq⟩

def intercept (mock : ObjectRef) (a : ObjectCall σ) : Act σ MockError Value :=
  Act.intercept a.session mock a.method a.args a.underlying

/-- What happens, but for when it happens. -/
def on (mock : ObjectRef) (a : ObjectCall σ) : Call := ⟨mock, a.method, a.args, 0, none⟩

variable {w : World σ} {mock : ObjectRef} {made : Handouts} {a b : ObjectCall σ}

theorem sameAs_on (mock : ObjectRef) (a b : ObjectCall σ) : (a.on mock).sameAs (b.on mock) = a.same b := by
  have htarget : (mock == mock) = true := ObjectRef.beq_iff.mpr rfl
  change ((mock == mock) && a.method == b.method && a.args == b.args) = _
  rw [htarget, Bool.true_and, same]

/-- Matchers of the same shape have the same method and render their arguments alike. -/
theorem of_sameShape (h : (CallMatcher.exact (a.on mock)).sameShape (.exact (b.on mock)) = true) :
    a.method = b.method ∧ a.argumentsText = b.argumentsText := by
  obtain ⟨-, hmethod, htext⟩ := CallMatcher.sameShape_iff.mp h
  have hmethod : a.method = b.method := hmethod
  refine ⟨hmethod, ?_⟩
  rw [CallMatcher.text, CallMatcher.text, CallMatcher.isNotCalled_exact, CallMatcher.isNotCalled_exact] at htext
  have htext : mock.text ++ "." ++ a.method.name ++ "(" ++ a.argumentsText ++ ")" =
      mock.text ++ "." ++ b.method.name ++ "(" ++ b.argumentsText ++ ")" := htext
  rw [hmethod] at htext
  exact (String.append_right_inj _).mp ((String.append_left_inj _).mp htext)

/-- Answering a call returns a child, which the mock remembers. -/
theorem exists_intercept (h : w.store.Remembers mock made) (hround : (w.session a.session).round = none)
    (hself : (a.on mock).Comparable) (hshape : ∀ p ∈ made,
      (CallMatcher.exact p.1).sameShape (.exact (a.on mock)) = true → p.1.sameAs (a.on mock) = true) : ∃ o s',
      (a.intercept mock).runOn w = (.ok (.object o), { w with store := s' }) ∧
      s'.Remembers mock (made ++ [(a.on mock, o)]) := by
  let d := w.nextCall a.session mock a.method a.args
  have hcalling : w.callingStore.Remembers mock made := h.of_registry rfl (Nat.le_refl _)
  obtain ⟨x, hx, -⟩ := h.stub
  obtain ⟨o, s', hands, hafter⟩ :=
    hcalling.exists_handsOut (c := a.on mock) (d := d) ⟨rfl, rfl, rfl⟩ rfl a.returns hself hshape (w.logs d)
  obtain ⟨caller, hcaller⟩ := Act.exists_answerCall hround mock a.method a.args a.underlying
  refine ⟨o, s', ?_, hafter⟩
  rw [intercept, hcaller]
  cases hands with
  | known hresolve =>
      obtain ⟨x', hx', -⟩ := hafter.stub
      exact Act.runOn_answerCall rfl hx hresolve hx' fun _ => rfl
  | @created s₁ _ x' hresolve hx' hkind hchild =>
      refine Act.runOn_answerCall rfl hx hresolve hx' fun sessions => ?_
      have hreturns : d.method.returns = .object a.className := a.returns
      have hstore : ∀ w' : World σ, w'.store = s₁ → (Act.onStore (·.relaxedChild x' d a.className) :
          Act σ MockError ObjectRef).runOn w' = (.ok o, { w' with store := s' }) := fun w' hw => by
        rw [Act.runOn_onStore, hw, hchild]
      dsimp only
      rw [Act.fallback, hkind, hreturns]
      dsimp only
      rw [Act.runOn_bind_ok (hstore _ rfl), Act.runOn_pure]

/-- After any number of calls the mock remembers them all. -/
theorem exists_run (h : w.store.Remembers mock made) (calls : List (ObjectCall σ))
    (hround : ∀ a ∈ calls, (w.session a.session).round = none) (hself : ∀ a ∈ calls, (a.on mock).Comparable)
    (hshape : ∀ c ∈ made.map (·.1) ++ calls.map (on mock), ∀ d ∈ made.map (·.1) ++ calls.map (on mock),
      (CallMatcher.exact c).sameShape (.exact d) = true → c.sameAs d = true) : ∃ objects s',
      (calls.mapM (intercept mock)).runOn w = (.ok (objects.map .object), { w with store := s' }) ∧
      objects.length = calls.length ∧ s'.Remembers mock (made ++ (calls.map (on mock)).zip objects) := by
  induction calls generalizing w made with
  | nil => exact ⟨[], w.store, rfl, rfl, by rwa [List.map_nil, List.zip_nil_left, List.append_nil]⟩
  | cons a calls ih =>
      have hmem : a.on mock ∈ made.map (·.1) ++ (a :: calls).map (on mock) :=
        List.mem_append_right _ List.mem_cons_self
      obtain ⟨o, s, hrun, hfirst⟩ := exists_intercept h (hround a List.mem_cons_self) (hself a List.mem_cons_self)
        fun p hp => hshape p.1 (List.mem_append_left _ (List.mem_map_of_mem hp)) _ hmem
      have hlist : made.map (·.1) ++ (a :: calls).map (on mock) =
          (made ++ [(a.on mock, o)]).map (·.1) ++ calls.map (on mock) := by simp
      obtain ⟨objects, s', hruns, hlength, hafter⟩ := ih (w := { w with store := s }) hfirst
        (fun b hb => hround b (List.mem_cons_of_mem a hb)) (fun b hb => hself b (List.mem_cons_of_mem a hb))
        (hlist ▸ hshape)
      refine ⟨o :: objects, s', ?_, congrArg Nat.succ hlength, ?_⟩
      · rw [List.mapM_cons, Act.runOn_bind_ok hrun, Act.runOn_bind_ok hruns, Act.runOn_pure, List.map_cons]
      · rwa [List.map_cons, List.zip_cons_cons, List.append_cons]

/-- What has become of a relaxed mock by these calls, which have returned these objects. -/
structure Memoized (mock : ObjectRef) (calls : List (ObjectCall σ)) (objects : List ObjectRef) (s : Store) : Prop where
  returned : objects.length = calls.length
  /-- Two calls return the same object exactly if their methods and arguments are equal. -/
  shared : ∀ p ∈ calls.zip objects, ∀ q ∈ calls.zip objects, p.2 = q.2 ↔ p.1.same q.1 = true
  identified : ∀ o ∈ objects, ∀ o' ∈ objects, o.id = o'.id → o = o'
  /-- Each object is a registered relaxed mock of the declared class, and a child of the mock. -/
  children : ∀ p ∈ calls.zip objects, p.2.className = p.1.className ∧ ∃ y, s.registry.stub? p.2.id = some y ∧
    y.object = p.2 ∧ y.kind = .relaxed ∧ y.parent = some mock.id
  /-- The mock tracks each of them once, has one entry for all calls that are equal, which counts them, and no entry
  that has served no call. -/
  remembered : ∃ x, s.registry.stub? mock.id = some x ∧ (∀ o ∈ objects, x.children.count o.id = 1) ∧
    x.entries.map (fun e => (e.matcher, e.hits)) =
      (Round.distinctBy same calls).map (fun a => (a.matcher mock, calls.countP a.same)) ∧ x.unused = []

theorem Memoized.of_remembers {calls : List (ObjectCall σ)} {objects : List ObjectRef} {s : Store}
    (hlength : objects.length = calls.length) (h : s.Remembers mock ((calls.map (on mock)).zip objects)) :
    Memoized mock calls objects s := by
  have hmem : ∀ p ∈ calls.zip objects, (p.1.on mock, p.2) ∈ (calls.map (on mock)).zip objects := by
    intro p hp
    rw [List.zip_map_left]
    exact List.mem_map_of_mem hp
  have hcalls : ((calls.map (on mock)).zip objects).map (·.1) = calls.map (on mock) :=
    List.map_fst_zip (Nat.le_of_eq (by rw [List.length_map, hlength]))
  have hchildren : ((calls.map (on mock)).zip objects).map (·.2) = objects :=
    List.map_snd_zip (Nat.le_of_eq (by rw [List.length_map, hlength]))
  have hobjects : ∀ o ∈ objects, ∃ c, (c, o) ∈ (calls.map (on mock)).zip objects := by
    intro o ho
    obtain ⟨p, hp, rfl⟩ := List.mem_map.mp (hchildren.symm ▸ ho)
    exact ⟨p.1, hp⟩
  obtain ⟨x, hx, hrem⟩ := h.stub
  refine ⟨hlength, fun p hp q hq => ?_, fun o ho o' ho' hid => ?_, fun p hp => ?_, x, hx, fun o ho => ?_, ?_,
    hrem.unused h.shared⟩
  · have hagree := h.shared.agree _ (hmem p hp) _ (hmem q hq)
    rw [← sameAs_on mock]
    exact ⟨fun heq => hagree.apart (congrArg ObjectRef.id heq), hagree.same⟩
  · obtain ⟨c, hc⟩ := hobjects o ho
    obtain ⟨c', hc'⟩ := hobjects o' ho'
    have hagree := h.shared.agree _ hc _ hc'
    exact hagree.same (hagree.apart hid)
  · obtain ⟨-, hreturns, -, hchild⟩ := h.handed _ (hmem p hp)
    exact ⟨(Shape.object.inj (p.1.returns.symm.trans hreturns)).symm, hchild⟩
  · obtain ⟨c, hc⟩ := hobjects o ho
    exact hrem.count_children h.shared hc
  · rw [hrem.entries, Handouts.map_table, hcalls, ← Round.map_distinctBy (sameAs_on mock), List.map_map]
    refine List.map_congr_left fun a _ => ?_
    rw [Function.comp_apply, List.countP_map]
    exact congrArg (fun p => (a.matcher mock, calls.countP p)) (funext (sameAs_on mock a))

/-- From its creation on, a relaxed mock returns the same child for equal calls, and different children for others. -/
theorem relaxed_memoizes {w : World σ} (hs : w.store.Sound) {className : String} {mock : ObjectRef} {s : Store}
    (hcreate : w.store.create className .relaxed = (mock, s)) (calls : List (ObjectCall σ))
    (hround : ∀ a ∈ calls, (w.session a.session).round = none) (hself : ∀ a ∈ calls, ∀ v ∈ a.args, (v == v) = true)
    (hrendered : ∀ a ∈ calls, ∀ b ∈ calls, a.method = b.method → a.argumentsText = b.argumentsText →
      (a.args == b.args) = true) : ∃ objects s',
      (calls.mapM (intercept mock)).runOn { w with store := s } =
        (.ok (objects.map .object), { w with store := s' }) ∧ Memoized mock calls objects s' := by
  have hfresh : s.Remembers mock [] := by
    have h := Store.Remembers.create hs className
    rwa [hcreate] at h
  obtain ⟨objects, s', hrun, hlength, hafter⟩ := exists_run (w := { w with store := s }) hfresh calls hround hself (by
    rw [List.map_nil, List.nil_append]
    intro c hc d hd hshape
    obtain ⟨a, ha, rfl⟩ := List.mem_map.mp hc
    obtain ⟨b, hb, rfl⟩ := List.mem_map.mp hd
    obtain ⟨hmethod, htext⟩ := of_sameShape hshape
    rw [sameAs_on, same, hmethod, beq_self_eq_true, hrendered a ha b hb hmethod htext]
    rfl)
  exact ⟨objects, s', hrun, .of_remembers hlength hafter⟩

/-- Look up the folder of this name. -/
def folder (session : Nat) (name : String) : ObjectCall Unit :=
  { session, method := { name := "folder", params := [.str], returns := .object "Folder" }, className := "Folder",
    returns := rfl, args := [.str name] }

/-- Look up the parent. -/
def parent (session : Nat) : ObjectCall Unit :=
  { session, method := { name := "parent", params := [], returns := .object "Folder" }, className := "Folder",
    returns := rfl, args := [] }

/-- Two sessions look up the same folders in different orders. -/
def lookups : List (ObjectCall Unit) := [folder 0 "a", folder 1 "b", parent 1, folder 1 "a", folder 0 "b", folder 0 "a"]

theorem relaxed_memoizes_lookups :
    let w : World Unit := { memory := () }
    let created := w.store.create "Folder" .relaxed
    (w.store.Sound ∧ (∀ a ∈ lookups, (w.session a.session).round = none) ∧
      (∀ a ∈ lookups, ∀ v ∈ a.args, (v == v) = true) ∧ ∀ a ∈ lookups, ∀ b ∈ lookups, a.method = b.method →
        a.argumentsText = b.argumentsText → (a.args == b.args) = true) ∧
    ∃ objects s', (lookups.mapM (intercept created.1)).runOn { w with store := created.2 } =
        (.ok (objects.map .object), { w with store := s' }) ∧
      Memoized created.1 lookups objects s' ∧ objects.map (·.id) = [2, 3, 4, 2, 3, 2] := by
  intro w created
  have hself : ∀ a ∈ lookups, ∀ v ∈ a.args, (v == v) = true := by decide
  have hrendered : ∀ a ∈ lookups, ∀ b ∈ lookups, a.method = b.method → a.argumentsText = b.argumentsText →
      (a.args == b.args) = true := by decide +kernel
  have hs : w.store.Sound := Store.Reached.start.sound
  obtain ⟨objects, s', hrun, hmemoized⟩ :=
    relaxed_memoizes hs (rfl : _ = (created.1, created.2)) lookups (fun _ _ => rfl) hself hrendered
  have hids : ((lookups.mapM (intercept created.1)).runOn { w with store := created.2 }).1.toOption.map
      (fun vs => (vs.filterMap Value.object?).map (·.id)) = some [2, 3, 4, 2, 3, 2] := by decide +kernel
  have hobjects : (objects.map Value.object).filterMap Value.object? = objects := by
    rw [List.filterMap_map]
    exact List.filterMap_some
  rw [hrun, Except.toOption, Option.map_some, hobjects] at hids
  exact ⟨⟨hs, fun _ _ => rfl, hself, hrendered⟩, objects, s', hrun, hmemoized, Option.some.inj hids⟩

end ObjectCall

end TestDouble
