import TestDouble.Proofs.Matcher.Pure
import TestDouble.Proofs.Recording.Correlation
import TestDouble.Session.Statement

/-!
# Calls by example

A block that makes one call describes which calls are meant: some of its arguments are literals, for the others
it registers a matcher. Whatever rounds such a block gives, it is resolved to what was written.
-/

namespace TestDouble

/-- An argument of a call that is described by example. -/
inductive Argument where
  | literal (v : Value)
  | matcher (m : Matcher) (shape : Shape)

namespace Argument

def toMatcher : Argument → Matcher
  | literal v => .eq v
  | matcher m _ => m

/-- A literal accepts what equals it. -/
def accepts : Argument → Value → Bool
  | literal w, v => w == v
  | matcher m _, v => m.accepts v

/-- Position by position, and for as many arguments as are described. -/
def acceptsEach : List Argument → List Value → Bool
  | [], [] => true
  | a :: as, v :: vs => a.accepts v && acceptsEach as vs
  | _, _ => false

/-- A matcher that only looks at its argument, and that a value can stand for. -/
def Plain : Argument → Prop
  | literal _ => True
  | matcher m shape => m.Pure ∧ m ≠ .notCalled ∧ shape ≠ .unit

/-- The slots of the matchers, from `n` on. -/
def slots (n : Nat) : List Argument → List Nat
  | [] => []
  | literal _ :: as => slots (n + 1) as
  | matcher _ _ :: as => n :: slots (n + 1) as

variable {σ : Type}

/-- The value to pass. -/
def pass (i : Nat) : Argument → Act σ MockError Value
  | literal v => return v
  | matcher m shape => Act.registerMatcher i m shape

def passEach (i : Nat) : List Argument → Act σ MockError (List Value)
  | [] => return []
  | a :: as => do
    let v ← a.pass i
    return v :: (← passEach i as)

end Argument

/-- A call that is described by example. -/
structure CallExample where
  target : ObjectRef
  method : Method
  args : List Argument

namespace CallExample

def matcher (e : CallExample) : CallMatcher := ⟨e.target, e.method, e.args.map Argument.toMatcher⟩

/-- The block that makes the call through session `i`. -/
def block {σ : Type} (e : CallExample) (i : Nat) : Act σ Failure Unit :=
  ExceptT.adapt Failure.mock do
    let args ← Argument.passEach i e.args
    let _ ← Act.intercept i e.target e.method args none
    return

/-- Every matcher only looks at its argument, and none stands for trailing arguments. -/
structure Plain (e : CallExample) : Prop where
  args : ∀ a ∈ e.args, a.Plain
  noVararg : e.method.varargSlot? = none

/-- In this round no literal is taken for a stand-in. Flags are left out: they have no values to spare. -/
def ToldApart (e : CallExample) (r : Round) : Prop :=
  ∀ m ∈ r.matchers, m.distinguishable = true → ∀ v, .literal v ∈ e.args → (v == m.signature) = false

end CallExample

namespace Argument

/-! ## Slots -/

theorem slots_ge {n s : Nat} : (as : List Argument) → s ∈ slots n as → n ≤ s
  | [], h => nomatch h
  | literal _ :: as, h => Nat.le_of_succ_le (slots_ge as h)
  | matcher _ _ :: as, h => by
      rcases List.mem_cons.mp h with rfl | h
      · exact Nat.le_refl _
      · exact Nat.le_of_succ_le (slots_ge as h)

theorem slots_sorted (n : Nat) : (as : List Argument) → (slots n as).Pairwise (· < ·)
  | [] => .nil
  | literal _ :: as => slots_sorted (n + 1) as
  | matcher _ _ :: as => .cons (fun _ h => slots_ge as h) (slots_sorted (n + 1) as)

/-! ## Passing -/

/-- What is registered for a matcher in this round. -/
structure StandsFor (round : Nat) (m : Matcher) (shape : Shape) (reg : RegisteredMatcher) : Prop where
  matcher : reg.matcher = m
  pendingFor : reg.pendingFor = 0
  distinguishable : reg.distinguishable = shape.isDistinguishable
  self : (reg.signature == reg.signature) = true
  flag : shape = .bool → reg.signature = .bool (round % 2 == 0)

/-- The values passed in a round, and what was registered for them. -/
inductive Passed (round : Nat) : List Argument → List Value → List RegisteredMatcher → Prop where
  | nil : Passed round [] [] []
  | literal {as : List Argument} {vs : List Value} {regs : List RegisteredMatcher} (v : Value)
      (h : Passed round as vs regs) : Passed round (.literal v :: as) (v :: vs) regs
  | matcher {as : List Argument} {vs : List Value} {regs : List RegisteredMatcher} {m : Matcher} {shape : Shape}
      {reg : RegisteredMatcher} (hreg : StandsFor round m shape reg) (h : Passed round as vs regs) :
      Passed round (.matcher m shape :: as) (reg.signature :: vs) (reg :: regs)

namespace Passed

variable {round n : Nat} {as : List Argument} {vs : List Value} {regs : List RegisteredMatcher}

theorem length_regs (h : Passed round as vs regs) (n : Nat) : regs.length = (slots n as).length := by
  induction h generalizing n with
  | nil => rfl
  | literal v _ ih => exact ih (n + 1)
  | matcher _ _ ih => exact congrArg Nat.succ (ih (n + 1))

theorem length_values (h : Passed round as vs regs) : vs.length = as.length := by
  induction h with
  | nil => rfl
  | literal v _ ih => exact congrArg Nat.succ ih
  | matcher _ _ ih => exact congrArg Nat.succ ih

theorem same_texts {round' : Nat} {vs' : List Value} {regs' : List RegisteredMatcher} (h : Passed round as vs regs)
    (h' : Passed round' as vs' regs') : regs.map (·.matcher.text) = regs'.map (·.matcher.text) := by
  induction h generalizing vs' regs' with
  | nil => cases h'; rfl
  | literal v _ ih => cases h' with | literal _ h' => exact ih h'
  | matcher hreg _ ih =>
      cases h' with
      | matcher hreg' h' => rw [List.map_cons, List.map_cons, hreg.matcher, hreg'.matcher, ih h']

/-- A registered matcher stands in the slot where it was written. -/
theorem registered (h : Passed round as vs regs) (n : Nat) {k : Nat} {reg : RegisteredMatcher}
    (hreg : regs[k]? = some reg) : ∃ s m shape, (slots n as)[k]? = some (n + s) ∧ as[s]? = some (.matcher m shape) ∧
      vs[s]? = some reg.signature ∧ StandsFor round m shape reg := by
  induction h generalizing n k with
  | nil => cases hreg
  | literal v _ ih =>
      obtain ⟨s, m, shape, hs, ha, hv, hr⟩ := ih (n + 1) hreg
      exact ⟨s + 1, m, shape, by rw [slots, hs, Nat.add_right_comm, Nat.add_assoc], ha, hv, hr⟩
  | @matcher as vs regs m shape reg' hr' _ ih =>
      cases k with
      | zero =>
          cases hreg
          exact ⟨0, m, shape, rfl, rfl, rfl, hr'⟩
      | succ k =>
          obtain ⟨s, m, shape, hs, ha, hv, hr⟩ := ih (n + 1) hreg
          refine ⟨s + 1, m, shape, ?_, ha, hv, hr⟩
          rw [slots, List.getElem?_cons_succ, hs, Nat.add_right_comm, Nat.add_assoc]

/-- What stands elsewhere is the literal that was written there. -/
theorem elsewhere (h : Passed round as vs regs) (n : Nat) {s : Nat} {v : Value} (hv : vs[s]? = some v)
    (hs : n + s ∉ slots n as) : as[s]? = some (.literal v) := by
  induction h generalizing n s with
  | nil => cases hv
  | literal w _ ih =>
      cases s with
      | zero => cases hv; rfl
      | succ s =>
          refine ih (n + 1) hv fun hmem => hs ?_
          rwa [slots, ← Nat.add_assoc, Nat.add_right_comm]
  | matcher _ _ ih =>
      cases s with
      | zero => exact absurd List.mem_cons_self hs
      | succ s =>
          refine ih (n + 1) hv fun hmem => hs (List.mem_cons_of_mem _ ?_)
          rwa [← Nat.add_assoc, Nat.add_right_comm]

end Passed

end Argument

namespace CallExample

/-! ## Rounds of the block -/

/-- A round that the block has made. -/
structure Written (e : CallExample) (index : Nat) (r : Round) : Prop where
  recorded : r.Recorded
  call : ∃ c, r.calls = [c] ∧ c.call.target = e.target ∧ c.call.method = e.method ∧
    Argument.Passed index e.args c.call.args r.matchers

/-- Where the matchers were written. -/
def place (e : CallExample) : Placement := fun k => ⟨0, (Argument.slots 0 e.args).getD k 0, none⟩

variable {e : CallExample}

theorem place_eq {k s : Nat} (h : (Argument.slots 0 e.args)[k]? = some s) : e.place k = ⟨0, s, none⟩ := by
  rw [place, List.getD_eq_getElem?_getD, h, Option.getD_some]

theorem exists_slot {k : Nat} (h : k < (Argument.slots 0 e.args).length) :
    ∃ s, (Argument.slots 0 e.args)[k]? = some s := ⟨_, List.getElem?_eq_getElem h⟩

theorem slot_lt {i j s t : Nat} (hs : (Argument.slots 0 e.args)[i]? = some s)
    (ht : (Argument.slots 0 e.args)[j]? = some t) (hij : i < j) : s < t := by
  obtain ⟨hi, rfl⟩ := List.getElem?_eq_some_iff.mp hs
  obtain ⟨hj, rfl⟩ := List.getElem?_eq_some_iff.mp ht
  exact List.pairwise_iff_getElem.mp (Argument.slots_sorted 0 e.args) i j hi hj hij

theorem Written.valueAt?_place {index : Nat} {r : Round} (h : e.Written index r) {k : Nat} {reg : RegisteredMatcher}
    (hreg : r.matchers[k]? = some reg) : ∃ s, e.place k = ⟨0, s, none⟩ ∧ r.valueAt? (e.place k) = some reg.signature ∧
      ∃ m shape, e.args[s]? = some (.matcher m shape) ∧ Argument.StandsFor index m shape reg := by
  obtain ⟨c, hc, -, -, hpassed⟩ := h.call
  obtain ⟨s, m, shape, hs, ha, hv, hstands⟩ := hpassed.registered 0 hreg
  rw [Nat.zero_add] at hs
  refine ⟨s, place_eq hs, ?_, m, shape, ha, hstands⟩
  rw [place_eq hs]
  exact Round.valueAt?_slot.mpr ⟨c, by rw [hc]; rfl, hv⟩

/-- Elsewhere the block passes literals, the same in every round. -/
theorem Written.valueAt?_elsewhere (hp : e.Plain) {index : Nat} {r : Round} (h : e.Written index r) {a : Address}
    {v : Value} (hv : r.valueAt? a = some v) (ha : ∀ k < (Argument.slots 0 e.args).length, e.place k ≠ a) :
    e.args[a.slot]? = some (.literal v) := by
  obtain ⟨c, hc, -, hm, hpassed⟩ := h.call
  obtain ⟨call, slot, element⟩ := a
  cases element with
  | some element =>
      obtain ⟨items, hi, -⟩ := Option.bind_eq_some_iff.mp hv
      obtain ⟨d, hd, hvararg, -⟩ := Round.varargItems?_eq_some.mp hi
      rw [hc] at hd
      cases List.mem_singleton.mp (List.mem_of_getElem? hd)
      rw [hm, hp.noVararg] at hvararg
      cases hvararg
  | none =>
      obtain ⟨d, hd, hs⟩ := Round.valueAt?_slot.mp hv
      rw [hc] at hd
      obtain ⟨hlt, rfl⟩ := List.getElem?_eq_some_iff.mp hd
      obtain rfl : call = 0 := by simpa using hlt
      refine hpassed.elsewhere 0 hs fun hmem => ?_
      obtain ⟨k, hk⟩ := List.getElem?_of_mem hmem
      refine ha k (List.getElem?_eq_some_iff.mp hk).1 ?_
      rw [place_eq hk, Nat.zero_add]

/-- Rounds of both parities tell every matcher from every literal. -/
theorem told (hp : e.Plain) {even odd : Round} {i j : Nat} (heven : e.Written i even) (hodd : e.Written j odd)
    (hi : i % 2 = 0) (hj : j % 2 = 1) (htold : e.ToldApart even) {k : Nat} {a : Address}
    (ha : ∀ k < (Argument.slots 0 e.args).length, e.place k ≠ a)
    (h : ∀ r, r = even ∨ r = odd → ∃ m v, r.matchers[k]? = some m ∧ r.valueAt? a = some v ∧ (v == m.signature) = true) :
    False := by
  obtain ⟨m, v, hm, hv, hs⟩ := h even (.inl rfl)
  obtain ⟨m', v', hm', hv', hs'⟩ := h odd (.inr rfl)
  have hlit := heven.valueAt?_elsewhere hp hv ha
  have hlit' := hodd.valueAt?_elsewhere hp hv' ha
  cases hlit.symm.trans hlit'
  obtain ⟨s, hplace, -, n, shape, harg, hstands⟩ := heven.valueAt?_place hm
  obtain ⟨s', hplace', -, n', shape', harg', hstands'⟩ := hodd.valueAt?_place hm'
  rw [hplace] at hplace'
  cases hplace'
  cases harg.symm.trans harg'
  obtain ⟨-, -, hunit⟩ := hp.args _ (List.mem_of_getElem? harg)
  cases hd : shape.isDistinguishable with
  | true =>
      have := htold m (List.mem_of_getElem? hm) (hstands.distinguishable.trans hd) v (List.mem_of_getElem? hlit)
      rw [this] at hs
      cases hs
  | false =>
      -- A flag is drawn differently in the two rounds, and a literal equals one value at most.
      obtain rfl : shape = .bool := by cases shape <;> simp_all [Shape.isDistinguishable]
      rw [hstands.flag rfl, hi] at hs
      rw [hstands'.flag rfl, hj] at hs'
      exact absurd (Value.bool.inj ((Value.eq_bool_of_beq hs).symm.trans (Value.eq_bool_of_beq hs'))) (by decide)

/-- Two rounds at least, the first ones numbered from zero, and the first tells literals from stand-ins. -/
structure Records (e : CallExample) (rounds : List Round) : Prop where
  written : ∀ r ∈ rounds, ∃ index, e.Written index r
  even : ∃ r ∈ rounds, e.Written 0 r ∧ e.ToldApart r
  odd : ∃ r ∈ rounds, e.Written 1 r

theorem Records.correlated {rounds : List Round} (h : e.Records rounds) (hp : e.Plain) :
    Correlated rounds (Argument.slots 0 e.args).length e.place where
  recorded r hr := by
    obtain ⟨index, hw⟩ := h.written r hr
    exact hw.recorded
  methods r hr r' hr' := by
    obtain ⟨_, ⟨-, c, hc, -, hm, -⟩⟩ := h.written r hr
    obtain ⟨_, ⟨-, c', hc', -, hm', -⟩⟩ := h.written r' hr'
    simp [hc, hc', hm, hm']
  targets r hr j hj := by
    obtain ⟨_, ⟨-, c, hc, -⟩⟩ := h.written r hr
    obtain rfl : j = 0 := by simpa [hc] using hj
    refine ⟨.fixed e.target.id, fun r' hr' => ?_⟩
    obtain ⟨_, ⟨-, c', hc', ht, -⟩⟩ := h.written r' hr'
    exact ⟨c', by rw [hc']; rfl, by rw [ht], fun i hi => absurd hi (Nat.not_lt_zero i)⟩
  count r hr := by
    obtain ⟨_, ⟨-, c, -, -, -, hpassed⟩⟩ := h.written r hr
    exact hpassed.length_regs 0
  matchers r hr r' hr' := by
    obtain ⟨_, ⟨-, c, -, -, -, hpassed⟩⟩ := h.written r hr
    obtain ⟨_, ⟨-, c', -, -, -, hpassed'⟩⟩ := h.written r' hr'
    exact hpassed.same_texts hpassed'
  passed r hr k reg hreg := by
    obtain ⟨_, hw⟩ := h.written r hr
    obtain ⟨s, -, hv, m, shape, -, hstands⟩ := hw.valueAt?_place hreg
    exact ⟨by rw [hstands.pendingFor]; exact Nat.zero_le _, _, hv, hstands.self⟩
  apart i j hi hj hij := by
    obtain ⟨s, hs⟩ := exists_slot hi
    obtain ⟨t, ht⟩ := exists_slot hj
    have hst : s ≠ t := by
      rcases Nat.lt_or_gt_of_ne hij with hlt | hlt
      · exact Nat.ne_of_lt (slot_lt hs ht hlt)
      · exact Nat.ne_of_gt (slot_lt ht hs hlt)
    simp [place_eq hs, place_eq ht, Address.overlaps, hst]
  alone r hr i m c s x hm hw hpl := by
    rw [place, Address.mk.injEq] at hpl
    cases hpl.2.2
  told i hi a ha := by
    obtain ⟨even, he, hwe, htold⟩ := h.even
    obtain ⟨odd, ho, hwo⟩ := h.odd
    by_contra hnone
    refine told hp hwe hwo rfl rfl htold ha (k := i) fun r hr => ?_
    have hr' : r ∈ rounds := hr.elim (fun h => h ▸ he) fun h => h ▸ ho
    by_contra hno
    refine hnone ⟨r, hr', fun m v hm hv => ?_⟩
    rw [Bool.eq_false_iff]
    exact fun hs => hno ⟨m, v, hm, hv, hs⟩
  ordered i j hij hj _ := by
    obtain ⟨s, hs⟩ := exists_slot (Nat.lt_trans hij hj)
    obtain ⟨t, ht⟩ := exists_slot hj
    rw [place_eq hs, place_eq ht]
    exact .inr ⟨rfl, .inl (slot_lt hs ht hij)⟩

theorem Written.resolved_args (hp : e.Plain) {index : Nat} {r : Round} (h : e.Written index r) {res : Resolution}
    (hf : res.Follows r e.place) (s : Nat) (hs : s < e.args.length) :
    res.argAt? 0 s = e.args[s]?.map Argument.toMatcher := by
  have hw := h
  obtain ⟨-, c, hc, -, hm, hpassed⟩ := h
  have hs' : s < c.call.args.length := hpassed.length_values ▸ hs
  have hv : r.valueAt? ⟨0, s, none⟩ = some c.call.args[s] :=
    Round.valueAt?_slot.mpr ⟨c, by rw [hc]; rfl, List.getElem?_eq_getElem hs'⟩
  have hlen := hpassed.length_regs 0
  by_cases hmem : s ∈ Argument.slots 0 e.args
  · obtain ⟨k, hk⟩ := List.getElem?_of_mem hmem
    have hlt : k < r.matchers.length := hlen ▸ (List.getElem?_eq_some_iff.mp hk).1
    have hreg := List.getElem?_eq_getElem hlt
    obtain ⟨t, hplace, -, m, shape, harg, hstands⟩ := hw.valueAt?_place hreg
    rw [place_eq hk] at hplace
    cases hplace
    rw [hf.whole k _ 0 s hreg (place_eq hk), harg, hstands.matcher]
    rfl
  · have hother : ∀ k < r.matchers.length, e.place k ≠ ⟨0, s, none⟩ := by
      intro k hk hplace
      obtain ⟨t, ht⟩ := exists_slot (hlen ▸ hk)
      rw [place_eq ht] at hplace
      cases hplace
      exact hmem (List.mem_of_getElem? ht)
    have hlit := hw.valueAt?_elsewhere hp hv fun k hk => hother k (hlen ▸ hk)
    have hnone : r.varargItems? 0 s = none := by
      simp [Round.varargItems?, hc, hm, hp.noVararg]
    rw [hf.literal 0 s _ hv hnone hother, hlit]
    rfl

/-- What the block is resolved to: the one call that was written. -/
theorem Records.resolved {rounds : List Round} (h : e.Records rounds) (hp : e.Plain) (phase : Phase) :
    ∃ v, Resolution.ofRounds rounds phase = .ok [⟨e.matcher, v, none, false⟩] := by
  have hcorr := h.correlated hp
  cases rounds with
  | nil =>
      obtain ⟨r, hr, -⟩ := h.odd
      cases hr
  | cons first rest =>
      obtain ⟨b, hres, hfollows⟩ := Resolution.ofRounds_follows hcorr phase
      obtain ⟨index, hw⟩ := h.written _ (List.getLast_mem (List.cons_ne_nil first rest))
      have hargs := fun s hs => hw.resolved_args hp hfollows s hs
      generalize (first :: rest).getLast (List.cons_ne_nil first rest) = last at *
      obtain ⟨-, c, hc, ht, hm, hpassed⟩ := hw
      refine ⟨c.returned, hres.trans ?_⟩
      have hmatcher : last.callMatcher b (c, 0) = e.matcher := by
        rw [Round.callMatcher, matcher, CallMatcher.mk.injEq]
        refine ⟨ht, hm, List.ext_getElem? fun s => ?_⟩
        by_cases hs : s < e.args.length
        · have := hargs s hs
          rw [Round.argAt?_resolved, hc] at this
          simpa [Function.comp_def] using this
        · rw [List.getElem?_eq_none, List.getElem?_eq_none] <;> simp [hpassed.length_values] <;> omega
      have hinter : last.intermediates = [] := by
        simp [Round.intermediates, Round.feeding, Round.latestReturning?, hc]
      simp [Round.resolved, hc, hmatcher, hinter, Round.latestReturning?]

end CallExample

end TestDouble
