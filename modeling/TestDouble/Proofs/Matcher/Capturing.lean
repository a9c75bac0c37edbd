import TestDouble.Proofs.Matcher.Pure

/-!
# Captures agree with acceptance

What an accepted value leaves in the slots, each with the way through the matcher to the capture that keeps it. The
parts on this way accept what they are matched with.
-/

namespace TestDouble

namespace Matcher

/-! ## Ways through a matcher -/

/-- From a matcher to a part of it. -/
inductive Step where
  | negated
  | left
  | right
  | first
  | second
  | inside
  /-- The trailing argument at this position. -/
  | element (i : Nat)
  deriving DecidableEq

abbrev Trail := List Step

namespace Trail

inductive Precedes : Step → Step → Prop where
  | sides : Precedes .left .right
  | elements {i j : Nat} (h : i < j) : Precedes (.element i) (.element j)

/-- A capture comes before what is inside of it; sides and elements are in order. -/
def Before (t t' : Trail) : Prop := List.Lex Precedes t t'

/-- Neither through negations nor through alternatives. -/
def IsDirect (t : Trail) : Prop := ∀ step ∈ t, step ≠ .negated ∧ step ≠ .first ∧ step ≠ .second

end Trail

/-- The part at the end of the way. -/
def part? : Matcher → Trail → Option Matcher
  | m, [] => some m
  | not m, .negated :: t => part? m t
  | and l _, .left :: t => part? l t
  | and _ r, .right :: t => part? r t
  | or l _, .first :: t => part? l t
  | or _ r, .second :: t => part? r t
  | capture _ m, .inside :: t => part? m t
  | varargAll m, .element _ :: t => part? m t
  | varargs ms, .element i :: t => ms[i]?.bind (part? · t)
  | _, _ => none

end Matcher

/-- What the part at the end of the way is matched with: the value, or an element of it. -/
def Value.along? : Value → Matcher.Trail → Option Value
  | v, [] => some v
  | .list items, .element i :: t => items[i]?.bind (along? · t)
  | _, .element _ :: _ => none
  | v, _ :: t => v.along? t

namespace Matcher

variable {m m' l r : Matcher} {ms : List Matcher} {v w : Value} {items : List Value} {t t' : Trail}

/-! ## Acceptance of the parts -/

theorem accepts_eq_true_iff : m.accepts v = true ↔ m.test v = .done true := by
  unfold accepts
  split <;> simp_all

theorem accepts_and (hl : l.Pure) : (and l r).accepts v = (l.accepts v && r.accepts v) := by
  rw [accepts, test, hl.test_eq v, Probe.bind]
  cases l.accepts v <;> rfl

theorem accepts_or (hl : l.Pure) : (or l r).accepts v = (l.accepts v || r.accepts v) := by
  rw [accepts, test, hl.test_eq v, Probe.bind]
  cases l.accepts v <;> rfl

theorem accepts_varargAll (hm : m.Pure) : (varargAll m).accepts (.list items) = items.all m.accepts := by
  have hall : Probe.all (fun item => m.test item) items = .done (items.all m.accepts) := by
    induction items with
    | nil => rfl
    | cons v vs ih =>
        rw [Probe.all, hm.test_eq v, Probe.bind, List.all_cons, ih]
        cases m.accepts v <;> rfl
  rw [accepts, test, hall]

theorem accepts_varargs (hms : PureEach ms) : (varargs ms).accepts (.list items) = acceptsEach ms items := by
  rw [accepts, test]
  by_cases hlen : ms.length = items.length
  · rw [if_pos hlen.symm, PureEach.testEach_eq ms hms items hlen]
  · rw [if_neg (Ne.symm hlen), acceptsEach_of_length_ne ms items hlen]

theorem accepts_of_acceptsEach : {ms : List Matcher} → {vs : List Value} → acceptsEach ms vs = true → {i : Nat} →
    ms[i]? = some m → vs[i]? = some v → m.accepts v = true
  | _ :: _, _ :: _, h, 0, hm, hv => by
      cases hm
      cases hv
      exact (Bool.and_eq_true_iff.mp h).1
  | _ :: _, _ :: _, h, _ + 1, hm, hv => accepts_of_acceptsEach (Bool.and_eq_true_iff.mp h).2 hm hv
  | [], _, _, _, hm, _ => nomatch hm
  | _ :: _, [], _, _, _, hv => nomatch hv

/-- Capturing goes from the matcher, given the one value, to the part, given the other: of two alternatives to the first
that accepts. -/
inductive Reaches : Matcher → Value → Trail → Matcher → Value → Prop where
  | here (m : Matcher) (v : Value) : Reaches m v [] m v
  | left {l r m : Matcher} {v w : Value} {t : Trail} (h : Reaches l v t m w) : Reaches (and l r) v (.left :: t) m w
  | right {l r m : Matcher} {v w : Value} {t : Trail} (h : Reaches r v t m w) : Reaches (and l r) v (.right :: t) m w
  | first {l r m : Matcher} {v w : Value} {t : Trail} (hl : l.accepts v = true) (h : Reaches l v t m w) :
      Reaches (or l r) v (.first :: t) m w
  | second {l r m : Matcher} {v w : Value} {t : Trail} (hl : l.accepts v = false) (h : Reaches r v t m w) :
      Reaches (or l r) v (.second :: t) m w
  | inside {slot : Nat} {m m' : Matcher} {v w : Value} {t : Trail} (h : Reaches m v t m' w) :
      Reaches (capture slot m) v (.inside :: t) m' w
  | every {m m' : Matcher} {items : List Value} {i : Nat} {v w : Value} {t : Trail} (hv : items[i]? = some v)
      (h : Reaches m v t m' w) : Reaches (varargAll m) (.list items) (.element i :: t) m' w
  | each {ms : List Matcher} {m m' : Matcher} {items : List Value} {i : Nat} {v w : Value} {t : Trail}
      (hm : ms[i]? = some m) (hv : items[i]? = some v) (h : Reaches m v t m' w) :
      Reaches (varargs ms) (.list items) (.element i :: t) m' w

namespace Reaches

theorem part?_eq (h : Reaches m v t m' w) : m.part? t = some m' := by
  induction h with
  | here => simp [part?]
  | each hm _ _ ih => rw [part?, hm, Option.bind_some, ih]
  | _ => rwa [part?]

theorem along?_eq (h : Reaches m v t m' w) : v.along? t = some w := by
  induction h with
  | here => simp [Value.along?]
  | every hv _ ih => rw [Value.along?, hv, Option.bind_some, ih]
  | each _ hv _ ih => rw [Value.along?, hv, Option.bind_some, ih]
  | _ => rwa [Value.along?] <;> simp

theorem negated_notMem (h : Reaches m v t m' w) : Step.negated ∉ t := by
  induction h with
  | here => exact List.not_mem_nil
  | _ => simpa

/-- Every part on the way accepts what it is given. -/
theorem accepts (h : Reaches m v t m' w) (hm : m.Pure) (hv : m.accepts v = true) :
    m'.Pure ∧ m'.accepts w = true := by
  induction h with
  | here => exact ⟨hm, hv⟩
  | left _ ih =>
      rw [Pure] at hm
      rw [accepts_and hm.1] at hv
      exact ih hm.1 (Bool.and_eq_true_iff.mp hv).1
  | right _ ih =>
      rw [Pure] at hm
      rw [accepts_and hm.1] at hv
      exact ih hm.2 (Bool.and_eq_true_iff.mp hv).2
  | first hl _ ih =>
      rw [Pure] at hm
      exact ih hm.1 hl
  | second hl _ ih =>
      rw [Pure] at hm
      rw [accepts_or hm.1, hl, Bool.false_or] at hv
      exact ih hm.2 hv
  | inside _ ih =>
      rw [Pure] at hm
      exact ih hm hv
  | every hitem _ ih =>
      rw [Pure] at hm
      rw [accepts_varargAll hm] at hv
      exact ih hm (List.all_eq_true.mp hv _ (List.mem_of_getElem? hitem))
  | each hpart hitem _ ih =>
      rw [Pure] at hm
      rw [accepts_varargs hm] at hv
      exact ih (pureEach_iff.mp hm _ (List.mem_of_getElem? hpart)) (accepts_of_acceptsEach hv hpart hitem)

theorem split (h : Reaches m v (t ++ t') m' w) : ∃ n u, Reaches m v t n u ∧ Reaches n u t' m' w := by
  induction t generalizing m v with
  | nil => exact ⟨m, v, .here m v, h⟩
  | cons step t ih =>
      cases h with
      | left h => obtain ⟨n, u, hn, hrest⟩ := ih h; exact ⟨n, u, .left hn, hrest⟩
      | right h => obtain ⟨n, u, hn, hrest⟩ := ih h; exact ⟨n, u, .right hn, hrest⟩
      | first hl h => obtain ⟨n, u, hn, hrest⟩ := ih h; exact ⟨n, u, .first hl hn, hrest⟩
      | second hl h => obtain ⟨n, u, hn, hrest⟩ := ih h; exact ⟨n, u, .second hl hn, hrest⟩
      | inside h => obtain ⟨n, u, hn, hrest⟩ := ih h; exact ⟨n, u, .inside hn, hrest⟩
      | every hv h => obtain ⟨n, u, hn, hrest⟩ := ih h; exact ⟨n, u, .every hv hn, hrest⟩
      | each hm hv h => obtain ⟨n, u, hn, hrest⟩ := ih h; exact ⟨n, u, .each hm hv hn, hrest⟩

/-- A direct way is taken wherever there is a value at its end. -/
theorem of_isDirect (ht : t.IsDirect) (hpart : m.part? t = some m') (hvalue : v.along? t = some w) :
    Reaches m v t m' w := by
  induction t generalizing m v with
  | nil =>
      simp only [part?, Value.along?, Option.some.injEq] at hpart hvalue
      subst hpart hvalue
      exact .here m v
  | cons step t ih =>
      obtain ⟨hstep, hrest⟩ := List.forall_mem_cons.mp ht
      cases step with
      | negated => exact absurd rfl hstep.1
      | first => exact absurd rfl hstep.2.1
      | second => exact absurd rfl hstep.2.2
      | left =>
          cases m with
          | and l r => exact .left (ih hrest hpart (by rwa [Value.along?] at hvalue <;> simp))
          | _ => cases hpart
      | right =>
          cases m with
          | and l r => exact .right (ih hrest hpart (by rwa [Value.along?] at hvalue <;> simp))
          | _ => cases hpart
      | inside =>
          cases m with
          | capture slot m => exact .inside (ih hrest hpart (by rwa [Value.along?] at hvalue <;> simp))
          | _ => cases hpart
      | element i =>
          cases v with
          | list items =>
              obtain ⟨u, hu, hvalue⟩ := Option.bind_eq_some_iff.mp hvalue
              cases m with
              | varargAll m => exact .every hu (ih hrest hpart hvalue)
              | varargs ms =>
                  obtain ⟨n, hn, hpart⟩ := Option.bind_eq_some_iff.mp hpart
                  exact .each hn hu (ih hrest hpart hvalue)
              | _ => cases hpart
          | _ => cases hvalue

end Reaches

/-! ## What is kept -/

/-- A value that is kept, and the capture that keeps it. -/
structure Push where
  trail : Trail
  slot : Nat
  value : Value

namespace Push

def under (step : Step) (p : Push) : Push := { p with trail := step :: p.trail }

def kept (p : Push) : Nat × Value := (p.slot, p.value)

def Before (p q : Push) : Prop := p.trail.Before q.trail

end Push

/-- One after another, the first at the element `i`. -/
def inOrder (i : Nat) : List (List Push) → List Push
  | [] => []
  | ps :: pss => ps.map (.under (.element i)) ++ inOrder (i + 1) pss

mutual
/-- What a value leaves in the slots, as `captures` has it, and on which way. -/
def pushes : Matcher → Value → List Push
  | capture slot m, v => ⟨[], slot, v⟩ :: (pushes m v).map (.under .inside)
  | and l r, v => (pushes l v).map (.under .left) ++ (pushes r v).map (.under .right)
  | or l r, v => if l.accepts v then (pushes l v).map (.under .first) else (pushes r v).map (.under .second)
  | varargAll m, v =>
    match v with
    | .list items => inOrder 0 (items.map (pushes m))
    | _ => []
  | varargs ms, v =>
    match v with
    | .list items => inOrder 0 (pushesEach ms items)
    | _ => []
  | _, _ => []

/-- Position by position, up to the shorter list. -/
def pushesEach : List Matcher → List Value → List (List Push)
  | m :: ms, v :: vs => pushes m v :: pushesEach ms vs
  | _, _ => []
end

theorem map_kept_under (step : Step) (ps : List Push) : (ps.map (.under step)).map Push.kept = ps.map Push.kept := by
  rw [List.map_map]
  rfl

theorem capturesAll_eq {f : Value → Probe Captures} {g : Value → List Push}
    (h : ∀ v, f v = .done ((g v).map Push.kept)) (i : Nat) (vs : List Value) :
    capturesAll f vs = .done ((inOrder i (vs.map g)).map Push.kept) := by
  induction vs generalizing i with
  | nil => rfl
  | cons v vs ih =>
      rw [capturesAll, h v, ih (i + 1), List.map_cons, inOrder, List.map_append, map_kept_under]
      rfl

mutual
/-- The pushes are what is captured. -/
theorem captures_eq : (m : Matcher) → m.Pure → (v : Value) → m.captures v = .done ((m.pushes v).map Push.kept)
  | capture _ m, h, v => by
      rw [Pure] at h
      rw [captures, captures_eq m h v, pushes, List.map_cons, map_kept_under]
      rfl
  | and l r, h, v => by
      rw [Pure] at h
      rw [captures, captures_eq l h.1 v, captures_eq r h.2 v, pushes, List.map_append, map_kept_under, map_kept_under]
      rfl
  | or l r, h, v => by
      rw [Pure] at h
      rw [captures, h.1.test_eq v, captures_eq l h.1 v, captures_eq r h.2 v, pushes, Probe.bind,
        apply_ite (List.map Push.kept), map_kept_under, map_kept_under, apply_ite Probe.done]
  | varargAll m, h, v => by
      rw [Pure] at h
      cases v with
      | list items => exact capturesAll_eq (captures_eq m h) 0 items
      | _ => rfl
  | varargs ms, h, v => by
      rw [Pure] at h
      cases v with
      | list items => exact capturesEach_eq ms h items 0
      | _ => rfl
  | any, _, _ | eq _, _, _ | same _, _, _ | compare _ _, _, _ | predicate _ _, _, _ | ofShape _, _, _ | null, _, _
  | notNull, _, _ | not _, _, _ | varargAny, _, _ | notCalled, _, _ => rfl

theorem capturesEach_eq : (ms : List Matcher) → PureEach ms → (vs : List Value) → (i : Nat) →
    capturesEach ms vs = .done ((inOrder i (pushesEach ms vs)).map Push.kept)
  | [], _, _, _ => rfl
  | _ :: _, _, [], _ => rfl
  | m :: ms, h, v :: vs, i => by
      rw [PureEach] at h
      rw [capturesEach, captures_eq m h.1 v, capturesEach_eq ms h.2 vs (i + 1), pushesEach, inOrder, List.map_append,
        map_kept_under]
      rfl
end

/-! ## Order -/

theorem pushesEach_getElem? : {ms : List Matcher} → {vs : List Value} → {k : Nat} → {ps : List Push} →
    (pushesEach ms vs)[k]? = some ps ↔ ∃ m v, ms[k]? = some m ∧ vs[k]? = some v ∧ m.pushes v = ps
  | [], _, _, _ => by simp [pushesEach]
  | _ :: _, [], _, _ => by simp [pushesEach]
  | m :: ms, v :: vs, 0, ps => by simp [pushesEach]
  | m :: ms, v :: vs, k + 1, ps => by simpa [pushesEach] using pushesEach_getElem?

variable {p : Push}

theorem mem_inOrder {i : Nat} {pss : List (List Push)} : p ∈ inOrder i pss ↔
    ∃ (k : Nat) (ps : List Push) (q : Push), pss[k]? = some ps ∧ q ∈ ps ∧ q.under (.element (i + k)) = p := by
  induction pss generalizing i with
  | nil => simp [inOrder]
  | cons ps pss ih =>
      rw [inOrder, List.mem_append, List.mem_map, ih]
      constructor
      · rintro (⟨q, hq, rfl⟩ | ⟨k, qs, q, hqs, hq, rfl⟩)
        · exact ⟨0, ps, q, rfl, hq, rfl⟩
        · exact ⟨k + 1, qs, q, hqs, hq, by rw [Nat.add_assoc, Nat.add_comm 1]⟩
      · rintro ⟨_ | k, qs, q, hqs, hq, rfl⟩
        · cases hqs
          exact .inl ⟨q, hq, rfl⟩
        · exact .inr ⟨k, qs, q, hqs, hq, by rw [Nat.add_assoc, Nat.add_comm 1]⟩

theorem sorted_under {ps : List Push} (h : ps.Pairwise Push.Before) (step : Step) :
    (ps.map (.under step)).Pairwise Push.Before :=
  List.pairwise_map.mpr (h.imp fun hpq => .cons hpq)

theorem sorted_inOrder {pss : List (List Push)} (h : ∀ ps ∈ pss, ps.Pairwise Push.Before) (i : Nat) :
    (inOrder i pss).Pairwise Push.Before := by
  induction pss generalizing i with
  | nil => exact .nil
  | cons ps pss ih =>
      obtain ⟨hps, hpss⟩ := List.forall_mem_cons.mp h
      refine List.pairwise_append.mpr ⟨sorted_under hps _, ih hpss (i + 1), fun p hp q hq => ?_⟩
      obtain ⟨p, -, rfl⟩ := List.mem_map.mp hp
      obtain ⟨k, -, q, -, -, rfl⟩ := mem_inOrder.mp hq
      exact .rel (.elements (by omega))

mutual
theorem pushes_sorted : (m : Matcher) → (v : Value) → (m.pushes v).Pairwise Push.Before
  | capture _ m, v => by
      rw [pushes]
      refine List.pairwise_cons.mpr ⟨fun p hp => ?_, sorted_under (pushes_sorted m v) _⟩
      obtain ⟨q, -, rfl⟩ := List.mem_map.mp hp
      exact .nil
  | and l r, v => by
      rw [pushes]
      refine List.pairwise_append.mpr ⟨sorted_under (pushes_sorted l v) _, sorted_under (pushes_sorted r v) _, ?_⟩
      intro p hp q hq
      obtain ⟨p, -, rfl⟩ := List.mem_map.mp hp
      obtain ⟨q, -, rfl⟩ := List.mem_map.mp hq
      exact .rel .sides
  | or l r, v => by
      rw [pushes]
      split
      · exact sorted_under (pushes_sorted l v) _
      · exact sorted_under (pushes_sorted r v) _
  | varargAll m, v => by
      cases v with
      | list items => exact sorted_inOrder (List.forall_mem_map.mpr fun item _ => pushes_sorted m item) 0
      | _ => exact .nil
  | varargs ms, v => by
      cases v with
      | list items => exact sorted_inOrder (pushesEach_sorted ms items) 0
      | _ => exact .nil
  | any, _ | eq _, _ | same _, _ | compare _ _, _ | predicate _ _, _ | ofShape _, _ | null, _ | notNull, _ | not _, _
  | varargAny, _ | notCalled, _ => .nil

theorem pushesEach_sorted : (ms : List Matcher) → (vs : List Value) → ∀ ps ∈ pushesEach ms vs, ps.Pairwise Push.Before
  | [], _ => nofun
  | _ :: _, [] => nofun
  | m :: ms, v :: vs => List.forall_mem_cons.mpr ⟨pushes_sorted m v, pushesEach_sorted ms vs⟩
end

/-! ## Where it comes from -/

theorem mem_pushes_of_reaches {slot : Nat} {inner : Matcher} (h : Reaches m v t (capture slot inner) w) :
    ⟨t, slot, w⟩ ∈ m.pushes v := by
  generalize hcapture : capture slot inner = c at h
  induction h with
  | here =>
      subst hcapture
      rw [pushes]
      exact List.mem_cons_self
  | left _ ih =>
      rw [pushes]
      exact List.mem_append_left _ (List.mem_map_of_mem (f := Push.under .left) (ih hcapture))
  | right _ ih =>
      rw [pushes]
      exact List.mem_append_right _ (List.mem_map_of_mem (f := Push.under .right) (ih hcapture))
  | first hl _ ih =>
      rw [pushes, if_pos hl]
      exact List.mem_map_of_mem (f := Push.under .first) (ih hcapture)
  | second hl _ ih =>
      rw [pushes, if_neg (Bool.eq_false_iff.mp hl)]
      exact List.mem_map_of_mem (f := Push.under .second) (ih hcapture)
  | inside _ ih =>
      rw [pushes]
      exact List.mem_cons_of_mem _ (List.mem_map_of_mem (f := Push.under .inside) (ih hcapture))
  | @every m _ _ i u _ _ hitem _ ih =>
      rw [pushes]
      refine mem_inOrder.mpr ⟨i, m.pushes u, _, ?_, ih hcapture, by rw [Nat.zero_add]; rfl⟩
      rw [List.getElem?_map, hitem, Option.map_some]
  | @each _ m _ _ i u _ _ hpart hitem _ ih =>
      rw [pushes]
      refine mem_inOrder.mpr ⟨i, m.pushes u, _, ?_, ih hcapture, by rw [Nat.zero_add]; rfl⟩
      exact pushesEach_getElem?.mpr ⟨m, u, hpart, hitem, rfl⟩

/-- There is a way to the capture, along which the value is given to it. -/
def Push.ComesFrom (p : Push) (m : Matcher) (v : Value) : Prop :=
  ∃ inner, Reaches m v p.trail (capture p.slot inner) p.value

mutual
theorem comesFrom_of_mem : (m : Matcher) → (v : Value) → ∀ p ∈ m.pushes v, p.ComesFrom m v
  | capture slot m, v => by
      rw [pushes]
      refine List.forall_mem_cons.mpr ⟨⟨m, .here _ _⟩, List.forall_mem_map.mpr fun p hp => ?_⟩
      obtain ⟨inner, h⟩ := comesFrom_of_mem m v p hp
      exact ⟨inner, .inside h⟩
  | and l r, v => by
      rw [pushes]
      refine List.forall_mem_append.mpr ⟨List.forall_mem_map.mpr fun p hp => ?_, List.forall_mem_map.mpr fun p hp => ?_⟩
      · obtain ⟨inner, h⟩ := comesFrom_of_mem l v p hp
        exact ⟨inner, .left h⟩
      · obtain ⟨inner, h⟩ := comesFrom_of_mem r v p hp
        exact ⟨inner, .right h⟩
  | or l r, v => by
      rw [pushes]
      split
      case isTrue hl =>
        refine List.forall_mem_map.mpr fun p hp => ?_
        obtain ⟨inner, h⟩ := comesFrom_of_mem l v p hp
        exact ⟨inner, .first hl h⟩
      case isFalse hl =>
        refine List.forall_mem_map.mpr fun p hp => ?_
        obtain ⟨inner, h⟩ := comesFrom_of_mem r v p hp
        exact ⟨inner, .second (Bool.eq_false_iff.mpr hl) h⟩
  | varargAll m, v => by
      cases v with
      | list items =>
          rw [pushes]
          intro p hp
          obtain ⟨i, ps, q, hps, hq, rfl⟩ := mem_inOrder.mp hp
          obtain ⟨u, hu, rfl⟩ := List.getElem?_map .. ▸ hps |> Option.map_eq_some_iff.mp
          obtain ⟨inner, h⟩ := comesFrom_of_mem m u q hq
          rw [Nat.zero_add]
          exact ⟨inner, .every hu h⟩
      | _ => exact nofun
  | varargs ms, v => by
      cases v with
      | list items =>
          rw [pushes]
          intro p hp
          obtain ⟨i, ps, q, hps, hq, rfl⟩ := mem_inOrder.mp hp
          obtain ⟨m, u, hm, hu, rfl⟩ := pushesEach_getElem?.mp hps
          obtain ⟨inner, h⟩ := comesFrom_of_mem_each ms m (List.mem_of_getElem? hm) u q hq
          rw [Nat.zero_add]
          exact ⟨inner, .each hm hu h⟩
      | _ => exact nofun
  | any, _ | eq _, _ | same _, _ | compare _ _, _ | predicate _ _, _ | ofShape _, _ | null, _ | notNull, _ | not _, _
  | varargAny, _ | notCalled, _ => nofun

theorem comesFrom_of_mem_each : (ms : List Matcher) → ∀ m ∈ ms, ∀ v, ∀ p ∈ m.pushes v, p.ComesFrom m v
  | [] => nofun
  | m :: ms => List.forall_mem_cons.mpr ⟨comesFrom_of_mem m, comesFrom_of_mem_each ms⟩
end

theorem mem_pushes_iff : p ∈ m.pushes v ↔ p.ComesFrom m v :=
  ⟨comesFrom_of_mem m v p, fun ⟨_, h⟩ => mem_pushes_of_reaches h⟩

theorem Trail.Before.ne (h : t.Before t') : t ≠ t' := by
  rintro rfl
  induction t with
  | nil => cases h
  | cons step t ih =>
      cases h with
      | rel h =>
          cases h with
          | elements h => exact Nat.lt_irrefl _ h
      | cons h => exact ih h

/-- On one way a value is kept once. -/
theorem filter_pushes (h : p ∈ m.pushes v) : (m.pushes v).filter (·.trail == p.trail) = [p] := by
  obtain ⟨before, after, hsplit⟩ := List.append_of_mem h
  have hsorted := pushes_sorted m v
  rw [hsplit, List.pairwise_append, List.pairwise_cons] at hsorted
  obtain ⟨-, ⟨hafter, -⟩, hbefore⟩ := hsorted
  have hnone : before.filter (·.trail == p.trail) = [] := List.filter_eq_nil_iff.mpr fun q hq => by
    simpa using (hbefore q hq p List.mem_cons_self).ne
  have hnone' : after.filter (·.trail == p.trail) = [] := List.filter_eq_nil_iff.mpr fun q hq => by
    simpa using (hafter q hq).ne.symm
  rw [hsplit, List.filter_append, hnone, List.nil_append, List.filter_cons, if_pos (beq_self_eq_true p.trail), hnone']

/-- A way through an alternative is taken where this alternative accepts what it is given. -/
theorem Reaches.alternative {step : Step} {u : Value} (h : Reaches m v t' m' w) (hm : m.Pure) (hv : m.accepts v = true)
    (hlead : t ++ [step] <+: t') (hpart : m.part? t = some (or l r)) (hvalue : v.along? t = some u) :
    step = .first ∧ l.test u = .done true ∨ step = .second ∧ r.test u = .done true := by
  obtain ⟨below, rfl⟩ := hlead
  rw [List.append_assoc] at h
  obtain ⟨n, x, hn, hrest⟩ := h.split
  obtain ⟨hpure, haccepts⟩ := hn.accepts hm hv
  cases hn.part?_eq.symm.trans hpart
  cases hn.along?_eq.symm.trans hvalue
  cases hrest with
  | first hl _ => exact .inl ⟨rfl, accepts_eq_true_iff.mp hl⟩
  | second hl _ =>
      rw [Pure] at hpure
      rw [accepts_or hpure.1, hl, Bool.false_or] at haccepts
      exact .inr ⟨rfl, accepts_eq_true_iff.mp haccepts⟩

/-- What an accepted value leaves in the slots comes from captures that are not negated and accept it: the value, or an
element of it on the way to the capture. An alternative that rejects what it is given keeps nothing. A capture that can
be reached directly keeps everything that is tested there, each once and in order. -/
theorem captures_agree (hm : m.Pure) (hv : m.test v = .done true) :
    m.captures v = .done ((m.pushes v).map Push.kept) ∧
    (m.pushes v).Pairwise Push.Before ∧
    (∀ p ∈ m.pushes v, Step.negated ∉ p.trail ∧ v.along? p.trail = some p.value ∧
      ∃ inner, m.part? p.trail = some (.capture p.slot inner) ∧ inner.test p.value = .done true) ∧
    (∀ t l r u, m.part? t = some (.or l r) → v.along? t = some u → ∀ p ∈ m.pushes v,
      (l.test u = .done false → ¬ t ++ [.first] <+: p.trail) ∧
      (r.test u = .done false → ¬ t ++ [.second] <+: p.trail)) ∧
    ∀ t slot inner w, t.IsDirect → m.part? t = some (.capture slot inner) → v.along? t = some w →
      (m.pushes v).filter (·.trail == t) = [⟨t, slot, w⟩] := by
  have haccepts := accepts_eq_true_iff.mpr hv
  refine ⟨captures_eq m hm v, pushes_sorted m v, fun p hp => ?_, fun t l r u hpart hvalue p hp => ?_, ?_⟩
  · obtain ⟨inner, h⟩ := mem_pushes_iff.mp hp
    exact ⟨h.negated_notMem, h.along?_eq, inner, h.part?_eq, accepts_eq_true_iff.mp (h.accepts hm haccepts).2⟩
  · obtain ⟨inner, h⟩ := mem_pushes_iff.mp hp
    refine ⟨fun hrejects hlead => ?_, fun hrejects hlead => ?_⟩
    · rcases h.alternative hm haccepts hlead hpart hvalue with ⟨-, htest⟩ | ⟨heq, -⟩
      · cases hrejects.symm.trans htest
      · cases heq
    · rcases h.alternative hm haccepts hlead hpart hvalue with ⟨heq, -⟩ | ⟨-, htest⟩
      · cases heq
      · cases hrejects.symm.trans htest
  · intro t slot inner w ht hpart hvalue
    have hmem : (⟨t, slot, w⟩ : Push) ∈ m.pushes v := mem_pushes_iff.mpr ⟨inner, .of_isDirect ht hpart hvalue⟩
    exact filter_pushes hmem

/-- Keeps a list and each number in it, the large ones once more and the others that are two. What is negated would keep
null. -/
def keepingNumbers : Matcher :=
  .and (.capture 0 (.not (.capture 1 .null)))
    (.varargAll (.and (.capture 2 .any)
      (.or (.capture 3 (.compare .greaterOrEqual (.int 7))) (.capture 4 (.eq (.int 2))))))

theorem captures_agree_keepingNumbers : keepingNumbers.Pure ∧
    keepingNumbers.test (.list [.int 8, .int 2]) = .done true ∧
    keepingNumbers.captures (.list [.int 8, .int 2]) =
      .done [(0, .list [.int 8, .int 2]), (2, .int 8), (3, .int 8), (2, .int 2), (4, .int 2)] ∧
    (keepingNumbers.pushes (.list [.int 8, .int 2])).filter (·.trail == [.right, .element 1, .left]) =
      [⟨[.right, .element 1, .left], 2, .int 2⟩] := by
  have hm : keepingNumbers.Pure := by simp [keepingNumbers, Pure]
  have hv : keepingNumbers.test (.list [.int 8, .int 2]) = .done true := rfl
  obtain ⟨hcaptures, -, -, -, hdirect⟩ := captures_agree hm hv
  have ht : Trail.IsDirect [.right, .element 1, .left] := by simp [Trail.IsDirect]
  exact ⟨hm, hv, hcaptures, hdirect _ 2 _ _ ht rfl rfl⟩

end Matcher

end TestDouble
