import TestDouble.Proofs.Matcher.Pure
import TestDouble.Recording.Resolution

/-!
# Literal calls

The matcher of a call whose arguments are all literals accepts the calls that are the same, and no others.
Replacing an object that no argument mentions replaces its target only.
-/

namespace TestDouble

theorem Value.beqList_eq : (vs ws : List Value) → Value.beqList vs ws = (vs == ws)
  | [], [] => rfl
  | [], _ :: _ => rfl
  | _ :: _, [] => rfl
  | v :: vs, w :: ws => by rw [Value.beqList, beqList_eq vs ws, List.cons_beq_cons]; rfl

theorem Value.list_beq (vs ws : List Value) : (Value.list vs == .list ws) = (vs == ws) := beqList_eq vs ws

/-- Every object that the value is, or that it lists, has an identity below the bound. -/
def Value.Below (n : Nat) : Value → Prop
  | .object o => o.id < n
  | .list items => ∀ o, .object o ∈ items → o.id < n
  | _ => True

namespace Matcher

/-- The matcher for an argument that nothing is bound to. Trailing arguments are compared one by one. -/
def literal (varargSlot : Option Nat) (arg : Value × Nat) : Matcher :=
  match arg.1 with
  | .list items => if varargSlot = some arg.2 then .varargs (items.map .eq) else .eq arg.1
  | v => .eq v

variable {varargSlot : Option Nat} {n : Nat}

theorem literal_cases (varargSlot : Option Nat) (arg : Value × Nat) : literal varargSlot arg = .eq arg.1 ∨
    ∃ items, arg.1 = .list items ∧ literal varargSlot arg = .varargs (items.map .eq) := by
  unfold literal
  split
  case h_1 items h =>
    split
    · exact .inr ⟨items, h, rfl⟩
    · exact .inl rfl
  case h_2 => exact .inl rfl

/-! ## Acceptance -/

theorem pureEach_eq : (vs : List Value) → PureEach (vs.map .eq)
  | [] => trivial
  | v :: vs => ⟨by simp only [Pure], pureEach_eq vs⟩

theorem acceptsEach_eq : (vs ws : List Value) → acceptsEach (vs.map .eq) ws = (vs == ws)
  | [], [] => rfl
  | [], _ :: _ => rfl
  | _ :: _, [] => rfl
  | v :: vs, w :: ws => by rw [List.map_cons, acceptsEach, acceptsEach_eq vs ws, List.cons_beq_cons]; rfl

theorem pure_literal (arg : Value × Nat) : (literal varargSlot arg).Pure := by
  obtain h | ⟨items, -, h⟩ := literal_cases varargSlot arg
  · rw [h]; simp only [Pure]
  · rw [h, Pure]; exact pureEach_eq items

/-- A literal accepts what equals it. -/
theorem accepts_literal (arg : Value × Nat) (w : Value) : (literal varargSlot arg).accepts w = (arg.1 == w) := by
  obtain h | ⟨items, hv, h⟩ := literal_cases varargSlot arg
  · rw [h]; rfl
  · rw [h, hv]
    cases w with
    | list ws =>
        rw [Value.list_beq, ← acceptsEach_eq]
        by_cases hl : ws.length = (items.map Matcher.eq).length
        · simp only [accepts, test, if_pos hl, (pureEach_eq items).testEach_eq _ ws hl.symm]
        · rw [acceptsEach_of_length_ne _ _ (Ne.symm hl)]
          simp only [accepts, test, if_neg hl]
    | _ => rfl

theorem pureEach_literal (vs : List Value) (n : Nat) : PureEach ((vs.zipIdx n).map (literal varargSlot)) := by
  induction vs generalizing n with
  | nil => exact trivial
  | cons v vs ih => exact ⟨pure_literal (v, n), ih (n + 1)⟩

theorem acceptsEach_literal (vs ws : List Value) (n : Nat) :
    acceptsEach ((vs.zipIdx n).map (literal varargSlot)) ws = (vs == ws) := by
  induction vs generalizing n ws with
  | nil => cases ws <;> rfl
  | cons v vs ih =>
      cases ws with
      | nil => rfl
      | cons w ws => rw [List.zipIdx_cons, List.map_cons, acceptsEach, accepts_literal, ih, List.cons_beq_cons]

/-! ## Replacing an object -/

theorem replaceObject_eq {v : Value} {old : Nat} (hv : v.Below n) (hn : n ≤ old) (new : ObjectRef) :
    replaceObject old new (.eq v) = .eq v := by
  cases v with
  | object o =>
      have hne : (o.id == old) = false := beq_false_of_ne (Nat.ne_of_lt (Nat.lt_of_lt_of_le hv hn))
      simp only [replaceObject, hne, Bool.false_eq_true, ↓reduceIte]
  | _ => rfl

theorem replaceObjectEach_eq {old : Nat} (hn : n ≤ old) (new : ObjectRef) : (vs : List Value) →
    (∀ o, .object o ∈ vs → o.id < n) → replaceObjectEach old new (vs.map .eq) = vs.map .eq
  | [], _ => rfl
  | v :: vs, h => by
      have hrest := replaceObjectEach_eq hn new vs fun o ho => h o (List.mem_cons_of_mem v ho)
      rw [List.map_cons, replaceObjectEach, hrest]
      cases v with
      | object o => rw [replaceObject_eq (v := .object o) (h o List.mem_cons_self) hn]
      | _ => rfl

theorem replaceObject_literal {arg : Value × Nat} {old : Nat} (hv : arg.1.Below n) (hn : n ≤ old) (new : ObjectRef) :
    replaceObject old new (literal varargSlot arg) = literal varargSlot arg := by
  obtain h | ⟨items, hitems, h⟩ := literal_cases varargSlot arg
  · rw [h, replaceObject_eq hv hn]
  · rw [hitems] at hv
    rw [h, replaceObject, replaceObjectEach_eq hn new items hv]

theorem replaceObjectEach_literal {vs : List Value} {old : Nat} (hvs : ∀ v ∈ vs, v.Below n) (hn : n ≤ old)
    (new : ObjectRef) (k : Nat) : replaceObjectEach old new ((vs.zipIdx k).map (literal varargSlot)) =
      (vs.zipIdx k).map (literal varargSlot) := by
  induction vs generalizing k with
  | nil => rfl
  | cons v vs ih =>
      have hv : (v, k).1.Below n := hvs v List.mem_cons_self
      rw [List.zipIdx_cons, List.map_cons, replaceObjectEach, replaceObject_literal hv hn,
        ih fun w hw => hvs w (List.mem_cons_of_mem v hw)]

end Matcher

/-- The same target, method and arguments, perhaps at another time. -/
structure Call.Repeats (c d : Call) : Prop where
  target : c.target = d.target
  method : c.method = d.method
  args : c.args = d.args

namespace CallMatcher

/-- Accepts the calls that are the same. -/
def literal (c : Call) : CallMatcher := ⟨c.target, c.method, c.args.zipIdx.map (Matcher.literal c.method.varargSlot?)⟩

theorem literal_repeats {c d : Call} (h : c.Repeats d) : literal c = literal d := by
  rw [literal, literal, h.target, h.method, h.args]

theorem test_repeats (m : CallMatcher) {c d : Call} (h : c.Repeats d) : m.test c = m.test d := by
  rw [test, test, h.target, h.method, h.args]

theorem captures_repeats (m : CallMatcher) {c d : Call} (h : c.Repeats d) : m.captures c = m.captures d := by
  rw [captures, captures, h.args]

theorem isNotCalled_literal (c : Call) : (literal c).isNotCalled = false := by
  rw [Bool.eq_false_iff]
  intro h
  unfold isNotCalled at h
  split at h
  case h_1 hargs =>
    obtain ⟨arg, -, harg⟩ := List.map_eq_singleton_iff.mp hargs
    obtain he | ⟨items, -, he⟩ := Matcher.literal_cases c.method.varargSlot? arg
    · cases he.symm.trans harg
    · cases he.symm.trans harg
  case h_2 => cases h

theorem test_literal (c d : Call) : (literal c).test d = .done (c.sameAs d) := by
  rw [test_eq (Matcher.pureEach_literal c.args 0) (isNotCalled_literal c), accepts, Call.sameAs]
  exact congrArg (fun b => Probe.done (c.target == d.target && c.method == d.method && b))
    (Matcher.acceptsEach_literal c.args d.args 0)

theorem captures_literal (c d : Call) : ((literal c).captures d).Pure :=
  captures_pure (Matcher.pureEach_literal c.args 0) d

/-- Only the target can be replaced where no argument mentions the object. -/
theorem replaceObject_literal {c : Call} {old n : Nat} (hargs : ∀ v ∈ c.args, v.Below n) (hn : n ≤ old)
    (new : ObjectRef) : (literal c).replaceObject old new =
      literal { c with target := if c.target.id == old then new else c.target } := by
  rw [replaceObject, literal, literal]
  dsimp only
  rw [Matcher.replaceObjectEach_literal hargs hn]

end CallMatcher

namespace Round

variable (r : Round)

theorem argMatcher_nil (call : Nat) (varargSlot : Option Nat) (arg : Value × Nat) :
    r.argMatcher [] call varargSlot arg = Matcher.literal varargSlot arg := by
  have hnone : ∀ a, r.boundMatcher? [] a = none := fun a => rfl
  obtain ⟨v, n⟩ := arg
  cases v with
  | list items =>
      have helements : (items.zipIdx.map fun item => Matcher.eq item.1) = items.map .eq := by
        have hmap := congrArg (List.map Matcher.eq) (List.zipIdx_map_fst 0 items)
        rwa [List.map_map] at hmap
      have hfind : (items.map Matcher.eq).find? Matcher.isVarargWildcard = none := by simp [Matcher.isVarargWildcard]
      simp only [argMatcher, Matcher.literal, hnone, Option.getD_none, helements, hfind]
  | _ => rfl

/-- Where nothing is bound, a call is resolved to its literals. -/
theorem callMatcher_nil (c : CapturedCall × Nat) : r.callMatcher [] c = .literal c.1.call := by
  rw [callMatcher, CallMatcher.literal]
  exact congrArg (CallMatcher.mk _ _) (List.map_congr_left fun arg _ => r.argMatcher_nil c.2 _ arg)

end Round

end TestDouble
