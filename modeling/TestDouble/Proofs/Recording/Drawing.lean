import TestDouble.Proofs.Value.Equality
import TestDouble.Recording.Signature

/-!
# Drawn values

A drawn value has the shape that was asked for, equals itself, and is a fresh object if it is an object at
all. Drawing keeps the number of the round.
-/

namespace TestDouble

namespace Generator

/-! ## The state of drawing -/

/-- What drawing does to the state: the round stays, and identities are only taken. -/
structure Advances (before after : Generator × Nat) : Prop where
  round : after.1.round = before.1.round
  le : before.2 ≤ after.2

theorem Advances.refl (st : Generator × Nat) : Advances st st := ⟨rfl, Nat.le_refl _⟩

theorem Advances.trans {a b c : Generator × Nat} (h : Advances a b) (h' : Advances b c) : Advances a c :=
  ⟨h'.round.trans h.round, Nat.le_trans h.le h'.le⟩

/-- Running the parts of a drawing one after the other. -/
theorem bind_apply {α β : Type} (d : Drawing α) (f : α → Drawing β) (st : Generator × Nat) :
    (d >>= f) st = f (d st).1 (d st).2 := rfl

theorem pure_apply {α : Type} (a : α) (st : Generator × Nat) : (pure a : Drawing α) st = (a, st) := rfl

theorem get_apply (st : Generator × Nat) : (get : Drawing (Generator × Nat)) st = (st, st) := rfl

theorem below_lt {n : Nat} (hn : 0 < n) (st : Generator × Nat) : (below n st).1 < n := Nat.mod_lt _ hn

/-! ## Fractions that are numbers -/

theorem float_self {bits : UInt32} (h : bits.toNat % 2147483648 ≤ 2139095040) :
    (Value.float bits == .float bits) = true := by
  simp [BEq.beq, Value.beq, Decimal.BinaryFormat.equal, Decimal.BinaryFormat.isNaN,
    Decimal.BinaryFormat.infinityBits, Decimal.BinaryFormat.magnitudeBits, Decimal.binary32, Nat.not_lt.mpr h]

theorem double_self {bits : UInt64} (h : bits.toNat % 9223372036854775808 ≤ 9218868437227405312) :
    (Value.double bits == .double bits) = true := by
  simp [BEq.beq, Value.beq, Decimal.BinaryFormat.equal, Decimal.BinaryFormat.isNaN,
    Decimal.BinaryFormat.infinityBits, Decimal.BinaryFormat.magnitudeBits, Decimal.binary64, Nat.not_lt.mpr h]

theorem drawFloat_self (st : Generator × Nat) : ((drawFloat st).1 == (drawFloat st).1) = true := by
  simp only [drawFloat, bind_apply, pure_apply]
  have hw := below_lt (n := 1 <<< 20) (by decide) st
  have he := below_lt (n := 7) (by decide) (below (1 <<< 20) st).2
  have hs := below_lt (n := 2) (by decide) (below 7 (below (1 <<< 20) st).2).2
  refine float_self ?_
  rw [UInt32.toNat_ofNat']
  omega

theorem drawDouble_self (st : Generator × Nat) : ((drawDouble st).1 == (drawDouble st).1) = true := by
  simp only [drawDouble, bind_apply, pure_apply]
  have hw := below_lt (n := 1 <<< 40) (by decide) st
  have hf := below_lt (n := 4089) (by decide) (below (1 <<< 40) st).2
  have hs := below_lt (n := 2) (by decide) (below 4089 (below (1 <<< 40) st).2).2
  refine double_self ?_
  rw [UInt64.toNat_ofNat']
  omega

/-! ## Drawn values -/

/-- A value drawn for a shape. -/
structure Drawn (s : Shape) (before : Generator × Nat) (v : Value) (after : Generator × Nat) : Prop where
  shape : v.shape = s
  self : (v == v) = true
  /-- Flags follow the round. -/
  flag : s = .bool → v = .bool (before.1.round % 2 == 0)
  fresh : ∀ o, v.object? = some o → before.2 ≤ o.id ∧ o.id < after.2

/-- What may be said of a drawing that may give no value. -/
def Draws (s : Shape) (d : Drawing (Option Value)) : Prop :=
  ∀ st, Advances st (d st).2 ∧ ∀ v, (d st).1 = some v → Drawn s st v (d st).2

theorem Drawn.later {s : Shape} {a b c : Generator × Nat} {v : Value} (h : Drawn s b v c) (h' : Advances a b) :
    Drawn s a v c :=
  ⟨h.shape, h.self, h'.round ▸ h.flag, fun o ho => ⟨Nat.le_trans h'.le (h.fresh o ho).1, (h.fresh o ho).2⟩⟩

theorem Drawn.before {s : Shape} {a b c : Generator × Nat} {v : Value} (h : Drawn s a v b) (h' : Advances b c) :
    Drawn s a v c :=
  ⟨h.shape, h.self, h.flag, fun o ho => ⟨(h.fresh o ho).1, Nat.lt_of_lt_of_le (h.fresh o ho).2 h'.le⟩⟩

theorem redraw_succ (d : Drawing (Option Value)) (n : Nat) (v : Value) (st : Generator × Nat) :
    redraw d (n + 1) v st = if st.1.issued.contains v then
      match (d st).1 with
      | some v' => redraw d n v' (d st).2
      | none => (none, (d st).2)
    else (some v, st) := by
  rw [redraw, bind_apply, get_apply]
  split
  · rw [bind_apply]; cases (d st).1 <;> rfl
  · rfl

theorem redraw_draws {s : Shape} {d : Drawing (Option Value)} (hd : Draws s d) (n : Nat) (v : Value)
    (start st : Generator × Nat) (ha : Advances start st) (hv : Drawn s start v st) :
    Advances start (redraw d n v st).2 ∧
      ∀ w, (redraw d n v st).1 = some w → Drawn s start w (redraw d n v st).2 := by
  induction n generalizing v st with
  | zero => exact ⟨ha, fun w hw => by cases hw; exact hv⟩
  | succ n ih =>
      rw [redraw_succ]
      split
      · obtain ⟨hadv, hdraw⟩ := hd st
        cases hw : (d st).1 with
        | none => exact ⟨ha.trans hadv, by simp⟩
        | some v' => exact ih v' (d st).2 (ha.trans hadv) ((hdraw v' hw).later ha)
      · exact ⟨ha, fun w hw => by cases hw; exact hv⟩

theorem issue_apply (s : Shape) (d : Drawing (Option Value)) (st : Generator × Nat) : issue s d st =
    match (d st).1 with
    | none => (none, (d st).2)
    | some v =>
      if s.isDistinguishable then
        match redraw d maxRedraws v (d st).2 with
        | (none, st) => (none, st)
        | (some v, st) => (some v, { st.1 with issued := st.1.issued ++ [v] }, st.2)
      else (some v, (d st).2) := by
  rw [issue, bind_apply]
  cases (d st).1 with
  | none => rfl
  | some v =>
      dsimp only
      split
      · rw [bind_apply]
        cases redraw d maxRedraws v (d st).2 with
        | mk w st => cases w <;> rfl
      · rfl

theorem issue_draws {s : Shape} {d : Drawing (Option Value)} (hd : Draws s d) : Draws s (issue s d) := by
  intro st
  rw [issue_apply]
  obtain ⟨hadv, hdraw⟩ := hd st
  cases hv : (d st).1 with
  | none => exact ⟨hadv, by simp⟩
  | some v =>
      by_cases hs : s.isDistinguishable
      · obtain ⟨hadv', hdraw'⟩ := redraw_draws hd maxRedraws v st (d st).2 hadv (hdraw v hv)
        simp only [hs, ↓reduceIte]
        cases hr : redraw d maxRedraws v (d st).2 with
        | mk w st' =>
            rw [hr] at hadv' hdraw'
            cases w with
            | none => exact ⟨hadv', by simp⟩
            | some w =>
                have hkeep : Advances st' ({ st'.1 with issued := st'.1.issued ++ [w] }, st'.2) :=
                  ⟨rfl, Nat.le_refl _⟩
                refine ⟨hadv'.trans hkeep, fun u hu => ?_⟩
                cases hu
                exact (hdraw' w rfl).before hkeep
      · simp only [hs, Bool.false_eq_true, ↓reduceIte]
        exact ⟨hadv, fun w hw => by cases hw; exact hdraw v hv⟩

/-- A scalar other than a flag, drawn without an identity. -/
theorem Draws.scalar {s : Shape} {d : Drawing (Option Value)} (hb : s ≠ .bool)
    (h : ∀ st, Advances st (d st).2 ∧ ∃ v, (d st).1 = some v ∧ v.shape = s ∧ (v == v) = true ∧ v.object? = none) :
    Draws s d := by
  intro st
  obtain ⟨hadv, v, hv, hs, hself, ho⟩ := h st
  refine ⟨hadv, fun w hw => ?_⟩
  cases hv.symm.trans hw
  exact ⟨hs, hself, fun h => absurd h hb, fun o h => by rw [ho] at h; cases h⟩

theorem draw_draws : (s : Shape) → Draws s (draw s)
  | .unit => .scalar (by simp) fun st => ⟨.refl st, _, rfl, rfl, rfl, rfl⟩
  | .bool => fun st => ⟨.refl st, fun v hv => by
      cases hv
      exact ⟨rfl, by simp [BEq.beq, Value.beq], fun _ => rfl, by simp [Value.object?]⟩⟩
  | .byte => .scalar (by simp) fun st => ⟨⟨rfl, Nat.le_refl _⟩, _, rfl, rfl, by simp [BEq.beq, Value.beq], rfl⟩
  | .short => .scalar (by simp) fun st => ⟨⟨rfl, Nat.le_refl _⟩, _, rfl, rfl, by simp [BEq.beq, Value.beq], rfl⟩
  | .int => .scalar (by simp) fun st => ⟨⟨rfl, Nat.le_refl _⟩, _, rfl, rfl, by simp [BEq.beq, Value.beq], rfl⟩
  | .long => .scalar (by simp) fun st => ⟨⟨rfl, Nat.le_refl _⟩, _, rfl, rfl, by simp [BEq.beq, Value.beq], rfl⟩
  | .float => .scalar (by simp) fun st => ⟨⟨rfl, Nat.le_refl _⟩, _, rfl, rfl, drawFloat_self st, rfl⟩
  | .double => .scalar (by simp) fun st => ⟨⟨rfl, Nat.le_refl _⟩, _, rfl, rfl, drawDouble_self st, rfl⟩
  | .char => .scalar (by simp) fun st => ⟨⟨rfl, Nat.le_refl _⟩, _, rfl, rfl, by simp [BEq.beq, Value.beq], rfl⟩
  | .str => .scalar (by simp) fun st => ⟨⟨rfl, Nat.le_refl _⟩, _, rfl, rfl, by simp [BEq.beq, Value.beq], rfl⟩
  | .duration => .scalar (by simp) fun st => ⟨⟨rfl, Nat.le_refl _⟩, _, rfl, rfl, by simp [BEq.beq, Value.beq], rfl⟩
  | .list element => fun st => by
      obtain ⟨hadv, hdraw⟩ := issue_draws (draw_draws element) st
      refine ⟨hadv, fun v hv => ?_⟩
      obtain ⟨w, hw, rfl⟩ := Option.map_eq_some_iff.mp hv
      have hd := hdraw w hw
      refine ⟨by rw [Value.shape, hd.shape], ?_, by simp, by simp [Value.object?]⟩
      simpa [BEq.beq, Value.beq, Value.beqList] using hd.self
  | .object className => fun st => by
      refine ⟨⟨rfl, Nat.le_succ _⟩, fun v hv => ?_⟩
      cases hv
      refine ⟨rfl, by simp [BEq.beq, Value.beq], by simp, fun o ho => ?_⟩
      cases ho
      exact ⟨Nat.le_refl _, Nat.lt_succ_self _⟩
  | .generic => fun st => ⟨.refl st, fun v hv => by cases hv⟩

theorem signature?_draws (s : Shape) : Draws s (signature? s) := issue_draws (draw_draws s)

end Generator

end TestDouble
