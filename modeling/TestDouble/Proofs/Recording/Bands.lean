import TestDouble.Proofs.Decimal.Binary
import TestDouble.Proofs.Recording.Reading
import TestDouble.Proofs.Text.Numerals

/-!
# Bands

Every shape but an unknown one has stand-ins. They are of this shape, lists have one element, and what lists of lists
hold in the end comes from the band of its shape. Whole numbers in their bands can be doubled.

`Value.InBand` gives the bands as numbers, and `Generator.inBand_iff` shows that `Generator.inBand` checks just them.
-/

namespace TestDouble

/-! ## Shapes and values in depth -/

/-- The shape of what lists of lists hold in the end. -/
def Shape.innermost : Shape → Shape
  | .list element => element.innermost
  | s => s

theorem Shape.isKnown_iff : {s : Shape} → (s.isKnown = true ↔ s.innermost ≠ .generic)
  | .list element => Shape.isKnown_iff (s := element)
  | .generic => ⟨nofun, fun h => absurd rfl h⟩
  | .unit | .bool | .byte | .short | .int | .long | .float | .double | .char | .str | .duration | .object _ =>
    ⟨fun _ => nofun, fun _ => rfl⟩

/-- The magnitude as a fraction. -/
def Decimal.Dyadic.value (x : Decimal.Dyadic) : ℚ := x.significand * 2 ^ x.exponent

namespace Value

/-- The value itself, or a part of one of its elements. -/
inductive Part : Value → Value → Prop where
  | self (v : Value) : Part v v
  | element {u v : Value} {items : List Value} (hv : v ∈ items) (h : Part u v) : Part u (.list items)

/-- The bands of scalars. Flags have none and follow the number of the round. -/
def InBand (round : Nat) : Value → Prop
  | .bool b => b = (round % 2 == 0)
  | .byte n => -64 ≤ n.toInt ∧ n.toInt < -32
  | .short n => 2 ^ 13 ≤ n.toInt.natAbs ∧ n.toInt.natAbs < 2 ^ 14
  | .int n => 2 ^ 29 ≤ n.toInt.natAbs ∧ n.toInt.natAbs < 2 ^ 30
  | .long n => 2 ^ 61 ≤ n.toInt.natAbs ∧ n.toInt.natAbs < 2 ^ 62
  | .float bits =>
    2 ^ 20 ≤ (Decimal.binary32.dyadic bits.toNat).value ∧ (Decimal.binary32.dyadic bits.toNat).value < 2 ^ 21
  | .double bits =>
    2 ^ 40 ≤ (Decimal.binary64.dyadic bits.toNat).value ∧ (Decimal.binary64.dyadic bits.toNat).value < 2 ^ 41
  | .char c => 0xe000 ≤ c.toNat ∧ c.toNat ≤ 0xf8ff
  | .str s => ∃ digits : List Char, s.toList = "sig:".toList ++ digits ∧ digits.length = 16 ∧
      ∀ c ∈ digits, ∃ d < 16, c = Nat.digitChar d
  | .duration d => 2 ^ 20 ≤ d.seconds ∧ d.seconds < 2 ^ 30
  | .null => False
  | .unit | .list _ | .object _ => True

/-- A whole number that does not overflow when it is doubled. -/
def Doubles : Value → Prop
  | .byte n => (n + n).toInt = 2 * n.toInt
  | .short n => (n + n).toInt = 2 * n.toInt
  | .int n => (n + n).toInt = 2 * n.toInt
  | .long n => (n + n).toInt = 2 * n.toInt
  | _ => True

/-- What every part of a stand-in is like. -/
structure Banded (round : Nat) (v : Value) : Prop where
  inBand : v.InBand round
  single : ∀ items, v = .list items → items.length = 1

/-- The bands leave room for doubling. -/
theorem InBand.doubles {round : Nat} : {v : Value} → v.InBand round → v.Doubles
  | .byte n, ⟨hlow, hhigh⟩ => by
      rw [Doubles, Int8.toInt_add]
      exact (Int.bmod_eq_of_le (by omega) (by omega)).trans (by omega)
  | .short n, ⟨hlow, hhigh⟩ => by
      rw [Doubles, Int16.toInt_add]
      exact (Int.bmod_eq_of_le (by omega) (by omega)).trans (by omega)
  | .int n, ⟨hlow, hhigh⟩ => by
      rw [Doubles, Int32.toInt_add]
      exact (Int.bmod_eq_of_le (by omega) (by omega)).trans (by omega)
  | .long n, ⟨hlow, hhigh⟩ => by
      rw [Doubles, Int64.toInt_add]
      exact (Int.bmod_eq_of_le (by omega) (by omega)).trans (by omega)
  | .unit, _ | .bool _, _ | .float _, _ | .double _, _ | .char _, _ | .str _, _ | .duration _, _ | .list _, _
  | .object _, _ => trivial

/-- A value that is no list is its only part. -/
theorem forall_part_iff {p : Value → Prop} {v : Value} (hv : ∀ items, v ≠ .list items) :
    (∀ u, Part u v → p u) ↔ p v := by
  refine ⟨fun h => h v (.self v), fun h u hu => ?_⟩
  cases hu with
  | self => exact h
  | element => exact absurd rfl (hv _)

theorem forall_part_list_iff {p : Value → Prop} {items : List Value} :
    (∀ u, Part u (.list items) → p u) ↔ p (.list items) ∧ ∀ v ∈ items, ∀ u, Part u v → p u := by
  refine ⟨fun h => ⟨h _ (.self _), fun v hv u hu => h u (.element hv hu)⟩, fun ⟨hself, helements⟩ u hu => ?_⟩
  cases hu with
  | self => exact hself
  | element hv hu => exact helements _ hv u hu

end Value

namespace Generator

open Decimal

/-! ## Numbers -/

theorem natAbs_signed (bits : Nat) (st : Generator × Nat) :
    2 ^ bits ≤ (signed bits st).1.natAbs ∧ (signed bits st).1.natAbs < 2 ^ (bits + 1) := by
  have hn := below_lt (n := 1 <<< bits) (by rw [Nat.one_shiftLeft]; exact Nat.two_pow_pos bits) (below 2 st).2
  simp only [signed, bind_apply, pure_apply]
  rw [Nat.one_shiftLeft] at hn ⊢
  split <;> omega

theorem banded_byte {round n : Nat} (hn : n < 32) : Value.Banded round (.byte (.ofInt (-33 - (n : Nat)))) where
  inBand := by
    rw [Value.InBand, Int8.toInt_ofInt_of_le (by omega) (by omega)]
    omega
  single := nofun

theorem banded_short {round : Nat} {n : Int} (h : 2 ^ 13 ≤ n.natAbs ∧ n.natAbs < 2 ^ 14) :
    Value.Banded round (.short (.ofInt n)) where
  inBand := by rwa [Value.InBand, Int16.toInt_ofInt_of_le (by omega) (by omega)]
  single := nofun

theorem banded_int {round : Nat} {n : Int} (h : 2 ^ 29 ≤ n.natAbs ∧ n.natAbs < 2 ^ 30) :
    Value.Banded round (.int (.ofInt n)) where
  inBand := by rwa [Value.InBand, Int32.toInt_ofInt_of_le (by omega) (by omega)]
  single := nofun

theorem banded_long {round : Nat} {n : Int} (h : 2 ^ 61 ≤ n.natAbs ∧ n.natAbs < 2 ^ 62) :
    Value.Banded round (.long (.ofInt n)) where
  inBand := by rwa [Value.InBand, Int64.toInt_ofInt_of_le (by omega) (by omega)]
  single := nofun

/-! ## Fractions -/

section

variable {f : BinaryFormat} {bits e n : Nat} {k : Int}

/-- A number whose exponent field is that of `2 ^ k` lies between `2 ^ k` and `2 ^ (k + 1)`. -/
theorem dyadic_value_mem (hbits : f.magnitudeBits bits = 2 ^ f.fractionBits * e + n)
    (hfraction : n < 2 ^ f.fractionBits) (hexponent : e ≠ 0) (hk : f.least + e - 1 = k - f.fractionBits) :
    2 ^ k ≤ (f.dyadic bits).value ∧ (f.dyadic bits).value < 2 ^ (k + 1) := by
  have hlt : 2 ^ f.fractionBits * e + n < 2 ^ (f.fractionBits + f.exponentBits) := by
    rw [← hbits]
    exact BinaryFormat.magnitudeBits_lt bits
  have hscale : (0 : ℚ) < 2 ^ (k - f.fractionBits) := zpow_pos (by norm_num) _
  have hpower : (2 : ℚ) ^ k = (2 ^ f.fractionBits : ℕ) * 2 ^ (k - f.fractionBits) := by
    rw [Nat.cast_pow, Nat.cast_ofNat, ← zpow_natCast, ← zpow_add₀ (by norm_num)]
    congr 1
    omega
  rw [← BinaryFormat.dyadic_magnitudeBits, hbits, BinaryFormat.dyadic_fields hfraction hlt, if_neg hexponent, hk,
    Dyadic.value, zpow_add_one₀ (by norm_num), hpower, mul_right_comm]
  refine ⟨mul_le_mul_of_nonneg_right ?_ hscale.le, mul_lt_mul_of_pos_right ?_ hscale⟩
  · exact_mod_cast Nat.le_add_right _ _
  · exact_mod_cast (by omega : 2 ^ f.fractionBits + n < 2 ^ f.fractionBits * 2)

/-- Numbers without an exponent are smaller than the others. -/
theorem dyadic_value_lt (hbits : f.magnitudeBits bits = n) (hfraction : n < 2 ^ f.fractionBits)
    (hk : f.least + f.fractionBits ≤ k) : (f.dyadic bits).value < 2 ^ k := by
  have hvalue : (f.dyadic bits).value = n * 2 ^ f.least := by
    have hlt := BinaryFormat.magnitudeBits_lt (f := f) bits
    have hfields : f.dyadic (2 ^ f.fractionBits * 0 + n) = _ := BinaryFormat.dyadic_fields hfraction (by omega)
    rw [Nat.mul_zero, Nat.zero_add, if_pos rfl] at hfields
    rw [← BinaryFormat.dyadic_magnitudeBits, hbits, hfields, Dyadic.value]
  calc (f.dyadic bits).value = n * 2 ^ f.least := hvalue
    _ < (2 ^ f.fractionBits : ℕ) * 2 ^ f.least :=
      mul_lt_mul_of_pos_right (by exact_mod_cast hfraction) (zpow_pos (by norm_num) _)
    _ = 2 ^ (f.least + f.fractionBits) := by
      rw [zpow_add₀ (by norm_num), mul_comm, zpow_natCast, Nat.cast_pow, Nat.cast_ofNat]
    _ ≤ 2 ^ k := zpow_le_zpow_right₀ (by norm_num) hk

/-- The numbers with the exponent field of `2 ^ k` are those from `2 ^ k` up to `2 ^ (k + 1)`. -/
theorem exponent_eq_iff (he : e ≠ 0) (hk : f.least + e - 1 = k - f.fractionBits) :
    f.magnitudeBits bits >>> f.fractionBits = e ↔
      2 ^ k ≤ (f.dyadic bits).value ∧ (f.dyadic bits).value < 2 ^ (k + 1) := by
  obtain ⟨e', n, hn, hbits⟩ := f.exists_fields (f.magnitudeBits bits)
  have hexponent : f.magnitudeBits bits >>> f.fractionBits = e' := by
    rw [hbits, Nat.shiftRight_eq_div_pow, Nat.mul_add_div (Nat.two_pow_pos _), Nat.div_eq_of_lt hn, Nat.add_zero]
  rw [hexponent]
  refine ⟨?_, fun ⟨hle, hlt⟩ => ?_⟩
  · rintro rfl
    exact dyadic_value_mem hbits hn he hk
  · rcases Nat.eq_zero_or_pos e' with rfl | hpos
    · rw [Nat.mul_zero, Nat.zero_add] at hbits
      exact absurd hle (not_le.mpr (dyadic_value_lt hbits hn (by omega)))
    · -- a number lies in one binade only
      obtain ⟨hle', hlt'⟩ := dyadic_value_mem (k := f.least + e' - 1 + f.fractionBits) hbits hn hpos.ne' (by omega)
      have hupper := (zpow_lt_zpow_iff_right₀ (by norm_num)).mp (hle.trans_lt hlt')
      have hlower := (zpow_lt_zpow_iff_right₀ (by norm_num)).mp (hle'.trans_lt hlt)
      omega

end

theorem banded_float {round whole eighths sign : Nat} (hwhole : whole < 1 <<< 20) (heighths : eighths < 7) :
    Value.Banded round (.float (.ofNat (sign <<< 31 + 147 <<< 23 + whole <<< 3 + eighths + 1))) where
  inBand := by
    rw [Value.InBand, UInt32.toNat_ofNat']
    refine dyadic_value_mem (e := 147) (n := 8 * whole + eighths + 1) (k := 20) ?_ ?_ (by decide)
      (by decide)
    · simp only [BinaryFormat.magnitudeBits, binary32, Nat.reduceAdd, Nat.one_shiftLeft]
      omega
    · simp only [binary32]
      omega
  single := nofun

theorem banded_double {round whole fraction sign : Nat} (hwhole : whole < 1 <<< 40) (hfraction : fraction < 4089) :
    Value.Banded round (.double (.ofNat (sign <<< 63 + 1063 <<< 52 + whole <<< 12 + fraction + 4))) where
  inBand := by
    rw [Value.InBand, UInt64.toNat_ofNat']
    refine dyadic_value_mem (e := 1063) (n := 4096 * whole + fraction + 4) (k := 40) ?_ ?_ (by decide)
      (by decide)
    · simp only [BinaryFormat.magnitudeBits, binary64, Nat.reduceAdd, Nat.one_shiftLeft]
      omega
    · simp only [binary64]
      omega
  single := nofun

/-! ## Text -/

theorem banded_str {round n : Nat} (hn : n < 1 <<< 64) : Value.Banded round (.str ("sig:" ++ hexText n)) where
  inBand := by
    have hlength : (Nat.toDigits 16 n).length ≤ 16 := (Nat.length_toDigits_le_iff (by decide) (by decide)).mpr hn
    refine ⟨List.replicate (16 - (Nat.toDigits 16 n).length) '0' ++ Nat.toDigits 16 n, ?_, ?_, fun c hc => ?_⟩
    · simp only [hexText, String.toList_append, String.toList_ofList]
    · rw [List.length_append, List.length_replicate]
      omega
    · rcases List.mem_append.mp hc with hc | hc
      · exact ⟨0, by decide, (List.mem_replicate.mp hc).2⟩
      · exact Text.mem_toDigits (by decide) hc
  single := nofun

theorem banded_char {round n : Nat} (hn : n < 0x1900) : Value.Banded round (.char (.ofNat (0xe000 + n))) where
  inBand := by
    have hvalid : (0xe000 + n).isValidChar := .inr ⟨by omega, by omega⟩
    have htoNat : (Char.ofNat (0xe000 + n)).toNat = 0xe000 + n := by rw [Char.ofNat, dif_pos hvalid]; rfl
    rw [Value.InBand, htoNat]
    omega
  single := nofun

theorem banded_duration {round seconds nanos : Nat} (hseconds : seconds < 1 <<< 30 - 1 <<< 20)
    (hnanos : nanos < 1000000000) : Value.Banded round (.duration (.ofParts (1 <<< 20 + seconds) nanos)) where
  inBand := by
    simp only [Value.InBand, Duration.ofParts, Nat.div_eq_of_lt hnanos]
    omega
  single := nofun

/-! ## The bands as they are checked -/

/-- Text in its band: four fixed characters and sixteen hexadecimal digits. -/
theorem text_inBand_iff {s : String} :
    (s.toList.take 4 == "sig:".toList && s.length == 20 &&
      (s.toList.drop 4).all fun c => c.isDigit || ('a' ≤ c && c ≤ 'f')) = true ↔
    ∃ digits : List Char, s.toList = "sig:".toList ++ digits ∧ digits.length = 16 ∧
      ∀ c ∈ digits, ∃ d < 16, c = Nat.digitChar d := by
  simp only [Bool.and_eq_true, beq_iff_eq, List.all_eq_true, Text.isHexDigit_iff, ← String.length_toList]
  constructor
  · rintro ⟨⟨hhead, hlength⟩, hdigits⟩
    refine ⟨s.toList.drop 4, ?_, ?_, hdigits⟩
    · rw [← hhead, List.take_append_drop]
    · rw [List.length_drop, hlength]
  · rintro ⟨digits, hs, hlength, hdigits⟩
    rw [hs]
    exact ⟨⟨rfl, by rw [List.length_append, hlength]; rfl⟩, hdigits⟩

theorem hasBits_iff {bits : Nat} {n : Int} :
    hasBits bits n = true ↔ 2 ^ bits ≤ n.natAbs ∧ n.natAbs < 2 ^ (bits + 1) := by
  simp only [hasBits, Nat.one_shiftLeft, Bool.and_eq_true, decide_eq_true_eq]

theorem inBand_list_iff {round : Nat} {element : Shape} {items : List Value} :
    inBand round (.list element) (.list items) = true ↔ ∃ v, items = [v] ∧ inBand round element v = true := by
  rw [inBand, Bool.and_eq_true, beq_iff_eq, List.length_eq_one_iff]
  constructor
  · rintro ⟨⟨v, rfl⟩, hv⟩
    exact ⟨v, rfl, List.all_eq_true.mp hv v List.mem_cons_self⟩
  · rintro ⟨v, rfl, hv⟩
    exact ⟨⟨v, rfl⟩, by rw [List.all_cons, hv]; rfl⟩

/-- What is in the band of a shape has this shape. -/
theorem shape_of_inBand {round : Nat} {s : Shape} {v : Value} (h : inBand round s v = true) : v.shape = s := by
  fun_induction inBand round s v with
  | case12 element items ih =>
      obtain ⟨w, rfl, hw⟩ := inBand_list_iff.mp h
      exact congrArg Shape.list (ih w hw)
  | case13 className o => exact congrArg Shape.object (beq_iff_eq.mp h)
  | case14 => cases h
  | _ => rfl

theorem inBand_scalar_iff {round : Nat} {v : Value} (hv : ∀ items, v ≠ .list items) :
    inBand round v.shape v = true ↔ v.InBand round := by
  cases v with
  | unit => exact iff_of_true rfl trivial
  | null => exact iff_of_false Bool.false_ne_true id
  | bool b => exact beq_iff_eq
  | byte n => simp only [Value.shape, inBand, Value.InBand, Bool.and_eq_true, decide_eq_true_eq]
  | short n => exact hasBits_iff
  | int n => exact hasBits_iff
  | long n => exact hasBits_iff
  | float bits => exact beq_iff_eq.trans (exponent_eq_iff (f := binary32) (e := 147) (k := 20) (by decide) (by decide))
  | double bits =>
      exact beq_iff_eq.trans (exponent_eq_iff (f := binary64) (e := 1063) (k := 40) (by decide) (by decide))
  | char c =>
      simp only [Value.shape, inBand, Value.InBand, Bool.and_eq_true, decide_eq_true_eq]
      omega
  | str s => exact text_inBand_iff
  | duration d =>
      simp only [Value.shape, inBand, Value.InBand, Bool.and_eq_true, decide_eq_true_eq, Nat.one_shiftLeft]
  | list items => exact absurd rfl (hv items)
  | object o => exact iff_of_true (beq_self_eq_true _) trivial

theorem inBand_parts_iff {round : Nat} {v : Value} (hv : ∀ items, v ≠ .list items) :
    inBand round v.shape v = true ↔ ∀ u, Value.Part u v → u.Banded round := by
  rw [inBand_scalar_iff hv, Value.forall_part_iff hv]
  exact ⟨fun h => ⟨h, fun items hitems => absurd hitems (hv items)⟩, Value.Banded.inBand⟩

/-- A list of one element is in the band of its shape if the element is, and no other list is. -/
theorem inBand_elements_iff {round : Nat} {items : List Value}
    (h : ∀ v ∈ items, (inBand round v.shape v = true ↔ ∀ u, Value.Part u v → u.Banded round)) :
    inBand round (Value.list items).shape (.list items) = true ↔
      ∀ u, Value.Part u (.list items) → u.Banded round := by
  rw [Value.forall_part_list_iff]
  constructor
  · intro hband
    cases items with
    | nil => cases hband
    | cons v items =>
        obtain ⟨w, hw, helement⟩ := inBand_list_iff.mp hband
        cases hw
        refine ⟨⟨trivial, fun items hitems => by cases hitems; rfl⟩, List.forall_mem_singleton.mpr ?_⟩
        exact (h v List.mem_cons_self).mp helement
  · rintro ⟨hself, hparts⟩
    obtain ⟨v, rfl⟩ := List.length_eq_one_iff.mp (hself.single items rfl)
    exact inBand_list_iff.mpr ⟨v, rfl, (h v List.mem_cons_self).mpr (hparts v List.mem_cons_self)⟩

mutual

/-- A value is in the band of its shape exactly if each of its parts is in its own. -/
theorem inBand_shape_iff {round : Nat} (v : Value) :
    inBand round v.shape v = true ↔ ∀ u, Value.Part u v → u.Banded round := by
  cases v with
  | list items => exact inBand_elements_iff (inBand_shape_each items)
  | _ => exact inBand_parts_iff fun _ h => by cases h

theorem inBand_shape_each {round : Nat} (items : List Value) :
    ∀ v ∈ items, (inBand round v.shape v = true ↔ ∀ u, Value.Part u v → u.Banded round) := by
  cases items with
  | nil => exact fun _ hv => by cases hv
  | cons v items => exact List.forall_mem_cons.mpr ⟨inBand_shape_iff v, inBand_shape_each items⟩

end

/-- The values that a round may draw for a shape are those of this shape whose parts are in their bands. -/
theorem inBand_iff {round : Nat} {s : Shape} {v : Value} :
    inBand round s v = true ↔ v.shape = s ∧ ∀ u, Value.Part u v → u.Banded round := by
  constructor
  · intro h
    have hs := shape_of_inBand h
    exact ⟨hs, (inBand_shape_iff v).mp (hs.symm ▸ h)⟩
  · rintro ⟨rfl, h⟩
    exact (inBand_shape_iff v).mpr h

/-! ## Drawn values -/

/-- What is handed out was drawn in the same round. -/
theorem exists_drawn_of_redraw {s : Shape} {d : Drawing (Option Value)} (hd : Draws s d) (n : Nat) {v w : Value}
    {st : Generator × Nat} (h : (redraw d n v st).1 = some w) :
    w = v ∨ ∃ st', Advances st st' ∧ (d st').1 = some w := by
  induction n generalizing v st with
  | zero => exact .inl (Option.some.inj h).symm
  | succ n ih =>
      rw [redraw_succ] at h
      split at h
      · cases hv : (d st).1 with
        | none => rw [hv] at h; cases h
        | some v' =>
            rw [hv] at h
            rcases ih h with rfl | ⟨st', hst, hw⟩
            · exact .inr ⟨st, .refl st, hv⟩
            · exact .inr ⟨st', (hd st).1.trans hst, hw⟩
      · exact .inl (Option.some.inj h).symm

theorem exists_drawn_of_issue {s : Shape} {d : Drawing (Option Value)} (hd : Draws s d) {w : Value}
    {st : Generator × Nat} (h : (issue s d st).1 = some w) : ∃ st', Advances st st' ∧ (d st').1 = some w := by
  rw [issue_apply] at h
  cases hv : (d st).1 with
  | none => rw [hv] at h; cases h
  | some v =>
      rw [hv] at h
      dsimp only at h
      split at h
      · have hredraw : (redraw d maxRedraws v (d st).2).1 = some w := by
          rcases hr : redraw d maxRedraws v (d st).2 with ⟨_ | u, st'⟩ <;> rw [hr] at h <;> exact h
        rcases exists_drawn_of_redraw hd maxRedraws hredraw with rfl | ⟨st', hst, hw⟩
        · exact ⟨st, .refl st, hv⟩
        · exact ⟨st', (hd st).1.trans hst, hw⟩
      · exact ⟨st, .refl st, hv.trans h⟩

/-- Every part of a drawn value is in its band. -/
theorem draw_banded : (s : Shape) → {st : Generator × Nat} → {v : Value} → (draw s st).1 = some v →
    ∀ u, Value.Part u v → u.Banded st.1.round
  | .list element, st, v, hv, u, hu => by
      obtain ⟨w, hw, rfl⟩ := Option.map_eq_some_iff.mp hv
      cases hu with
      | self => exact ⟨trivial, fun items hitems => by cases hitems; rfl⟩
      | element hmem hu =>
          cases List.mem_singleton.mp hmem
          obtain ⟨st', hst, hdraw⟩ := exists_drawn_of_issue (draw_draws element) hw
          rw [← hst.round]
          exact draw_banded element hdraw u hu
  | .unit, _, _, hv, _, hu => by cases hv; cases hu; exact ⟨trivial, nofun⟩
  | .bool, _, _, hv, _, hu => by cases hv; cases hu; exact ⟨rfl, nofun⟩
  | .byte, st, _, hv, _, hu => by cases hv; cases hu; exact banded_byte (below_lt (by decide) st)
  | .short, st, _, hv, _, hu => by cases hv; cases hu; exact banded_short (natAbs_signed 13 st)
  | .int, st, _, hv, _, hu => by cases hv; cases hu; exact banded_int (natAbs_signed 29 st)
  | .long, st, _, hv, _, hu => by cases hv; cases hu; exact banded_long (natAbs_signed 61 st)
  | .float, _, _, hv, _, hu => by
      cases hv
      cases hu
      exact banded_float (below_lt (n := 1 <<< 20) (by decide) _) (Nat.mod_lt _ (by decide))
  | .double, _, _, hv, _, hu => by
      cases hv
      cases hu
      exact banded_double (below_lt (n := 1 <<< 40) (by decide) _) (Nat.mod_lt _ (by decide))
  | .char, st, _, hv, _, hu => by cases hv; cases hu; exact banded_char (below_lt (by decide) st)
  | .str, st, _, hv, _, hu => by cases hv; cases hu; exact banded_str (below_lt (by decide) st)
  | .duration, _, _, hv, _, hu => by
      cases hv
      cases hu
      exact banded_duration (below_lt (n := 1 <<< 30 - 1 <<< 20) (by decide) _) (Nat.mod_lt _ (by decide))
  | .object _, _, _, hv, _, hu => by cases hv; cases hu; exact ⟨trivial, nofun⟩
  | .generic, _, _, hv, _, _ => nomatch hv

theorem issue_eq_none {s : Shape} {d : Drawing (Option Value)} {st st' : Generator × Nat} (h : d st = (none, st')) :
    issue s d st = (none, st') := by
  rw [issue_apply, h]

theorem draw_list (element : Shape) (st : Generator × Nat) : draw (.list element) st =
    ((signature? element st).1.map fun v => .list [v], (signature? element st).2) := rfl

/-- What is unknown in the end has no value, and nothing is drawn for it. -/
theorem draw_unknown : (s : Shape) → s.innermost = .generic → (st : Generator × Nat) → draw s st = (none, st)
  | .list element, h, st => by
      rw [draw_list, signature?, issue_eq_none (draw_unknown element h st)]
      rfl
  | .generic, _, _ => rfl

theorem signature?_unknown {s : Shape} (h : s.innermost = .generic) (st : Generator × Nat) :
    signature? s st = (none, st) := issue_eq_none (draw_unknown s h st)

/-- A shape has stand-ins exactly if it is known what lists hold in the end. They have this shape, and every part of
them is in its band. -/
theorem signature_banded (s : Shape) (st : Generator × Nat) :
    (s.innermost = .generic → (signature? s st).1 = none) ∧
    (s.innermost ≠ .generic → ∃ v, (signature? s st).1 = some v ∧ s.accepts v = true ∧ v.shape = s ∧
      inBand st.1.round s v = true ∧
      ∀ u, Value.Part u v → u.InBand st.1.round ∧ u.Doubles ∧ ∀ items, u = .list items → items.length = 1) := by
  refine ⟨fun h => by rw [signature?_unknown h], fun h => ?_⟩
  obtain ⟨v, hv, haccepts⟩ := signature?_always (Shape.isKnown_iff.mpr h) st
  obtain ⟨st', hst, hdraw⟩ := exists_drawn_of_issue (draw_draws s) hv
  have hshape := ((signature?_draws s st).2 v hv).shape
  have hbanded := draw_banded s hdraw
  rw [hst.round] at hbanded
  exact ⟨v, hv, haccepts, hshape, inBand_iff.mpr ⟨hshape, hbanded⟩, fun u hu =>
    ⟨(hbanded u hu).inBand, (hbanded u hu).inBand.doubles, (hbanded u hu).single⟩⟩

end Generator

end TestDouble
