/-!
# Shortest decimals

A finite binary number is a significand times a power of two. Of the decimals that round to it, the one
with the fewest digits is chosen, of those the nearest, and of two equally near ones the larger. All
comparisons are exact.
-/

namespace TestDouble.Decimal

/-- The value `significand * 2 ^ exponent`, and whether the gap below it is half the gap above. -/
structure Dyadic where
  significand : Nat
  exponent : Int
  narrowBelow : Bool
  deriving Repr, DecidableEq

/-- The value `digits * 10 ^ exponent`. -/
structure Scientific where
  digits : Nat
  exponent : Int
  deriving Repr, DecidableEq

namespace Dyadic

/-- Numerator and denominator of the value, as one fraction. -/
def fraction (significand : Nat) (exponent : Int) : Nat × Nat :=
  (significand <<< exponent.toNat, 1 <<< (-exponent).toNat)

/-- Compare `digits * 10 ^ e` with `m * 2 ^ q`. -/
def compareScaled (digits : Nat) (e : Int) (m : Nat) (q : Int) : Ordering :=
  compare ((digits * Nat.pow 10 e.toNat) <<< (-q).toNat) (m <<< q.toNat * Nat.pow 10 (-e).toNat)

/-- The decimal lies among the reals that round to `x`; an even significand owns both ends. -/
def readsBack (x : Dyadic) (digits : Nat) (e : Int) : Bool :=
  let low := compareScaled digits e (4 * x.significand - if x.narrowBelow then 1 else 2) (x.exponent - 2)
  let high := compareScaled digits e (4 * x.significand + 2) (x.exponent - 2)
  if x.significand % 2 = 0 then low != .lt && high != .gt else low == .gt && high == .lt

/-- The least `k` with `x < 10 ^ k`, for `x ≠ 0`. -/
def magnitude (x : Dyadic) : Int :=
  let (n, d) := fraction x.significand x.exponent
  if d ≤ n then (Nat.toDigits 10 (n / d)).length
  else 1 - (Nat.toDigits 10 ((d - 1) / n)).length

/-- The value in units of `10 ^ e`, rounded down. -/
def floorAt (x : Dyadic) (e : Int) : Nat :=
  let (n, d) := fraction x.significand x.exponent
  n * Nat.pow 10 (-e).toNat / (d * Nat.pow 10 e.toNat)

/-- The decimal with unit `10 ^ e` that reads back to `x`, if there is one. -/
def atUnit? (x : Dyadic) (e : Int) : Option Scientific :=
  let below := x.floorAt e
  match x.readsBack below e, x.readsBack (below + 1) e with
  | true, false => some ⟨below, e⟩
  | false, true => some ⟨below + 1, e⟩
  | true, true =>
    if compareScaled (2 * below + 1) e (2 * x.significand) x.exponent == .gt then some ⟨below, e⟩
    else some ⟨below + 1, e⟩
  | false, false => none

/-- The fewest digits that read back; every binary number in use has seventeen that do. -/
def shortest (x : Dyadic) : Scientific :=
  if x.significand = 0 then ⟨0, 0⟩
  else
    ((List.range 17).findSome? fun (n : Nat) => x.atUnit? (x.magnitude - (n + 1))).getD
      (let (n, d) := fraction x.significand x.exponent
       ⟨n * Nat.pow 10 d.log2 / d, -d.log2⟩)

end Dyadic

namespace Scientific

/-- Positional notation, without an exponent and without a point where none is needed. -/
def positional (x : Scientific) : List Char :=
  let digits := Nat.toDigits 10 x.digits
  if x.digits = 0 then ['0']
  else if 0 ≤ x.exponent then digits ++ List.replicate x.exponent.toNat '0'
  else
    let places := (-x.exponent).toNat
    let padded := List.replicate (places + 1 - digits.length) '0' ++ digits
    let whole := padded.take (padded.length - places)
    let rest := (padded.drop (padded.length - places)).reverse.dropWhile (· == '0')
    if rest.isEmpty then whole else whole ++ '.' :: rest.reverse

end Scientific

end TestDouble.Decimal
