import TestDouble.Shape

/-!
# Stand-in values

While a block is recorded, every matcher and every call hands out a value in place of a real one. Such
values come from bands that application data rarely meets, so that a later pass can tell where each went.
Integers lie two bits below the largest magnitude of their type, which leaves room for doubling; bytes lie
in `[-64, -32)`; flags have no band and alternate from round to round.

`Generator.signature?` draws a value for a shape and `Generator.inBand` says which values it may draw.
-/

namespace TestDouble

/-- Draws values from a stream of numbers. -/
structure Generator where
  entropy : Nat → Nat
  /-- The next number of the stream. -/
  position : Nat := 0
  round : Nat := 0
  /-- The values handed out since the round began. -/
  issued : List Value := []

/-- Drawing consumes the stream, and identities for stand-in objects. -/
abbrev Drawing := StateM (Generator × Nat)

namespace Generator

/-- A stream of 64-bit numbers in which no two of 2^64 in a row agree. -/
def ofSeed (seed : Option Nat) : Generator where
  entropy i := (seed.getD 0 + (i + 1) * 0x9e3779b97f4a7c15) % 1 <<< 64

/-- Forget what the round before handed out. -/
def startRound (g : Generator) (round : Nat) : Generator := { g with round, issued := [] }

/-- Attempts to draw a value that the round has not handed out yet. -/
def maxRedraws : Nat := 16

/-! ## Numbers -/

def below (n : Nat) : Drawing Nat := do
  let (g, nextObject) ← get
  set ({ g with position := g.position + 1 }, nextObject)
  return g.entropy g.position % n

/-- A number in `[2 ^ bits, 2 ^ (bits + 1))`, of either sign. -/
def signed (bits : Nat) : Drawing Int := do
  let sign ← below 2
  let n ← below (1 <<< bits)
  return if sign = 0 then (1 <<< bits + n : Nat) else -(1 <<< bits + n : Nat)

/-- Sixteen hexadecimal digits. -/
def hexText (n : Nat) : String :=
  let digits := Nat.toDigits 16 n
  String.ofList (List.replicate (16 - digits.length) '0' ++ digits)

/-- A fresh object. -/
def newObject (className : String) : Drawing ObjectRef := do
  let (g, nextObject) ← get
  set (g, nextObject + 1)
  return ⟨nextObject, className⟩

/-! ## Values -/

/-- Draw again while the value was handed out before, `n` times at most. -/
def redraw (draw : Drawing (Option Value)) : Nat → Value → Drawing (Option Value)
  | 0, v => return some v
  | n + 1, v => do
    if (← get).1.issued.contains v then
      match ← draw with
      | some v => redraw draw n v
      | none => return none
    else return some v

/-- Hand out what `draw` gives; values that can be told apart are kept apart. -/
def issue (s : Shape) (draw : Drawing (Option Value)) : Drawing (Option Value) := do
  match ← draw with
  | none => return none
  | some v =>
    if s.isDistinguishable then
      match ← redraw draw maxRedraws v with
      | none => return none
      | some v =>
        modify fun (g, nextObject) => ({ g with issued := g.issued ++ [v] }, nextObject)
        return some v
    else return some v

/-- Twenty-one bits before the point and three after it, not all of them zero. -/
def drawFloat : Drawing Value := do
  let whole ← below (1 <<< 20)
  let eighths ← below 7
  let sign ← below 2
  return .float (.ofNat (sign <<< 31 + 147 <<< 23 + whole <<< 3 + eighths + 1))

/-- Forty-one bits before the point and twelve after it. What comes after it is drawn from `[0.001, 0.999)` and rounded
to the nearest of these twelve bits: `4.096` and `4091.904` of 4096 give 4 and 4092. -/
def drawDouble : Drawing Value := do
  let whole ← below (1 <<< 40)
  let fraction ← below 4089
  let sign ← below 2
  return .double (.ofNat (sign <<< 63 + 1063 <<< 52 + whole <<< 12 + fraction + 4))

/-- A shape that is not known has no value. -/
def draw : Shape → Drawing (Option Value)
  | .unit => return some .unit
  | .bool => return some (.bool ((← get).1.round % 2 == 0))
  | .byte => return some (.byte (.ofInt (-33 - (← below 32 : Nat))))
  | .short => return some (.short (.ofInt (← signed 13)))
  | .int => return some (.int (.ofInt (← signed 29)))
  | .long => return some (.long (.ofInt (← signed 61)))
  | .float => return some (← drawFloat)
  | .double => return some (← drawDouble)
  | .char => return some (.char (.ofNat (0xe000 + (← below 0x1900))))
  | .str => return some (.str ("sig:" ++ hexText (← below (1 <<< 64))))
  | .duration => do
    let seconds ← below (1 <<< 30 - 1 <<< 20)
    return some (.duration (.ofParts (1 <<< 20 + seconds) (← below 1000000000)))
  | .list element => return (← issue element (draw element)).map fun v => .list [v]
  | .object className => return some (.object (← newObject className))
  | .generic => return none

/-- A value of this shape that can be told from the others of the round. -/
def signature? (s : Shape) : Drawing (Option Value) := issue s (draw s)

/-- What a call of unknown shape returns. -/
def placeholder : Drawing Value := return .object (← newObject ObjectRef.placeholderClass)

/-- What stands for an argument of unknown shape. -/
def signatureObject : Drawing Value := return .object (← newObject ObjectRef.signatureClass)

/-! ## Bands -/

/-- `n` has `bits + 1` binary digits, whatever its sign. -/
def hasBits (bits : Nat) (n : Int) : Bool := 1 <<< bits ≤ n.natAbs && n.natAbs < 1 <<< (bits + 1)

/-- The values that a round may draw for a shape. -/
def inBand (round : Nat) : Shape → Value → Bool
  | .unit, .unit => true
  | .bool, .bool b => b == (round % 2 == 0)
  | .byte, .byte n => -64 ≤ n.toInt && n.toInt < -32
  | .short, .short n => hasBits 13 n.toInt
  | .int, .int n => hasBits 29 n.toInt
  | .long, .long n => hasBits 61 n.toInt
  | .float, .float bits => Decimal.binary32.magnitudeBits bits.toNat >>> 23 == 147
  | .double, .double bits => Decimal.binary64.magnitudeBits bits.toNat >>> 52 == 1063
  | .char, .char c => 0xe000 ≤ c.toNat && c.toNat < 0xf900
  | .str, .str s =>
    s.toList.take 4 == "sig:".toList && s.length == 20
      && (s.toList.drop 4).all fun c => c.isDigit || ('a' ≤ c && c ≤ 'f')
  | .duration, .duration d => 1 <<< 20 ≤ d.seconds && d.seconds < 1 <<< 30
  | .list element, .list items => items.length == 1 && items.all fun v => inBand round element v
  | .object className, .object o => o.className == className
  | _, _ => false

end Generator

end TestDouble
