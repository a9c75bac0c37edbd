import TestDouble.Decimal.Shortest

/-!
# Binary interchange formats

A number is its bits: a sign, a biased exponent and a fraction. Equality and order are those of the
numbers: the two zeros are equal, and what is not a number equals nothing and is comparable with nothing.
-/

namespace TestDouble.Decimal

/-- Widths of the two fields below the sign. -/
structure BinaryFormat where
  fractionBits : Nat
  exponentBits : Nat

def binary32 : BinaryFormat := ⟨23, 8⟩

def binary64 : BinaryFormat := ⟨52, 11⟩

namespace BinaryFormat

variable (f : BinaryFormat)

/-- The bits without the sign. -/
def magnitudeBits (bits : Nat) : Nat := bits % 1 <<< (f.fractionBits + f.exponentBits)

def isNegative (bits : Nat) : Bool := bits >>> (f.fractionBits + f.exponentBits) % 2 == 1

/-- The magnitude bits of infinity; larger ones are no number. -/
def infinityBits : Nat := (1 <<< f.exponentBits - 1) <<< f.fractionBits

def isNaN (bits : Nat) : Bool := f.infinityBits < f.magnitudeBits bits

/-- Ordered as the numbers are. -/
def orderKey (bits : Nat) : Int :=
  if f.isNegative bits then -(f.magnitudeBits bits : Int) else f.magnitudeBits bits

def equal (a b : Nat) : Bool := !f.isNaN a && !f.isNaN b && f.orderKey a == f.orderKey b

def compare? (a b : Nat) : Option Ordering :=
  if f.isNaN a || f.isNaN b then none else some (compare (f.orderKey a) (f.orderKey b))

/-- The magnitude of finite bits. -/
def dyadic (bits : Nat) : Dyadic :=
  let fraction := bits % 1 <<< f.fractionBits
  let exponent := f.magnitudeBits bits >>> f.fractionBits
  let least : Int := 2 - (1 <<< (f.exponentBits - 1) : Nat) - f.fractionBits
  if exponent = 0 then ⟨fraction, least, false⟩
  else ⟨1 <<< f.fractionBits + fraction, least + exponent - 1, fraction == 0 && 1 < exponent⟩

/-- The shortest decimal in positional notation; a negative zero keeps its sign. -/
def text (bits : Nat) : String :=
  if f.isNaN bits then "NaN"
  else
    let magnitude :=
      if f.magnitudeBits bits = f.infinityBits then "inf".toList
      else (f.dyadic bits).shortest.positional
    String.ofList (if f.isNegative bits then '-' :: magnitude else magnitude)

end BinaryFormat

end TestDouble.Decimal
