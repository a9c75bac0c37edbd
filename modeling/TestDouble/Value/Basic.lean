import TestDouble.Decimal.Binary
import TestDouble.Duration

/-!
# Values

What a call passes and returns. Values are compared by content, objects by identity.
-/

namespace TestDouble

/-- An object: its identity and the name of its class. -/
structure ObjectRef where
  id : Nat
  className : String
  deriving Repr

namespace ObjectRef

/-- Class of the stand-ins returned where the shape is unknown. -/
def placeholderClass : String := "?"

/-- Class of the stand-ins for arguments of unknown shape. -/
def signatureClass : String := "Signature"

def isPlaceholder (o : ObjectRef) : Bool := o.className == placeholderClass

instance : BEq ObjectRef := ⟨fun a b => a.id == b.id⟩

end ObjectRef

/-- Fractional numbers are given by their bits. -/
inductive Value where
  | unit
  | null
  | bool (b : Bool)
  | byte (n : Int8)
  | short (n : Int16)
  | int (n : Int32)
  | long (n : Int64)
  | float (bits : UInt32)
  | double (bits : UInt64)
  | char (c : Char)
  | str (s : String)
  | duration (d : Duration)
  | list (items : List Value)
  | object (o : ObjectRef)

namespace Value

instance : Inhabited Value := ⟨.unit⟩

mutual
def beq : Value → Value → Bool
  | .unit, .unit => true
  | .null, .null => true
  | .bool a, .bool b => a == b
  | .byte a, .byte b => a == b
  | .short a, .short b => a == b
  | .int a, .int b => a == b
  | .long a, .long b => a == b
  | .float a, .float b => Decimal.binary32.equal a.toNat b.toNat
  | .double a, .double b => Decimal.binary64.equal a.toNat b.toNat
  | .char a, .char b => a == b
  | .str a, .str b => a == b
  | .duration a, .duration b => a == b
  | .list as, .list bs => beqList as bs
  | .object a, .object b => a == b
  | _, _ => false

def beqList : List Value → List Value → Bool
  | [], [] => true
  | a :: as, b :: bs => beq a b && beqList as bs
  | _, _ => false
end

instance : BEq Value := ⟨beq⟩

def object? : Value → Option ObjectRef
  | .object o => some o
  | _ => none

def isNull : Value → Bool
  | .null => true
  | _ => false

/-- Order between scalars of the same kind. -/
def compare? : Value → Value → Option Ordering
  | .byte a, .byte b => some (compare a.toInt b.toInt)
  | .short a, .short b => some (compare a.toInt b.toInt)
  | .int a, .int b => some (compare a.toInt b.toInt)
  | .long a, .long b => some (compare a.toInt b.toInt)
  | .float a, .float b => Decimal.binary32.compare? a.toNat b.toNat
  | .double a, .double b => Decimal.binary64.compare? a.toNat b.toNat
  | .char a, .char b => some (compare a.toNat b.toNat)
  | .str a, .str b => some (compare a b)
  | .duration a, .duration b => some (a.compare b)
  | .bool a, .bool b => some (compare a b)
  | _, _ => none

end Value

end TestDouble
