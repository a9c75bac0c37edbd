import TestDouble.Failure

/-!
# Host types

The types of the code under test whose values calls can carry: scalars, objects, any value, and lists and
options of these. `HostType.ofValue` reads a value at a type and `HostType.toValue` writes it back.
-/

namespace TestDouble

inductive HostType where
  | unit
  | bool
  | byte
  | short
  | int
  | long
  | float
  | double
  | char
  | str
  | duration
  | value
  | object
  | list (element : HostType)
  | option (content : HostType)
  deriving DecidableEq, Repr

namespace HostType

/-- Fractional numbers are given by their bits. -/
@[reducible] def Carrier : HostType → Type
  | .unit => Unit
  | .bool => Bool
  | .byte => Int8
  | .short => Int16
  | .int => Int32
  | .long => Int64
  | .float => UInt32
  | .double => UInt64
  | .char => Char
  | .str => String
  | .duration => Duration
  | .value => Value
  | .object => ObjectRef
  | .list element => List element.Carrier
  | .option content => Option content.Carrier

/-- The shape of the stand-ins for this type. -/
def shape : HostType → Shape
  | .unit => .unit
  | .bool => .bool
  | .byte => .byte
  | .short => .short
  | .int => .int
  | .long => .long
  | .float => .float
  | .double => .double
  | .char => .char
  | .str => .str
  | .duration => .duration
  | .value => .generic
  | .object => .generic
  | .list element => .list element.shape
  | .option content => content.shape

/-- Nothing is written as null. -/
def toValue : (t : HostType) → t.Carrier → Value
  | .unit, _ => .unit
  | .bool, b => .bool b
  | .byte, n => .byte n
  | .short, n => .short n
  | .int, n => .int n
  | .long, n => .long n
  | .float, bits => .float bits
  | .double, bits => .double bits
  | .char, c => .char c
  | .str, s => .str s
  | .duration, d => .duration d
  | .value, v => v
  | .object, o => .object o
  | .list element, items => .list (items.map element.toValue)
  | .option _, none => .null
  | .option content, some x => content.toValue x

/-- Read every element, up to the first that cannot be read. -/
def ofEach {α : Type} (read : Value → Except MockError α) : List Value → Except MockError (List α)
  | [] => .ok []
  | v :: vs => do
    let a ← read v
    .ok (a :: (← ofEach read vs))

/-- A value of another shape is rejected, and so is a stand-in for a result where an object is needed. -/
def ofValue : (t : HostType) → Value → Except MockError t.Carrier
  | .unit, .unit => .ok ()
  | .bool, .bool b => .ok b
  | .byte, .byte n => .ok n
  | .short, .short n => .ok n
  | .int, .int n => .ok n
  | .long, .long n => .ok n
  | .float, .float bits => .ok bits
  | .double, .double bits => .ok bits
  | .char, .char c => .ok c
  | .str, .str s => .ok s
  | .duration, .duration d => .ok d
  | .value, v => .ok v
  | .object, .object o =>
    if o.isPlaceholder then .error (.rejected .generic (.object o)) else .ok o
  | .list element, .list items => ofEach element.ofValue items
  | .option _, .null => .ok none
  | .option content, v => (content.ofValue v).map some
  | t, v => .error (.rejected t.shape v)

/-- A value as it looks after it has been read at a type. -/
def convert (t : HostType) (v : Value) : Except MockError Value := (t.ofValue v).map t.toValue

end HostType

/-- An object of this class. -/
def Value.expectObject (v : Value) (className : String) : Except MockError ObjectRef :=
  match v with
  | .object o => if o.className == className then .ok o else .error (.rejected (.object className) v)
  | _ => .error (.rejected (.object className) v)

end TestDouble
