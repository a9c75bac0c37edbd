import TestDouble.Json
import TestDouble.Value.Text

/-!
# Shapes

The declared shape of a parameter or of a result.
-/

namespace TestDouble

inductive Shape where
  | unit
  | bool
  | byte
  | short
  | int
  | long
  | float
  | double
  | char
  | str
  | duration
  | list (element : Shape)
  | object (className : String)
  | generic
  deriving DecidableEq, Repr, Inhabited

namespace Shape

/-- Two stand-ins of this shape can be told apart. -/
def isDistinguishable : Shape → Bool
  | .unit | .bool => false
  | _ => true

/-- An object position also takes null, a generic one anything. -/
def accepts : Shape → Value → Bool
  | .generic, _ => true
  | .unit, .unit => true
  | .bool, .bool _ => true
  | .byte, .byte _ => true
  | .short, .short _ => true
  | .int, .int _ => true
  | .long, .long _ => true
  | .float, .float _ => true
  | .double, .double _ => true
  | .char, .char _ => true
  | .str, .str _ => true
  | .duration, .duration _ => true
  | .list element, .list items => items.all element.accepts
  | .object className, .object o => o.className == className
  | .object _, .null => true
  | _, _ => false

def text : Shape → String
  | .unit => "()"
  | .bool => "bool"
  | .byte => "i8"
  | .short => "i16"
  | .int => "i32"
  | .long => "i64"
  | .float => "f32"
  | .double => "f64"
  | .char => "char"
  | .str => "String"
  | .duration => "Duration"
  | .list element => "List<" ++ element.text ++ ">"
  | .object className => className
  | .generic => ObjectRef.placeholderClass

/-- What a lenient mock returns for this shape; an object position gets null. -/
def defaultValue : Shape → Value
  | .unit => .unit
  | .bool => .bool false
  | .byte => .byte 0
  | .short => .short 0
  | .int => .int 0
  | .long => .long 0
  | .float => .float 0
  | .double => .double 0
  | .char => .char '\x00'
  | .str => .str ""
  | .duration => .duration .zero
  | .list _ => .list []
  | .object _ => .null
  | .generic => .null

/-! ## As documents -/

/-- The shapes that are written by their name alone. -/
def named : List (String × Shape) :=
  [("Unit", .unit), ("Bool", .bool), ("Byte", .byte), ("Short", .short), ("Int", .int),
    ("Long", .long), ("Float", .float), ("Double", .double), ("Char", .char), ("Str", .str),
    ("Duration", .duration), ("Generic", .generic)]

def toJson : Shape → Json
  | .list element => .obj [("List", element.toJson)]
  | .object className => .obj [("Object", .str className)]
  | shape => .str (((named.find? fun n => n.2 == shape).map (·.1)).getD "")

/-- A named shape may also be the only field of a record, holding null. -/
def ofJson? : Json → Option Shape
  | .str name => named.lookup name
  | .obj [("List", element)] => (ofJson? element).map .list
  | .obj [("Object", .str className)] => some (.object className)
  | .obj [(name, .null)] => named.lookup name
  | _ => none

end Shape

namespace Value

/-- The shape of a value; a list has that of its first element. -/
def shape : Value → Shape
  | .unit => .unit
  | .null => .generic
  | .bool _ => .bool
  | .byte _ => .byte
  | .short _ => .short
  | .int _ => .int
  | .long _ => .long
  | .float _ => .float
  | .double _ => .double
  | .char _ => .char
  | .str _ => .str
  | .duration _ => .duration
  | .list [] => .list .generic
  | .list (item :: _) => .list item.shape
  | .object o => .object o.className

/-- How a value is called where another shape was expected. -/
def typeName : Value → String
  | .null => "null"
  | .object o => o.className
  | v => v.shape.text

end Value

end TestDouble
