import TestDouble.Text.Quoted
import TestDouble.Value.Basic

/-!
# Values as text

The forms in which values appear in messages: text and characters quoted, 64-bit integers and 32-bit
fractions marked by a letter, objects by class and identity.
-/

namespace TestDouble

/-- An identity as it appears in messages. -/
def identityText (id : Nat) : String := "#" ++ toString id

def ObjectRef.text (o : ObjectRef) : String := o.className ++ identityText o.id

namespace Value

mutual
def text : Value → String
  | .unit => "()"
  | .null => "null"
  | .bool b => if b then "true" else "false"
  | .byte n => toString n.toInt
  | .short n => toString n.toInt
  | .int n => toString n.toInt
  | .long n => toString n.toInt ++ "L"
  | .float bits => Decimal.binary32.text bits.toNat ++ "f"
  | .double bits => Decimal.binary64.text bits.toNat
  | .char c => Text.quotedChar c
  | .str s => Text.quotedString s
  | .duration d => d.text
  | .list items => "[" ++ ", ".intercalate (textList items) ++ "]"
  | .object o => o.text

def textList : List Value → List String
  | [] => []
  | v :: vs => text v :: textList vs
end

end Value

end TestDouble
