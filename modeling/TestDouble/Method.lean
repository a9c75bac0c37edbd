import TestDouble.Shape

/-!
# Methods

A method is its name and its shapes. With `vararg`, the last parameter collects the trailing arguments in
one list.
-/

namespace TestDouble

structure Method where
  name : String
  params : List Shape
  returns : Shape
  vararg : Bool := false
  deriving DecidableEq, Repr

namespace Method

/-- Collect trailing arguments in the last parameter, if there is one. -/
def withVararg (m : Method) : Method := { m with vararg := !m.params.isEmpty }

/-- The position of the collecting parameter. -/
def varargSlot? (m : Method) : Option Nat :=
  if m.vararg && !m.params.isEmpty then some (m.params.length - 1) else none

def text (m : Method) : String :=
  let param := fun (s : Shape × Nat) =>
    (if m.varargSlot? = some s.2 then "vararg " else "") ++ s.1.text
  m.name ++ "(" ++ ", ".intercalate (m.params.zipIdx.map param) ++ "): " ++ m.returns.text

def toJson (m : Method) : Json :=
  .obj [("name", .str m.name), ("params", .arr (m.params.map Shape.toJson)),
    ("returns", m.returns.toJson), ("vararg", .bool m.vararg)]

def ofJson? (j : Json) : Option Method := do
  let [some (.str name), some (.arr params), some returns, some (.bool vararg)] ←
    j.members? ["name", "params", "returns", "vararg"] | none
  some { name, params := ← params.mapM Shape.ofJson?, returns := ← Shape.ofJson? returns, vararg }

end Method

end TestDouble
