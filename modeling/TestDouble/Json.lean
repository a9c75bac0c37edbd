/-!
# Structured documents

Documents as read and written, and their indented text.
-/

namespace TestDouble

/-- A number that is not whole is kept as it was written. -/
inductive Json where
  | null
  | bool (b : Bool)
  | integer (n : Int)
  | fraction (literal : String)
  | str (s : String)
  | arr (items : List Json)
  | obj (fields : List (String × Json))
  deriving Inhabited

namespace Json

def nat (n : Nat) : Json := .integer n

/-- The value of a field; a later field of the same name wins. -/
def field? (name : String) : Json → Option Json
  | .obj fields => (fields.findRev? fun f => f.1 == name).map (·.2)
  | _ => none

/-- A whole number below `bound`. -/
def natBelow? (bound : Nat) : Json → Option Nat
  | .integer n => if 0 ≤ n && n < bound then some n.toNat else none
  | _ => none

def word? : Json → Option Nat := natBelow? (1 <<< 64)

def bool? : Json → Option Bool
  | .bool b => some b
  | _ => none

def str? : Json → Option String
  | .str s => some s
  | _ => none

/-- The members of a record, given by name or, in the order of `names`, as an array. -/
def members? (names : List String) : Json → Option (List (Option Json))
  | .obj fields => some (names.map (Json.obj fields).field?)
  | .arr items => if items.length = names.length then some (items.map some) else none
  | _ => none

/-- A control character has a letter or four hexadecimal digits. -/
def escaped (c : Char) : List Char :=
  if c = '"' || c = '\\' then ['\\', c]
  else if c = '\n' then ['\\', 'n']
  else if c = '\r' then ['\\', 'r']
  else if c = '\t' then ['\\', 't']
  else if c.toNat = 8 then ['\\', 'b']
  else if c.toNat = 12 then ['\\', 'f']
  else if c.toNat < 0x20 then
    let digits := Nat.toDigits 16 c.toNat
    ['\\', 'u'] ++ List.replicate (4 - digits.length) '0' ++ digits
  else [c]

def quoted (s : String) : String :=
  String.ofList (['"'] ++ s.toList.flatMap escaped ++ ['"'])

/-- A line break and two spaces for every level. -/
def newline (depth : Nat) : String := String.ofList ('\n' :: List.replicate (2 * depth) ' ')

mutual
/-- Every member on a line of its own, indented by two spaces a level. -/
def pretty (depth : Nat) : Json → String
  | .null => "null"
  | .bool b => if b then "true" else "false"
  | .integer n => toString n
  | .fraction literal => literal
  | .str s => quoted s
  | .arr [] => "[]"
  | .arr (item :: items) =>
    "[" ++ newline (depth + 1)
      ++ ("," ++ newline (depth + 1)).intercalate (prettyItems (depth + 1) (item :: items))
      ++ newline depth ++ "]"
  | .obj [] => "\x7b\x7d"
  | .obj (member :: members) =>
    "\x7b" ++ newline (depth + 1)
      ++ ("," ++ newline (depth + 1)).intercalate (prettyMembers (depth + 1) (member :: members))
      ++ newline depth ++ "\x7d"

def prettyItems (depth : Nat) : List Json → List String
  | [] => []
  | item :: items => pretty depth item :: prettyItems depth items

def prettyMembers (depth : Nat) : List (String × Json) → List String
  | [] => []
  | (name, value) :: members =>
    (quoted name ++ ": " ++ pretty depth value) :: prettyMembers depth members
end

end Json

end TestDouble
