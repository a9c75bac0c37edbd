import TestDouble.Shape
import TestDouble.Text.Alphanumeric

/-!
# Masking stand-ins

Stand-in values differ from seed to seed. In what a scenario shows, a stand-in gives way to the name of its
type, and its text inside a longer text to `<sig>`. A value is masked if it was known for a stand-in when its
step ended, a text if the scenario has such a stand-in at all.
-/

namespace TestDouble.Scenario

/-- The scalars in a value that can be told from real ones. -/
def scalars : Value → List Value
  | .list items => items.flatMap scalars
  | .unit | .null | .bool _ | .object _ => []
  | v => [v]

/-- Stand-ins to mask, with the texts that show them. The text of a byte is too short to be one. -/
structure Mask where
  values : List Value
  texts : List (List Char)

namespace Mask

/-- Mask these scalars. -/
def of (issued : List Value) : Mask where
  values := issued
  texts := issued.filterMap fun
    | .byte _ => none
    | v => some v.text.toList

/-- Mask the first `n` only. -/
def take (m : Mask) (n : Nat) : Mask := .of (m.values.take n)

/-- The name to show in place of a stand-in. -/
def name? (m : Mask) (v : Value) : Option String := if m.values.contains v then some v.typeName else none

/-- A text may begin after this character. -/
def isOpen (c : Char) : Bool :=
  !(Text.alphanumeric.contains c || c == '#' || c == '.' || c == '-' || c == '_')

/-- What follows the longest of the texts that stands alone at the front. -/
def strip? (m : Mask) (before : Option Char) (cs : List Char) : Option (List Char) :=
  let alone := fun (text : List Char) =>
    if text.isPrefixOf cs && before.all isOpen then
      let rest := cs.drop text.length
      if rest.head?.all (!Text.alphanumeric.contains ·) then some rest else none
    else none
  (m.texts.filterMap alone).foldl (fun best rest =>
    match best with
    | some b => if rest.length < b.length then some rest else some b
    | none => some rest) none

/-- `n` bounds the number of characters left. -/
def maskFrom (m : Mask) (before : Option Char) : Nat → List Char → List Char
  | 0, cs => cs
  | _ + 1, [] => []
  | n + 1, c :: cs =>
    match m.strip? before (c :: cs) with
    | some rest => "<sig>".toList ++ maskFrom m (some '>') n rest
    | none => c :: maskFrom m (some c) n cs

def text (m : Mask) (s : String) : String :=
  if m.texts.isEmpty then s else String.ofList (m.maskFrom none s.toList.length s.toList)

end Mask

end TestDouble.Scenario
