import TestDouble.Text.Unprintable
import TestDouble.Text.Combining

/-!
# Quoted text

A character inside quotes stands for itself, except the quote, the backslash, the controls that have a
letter, and whatever would not be seen or would change its neighbour; those are escaped.
-/

namespace TestDouble.Text

/-- The code point in hexadecimal, in braces. -/
def codePointEscape (c : Char) : List Char :=
  ['\\', 'u', '\x7b'] ++ Nat.toDigits 16 c.toNat ++ ['\x7d']

/-- Shown as it is: printable, and no mark that joins the character before it. -/
def isPlain (c : Char) : Bool :=
  if c.toNat < 0x7f then 0x20 ≤ c.toNat else !combining.contains c && !unprintable.contains c

/-- One character between two quotes of the kind `quote`. -/
def escaped (quote c : Char) : List Char :=
  if c = '\x00' then ['\\', '0']
  else if c = '\t' then ['\\', 't']
  else if c = '\r' then ['\\', 'r']
  else if c = '\n' then ['\\', 'n']
  else if c = '\\' || c = quote then ['\\', c]
  else if isPlain c then [c]
  else codePointEscape c

def quotedString (s : String) : String :=
  String.ofList (['"'] ++ s.toList.flatMap (escaped '"') ++ ['"'])

def quotedChar (c : Char) : String :=
  String.ofList (['\''] ++ escaped '\'' c ++ ['\''])

end TestDouble.Text
