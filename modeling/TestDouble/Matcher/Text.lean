import TestDouble.Matcher.Basic

/-!
# Matchers as text
-/

namespace TestDouble

def Comparison.text : Comparison → String
  | .less => "lt"
  | .lessOrEqual => "le"
  | .greater => "gt"
  | .greaterOrEqual => "ge"

namespace Matcher

mutual
def text : Matcher → String
  | any => "any()"
  | eq v => "eq(" ++ v.text ++ ")"
  | same o => "refEq(" ++ o.text ++ ")"
  | compare op v => op.text ++ "(" ++ v.text ++ ")"
  | predicate description _ => "match(" ++ description ++ ")"
  | ofShape s => "ofType(" ++ s.text ++ ")"
  | null => "isNull()"
  | notNull => "isNull(inverse=true)"
  | not m => "not(" ++ text m ++ ")"
  | and l r => "and(" ++ text l ++ ", " ++ text r ++ ")"
  | or l r => "or(" ++ text l ++ ", " ++ text r ++ ")"
  | capture _ any => "capture()"
  | capture _ m => "capture(" ++ text m ++ ")"
  | varargAny => "anyVararg()"
  | varargAll m => "varargAll(" ++ text m ++ ")"
  | varargs ms => "varargs(" ++ ", ".intercalate (textEach ms) ++ ")"
  | notCalled => "wasNot(Called)"

def textEach : List Matcher → List String
  | [] => []
  | m :: ms => text m :: textEach ms
end

end Matcher

end TestDouble
