import RecordFilter.Expr
/-!
# Expressions as text

Operations with two operands are printed in parentheses, whether they are needed or not.
-/

namespace RecordFilter

/-- A literal as written in an expression. -/
def Literal.text : Literal → String
  | string s => "\"" ++ s ++ "\""
  | number n => n
  | bool b => boolText b
  | null => "null"

namespace Expr

mutual

/-- An expression as text. -/
def text : Expr → String
  | logical op left right _ => "(" ++ left.text ++ " " ++ op.symbol ++ " " ++ right.text ++ ")"
  | compare op left right _ => "(" ++ left.text ++ " " ++ op.symbol ++ " " ++ right.text ++ ")"
  | not operand _ => "!" ++ operand.text
  | path segments _ => String.intercalate "." segments
  | literal value _ => value.text
  | call target method args _ => target.text ++ "." ++ method ++ "(" ++ textAll args ++ ")"

/-- Expressions as text, with commas between them. -/
def textAll : List Expr → String
  | [] => ""
  | [e] => e.text
  | e :: es => e.text ++ ", " ++ textAll es

end

end Expr

end RecordFilter
