import RecordFilter.Criteria
import RecordFilter.Expr
import RecordFilter.Json.Scalar
import RecordFilter.Token
/-!
# Tokens, expressions and criteria in JSON
-/

namespace RecordFilter

/-- The name of a comparison operator. -/
def Comparison.name : Comparison → String
  | eq => "Eq"
  | ne => "Ne"
  | gt => "Gt"
  | ge => "Ge"
  | lt => "Lt"
  | le => "Le"

/-- The name of a connective. -/
def Connective.name : Connective → String
  | and => "And"
  | or => "Or"

/-- The name of a class of tokens. -/
def TokenKind.name : TokenKind → String
  | identifier => "Identifier"
  | string => "String"
  | number => "Number"
  | boolean => "Boolean"
  | null => "Null"
  | and => "And"
  | or => "Or"
  | not => "Not"
  | comparison op => op.name
  | lparen => "LParen"
  | rparen => "RParen"
  | comma => "Comma"
  | eof => "Eof"

/-- A token as a JSON value. -/
def Token.toJson (t : Token) : Json :=
  .ofFields
    [("kind", .ofString t.kind.name), ("text", .ofString t.text), ("offset", .ofNat t.offset)]

/-- A literal as a JSON value: its kind, with its content if it has any. -/
def Literal.toJson : Literal → Json
  | string s => .ofFields [("String", .ofString s)]
  | number n => .ofFields [("Number", .ofString n)]
  | bool b => .ofFields [("Bool", .bool b)]
  | null => .ofString "Null"

namespace Expr

/-- A node with two operands as a JSON value. -/
def binaryJson (op : String) (left right : Json) (offset : Nat) : Json :=
  .ofFields [("Binary", .ofFields
    [("op", .ofString op), ("left", left), ("right", right), ("offset", .ofNat offset)])]

mutual

/-- An expression as a JSON value: an object whose only key is the kind of the node. -/
def toJson : Expr → Json
  | logical op left right offset => binaryJson op.name left.toJson right.toJson offset
  | compare op left right offset => binaryJson op.name left.toJson right.toJson offset
  | not operand offset =>
    .ofFields [("Unary", .ofFields
      [("op", .ofString "Not"), ("operand", operand.toJson), ("offset", .ofNat offset)])]
  | path segments offset =>
    .ofFields [("Member", .ofFields
      [("path", .array (segments.map .ofString)), ("offset", .ofNat offset)])]
  | literal value offset =>
    .ofFields [("Constant", .ofFields [("value", value.toJson), ("offset", .ofNat offset)])]
  | call target method args offset =>
    .ofFields [("MethodCall", .ofFields
      [("target", target.toJson), ("method", .ofString method), ("args", .array (toJsonAll args)),
       ("offset", .ofNat offset)])]

/-- Expressions as JSON values. -/
def toJsonAll : List Expr → List Json
  | [] => []
  | e :: es => e.toJson :: toJsonAll es

end

end Expr

/-- Criteria as a JSON value. -/
def Criteria.toJson (schema : Schema) (c : Criteria) : Json :=
  .ofFields
    [("propertyType", .ofString (c.type.text schema)), ("name", .ofString c.name),
     ("value", c.value.toJson), ("comparison", .ofString c.comparison.name)]

end RecordFilter
