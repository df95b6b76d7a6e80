import RecordFilter.Decimal.Floating
import RecordFilter.Expr
import RecordFilter.StaticType
/-!
# Constants

A literal is given the type that its text suggests, and is converted to the type that its place
asks for.  The text is kept beside the value, so that a constant that ends up as a text is the
text that was written.
-/

namespace RecordFilter

/-- The double is a number and not infinite. -/
def isFiniteFloat (x : Float) : Bool := !x.isNaN && !x.isInf

/-- The number that a text is, an integer if possible; a text that is none stays as it is. -/
def readNumber (text : String) : Scalar :=
  let asFloat := match Decimal.readFloat? text.toList with
    | some x => Scalar.float x
    | none => .str text
  if text.toList.contains '.' then asFloat
  else
    match Decimal.readInt64? text.toList with
    | some i => .int i
    | none => asFloat

/-- The value that a text suggests: an integer, a finite number, a truth value, or itself. -/
def inferText (text : String) : Scalar :=
  match Decimal.readInt64? text.toList with
  | some i => .int i
  | none =>
    match (Decimal.readFloat? text.toList).filter isFiniteFloat with
    | some x => .float x
    | none =>
      if Text.sameWord text.toList "true" then .bool true
      else if Text.sameWord text.toList "false" then .bool false
      else .str text

namespace Literal

/-- The value that a literal suggests. -/
def value : Literal → Scalar
  | null => .null
  | bool b => .bool b
  | number text => readNumber text
  | string text => inferText text

/-- The text that a literal is kept as; `null` has none. -/
def source? : Literal → Option String
  | null => none
  | bool b => some (boolText b)
  | number text => some text
  | string text => some text

end Literal

/-- The static type of a scalar. -/
def Scalar.staticType : Scalar → StaticType
  | null => .null
  | bool _ => .bool
  | int _ => ⟨.int, false⟩
  | float _ => ⟨.float, false⟩
  | str _ => ⟨.str, false⟩

/-- The constant of the expected type that stands for the value, where `source` is the text that
was written for it. -/
def convertConstant (schema : Schema) (value : Scalar) (source : Option String)
    (expected : StaticType) : Option Scalar :=
  match value, expected.base with
  | .null, _ => if expected.nullable then some .null else none
  | .bool b, .bool => some (.bool b)
  | .int i, .int => some (.int i)
  | .int i, .float => some (.float (int64Float i))
  | .float x, .float => some (.float x)
  | .float x, .int => (Decimal.exactInt64? x).map .int
  | .str s, .str => some (.str s)
  | .int i, .str => some (.str (source.getD (int64Text i)))
  | .float x, .str => some (.str (source.getD (Decimal.floatText x)))
  | .bool b, .str => some (.str (source.getD (boolText b)))
  | .int i, .enum id => ((schema.enumType id).nameOf? i).map fun _ => .int i
  | .str s, .enum id => ((schema.enumType id).valueOf? s).map .int
  | _, _ => none

/-- The constant of the expected type that stands for a given value; a text is read as what it
suggests. -/
def coerceScalar (schema : Schema) (value : Scalar) (expected : StaticType) : Option Scalar :=
  match value with
  | .str text => convertConstant schema (inferText text) (some text) expected
  | other => convertConstant schema other none expected

end RecordFilter
