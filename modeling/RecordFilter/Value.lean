import RecordFilter.Decimal.Layout
import RecordFilter.Text.Quoted
/-!
# Values

A `Scalar` stands alone: it is what constants and criteria hold.  A `Value` is what a filter works
on while it runs: a scalar, or a record of the host, whose type is a parameter.
-/

namespace RecordFilter

/-- A value without records. -/
inductive Scalar where
  /-- The absent value. -/
  | null
  /-- A truth value. -/
  | bool (b : Bool)
  /-- A signed 64-bit integer. -/
  | int (i : Int64)
  /-- A double. -/
  | float (x : Float)
  /-- A text. -/
  | str (s : String)
deriving DecidableEq

/-- A value met while a filter runs; `ρ` is the type of the host's records. -/
inductive Value (ρ : Type) where
  /-- The absent value. -/
  | null
  /-- A truth value. -/
  | bool (b : Bool)
  /-- A signed 64-bit integer; enumerations travel as their integers. -/
  | int (i : Int64)
  /-- A double. -/
  | float (x : Float)
  /-- A text. -/
  | str (s : String)
  /-- A record of the host. -/
  | record (r : ρ)
deriving DecidableEq

/-- The text of a truth value. -/
def boolText (b : Bool) : String := if b then "true" else "false"

/-- The decimal text of a 64-bit integer. -/
def int64Text (i : Int64) : String := Decimal.intText i.toInt

/-- The double nearest to a 64-bit integer. -/
def int64Float (i : Int64) : Float := Float.ofInt i.toInt

namespace Scalar

/-- The scalar is the absent value. -/
def isNull : Scalar → Bool
  | null => true
  | _ => false

/-- The scalar as shown to a reader; a text stands between quotes as it is. -/
def text : Scalar → String
  | null => "null"
  | bool b => boolText b
  | int i => int64Text i
  | float x => Decimal.floatText x
  | str s => "\"" ++ s ++ "\""

/-- The scalar with the name of its kind, a text in its quoted form. -/
def diagnostic : Scalar → String
  | null => "Null"
  | bool b => "Bool(" ++ boolText b ++ ")"
  | int i => "Int(" ++ int64Text i ++ ")"
  | float x => "Float(" ++ Decimal.floatText x ++ ")"
  | str s => "Str(" ++ Text.quoted s ++ ")"

/-- The scalar as a value. -/
def toValue {ρ : Type} : Scalar → Value ρ
  | null => .null
  | bool b => .bool b
  | int i => .int i
  | float x => .float x
  | str s => .str s

end Scalar

namespace Value

variable {ρ : Type}

/-- The value is absent. -/
def isNull : Value ρ → Bool
  | null => true
  | _ => false

/-- The truth value, of a value that is one. -/
def asBool? : Value ρ → Option Bool
  | bool b => some b
  | _ => none

/-- The integer, of a value that is one. -/
def asInt? : Value ρ → Option Int64
  | int i => some i
  | _ => none

/-- The number as a double, of an integer or a double. -/
def asFloat? : Value ρ → Option Float
  | int i => some (int64Float i)
  | float x => some x
  | _ => none

/-- The text, of a value that is one. -/
def asStr? : Value ρ → Option String
  | str s => some s
  | _ => none

/-- Only the truth value `true` counts as true. -/
def isTrue : Value ρ → Bool
  | bool b => b
  | _ => false

/-- Numbers, truth values and texts as text; other values have none. -/
def toText : Value ρ → Value ρ
  | bool b => str (boolText b)
  | int i => str (int64Text i)
  | float x => str (Decimal.floatText x)
  | str s => str s
  | null | record _ => null

/-- Integers and doubles as doubles; other values have none. -/
def toFloat (v : Value ρ) : Value ρ :=
  match v.asFloat? with
  | some x => float x
  | none => null

end Value

end RecordFilter
