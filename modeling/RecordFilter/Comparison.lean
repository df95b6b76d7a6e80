import RecordFilter.Value
import RecordFilter.Text.Search
/-!
# Comparisons

The six comparison operators and what they mean on values.  `compareValues` orders two values of
comparable kinds; `Comparison.holds` extends the operators to absent values: two of them are
equal, and no order holds where one is absent.
-/

namespace RecordFilter

/-- A comparison operator. -/
inductive Comparison where
  | eq
  | ne
  | gt
  | ge
  | lt
  | le
deriving Repr, DecidableEq

namespace Comparison

/-- The operator as written. -/
def symbol : Comparison → String
  | eq => "=="
  | ne => "!="
  | gt => ">"
  | ge => ">="
  | lt => "<"
  | le => "<="

/-- The operator asks for an order, not for equality. -/
def isOrdering : Comparison → Bool
  | eq | ne => false
  | gt | ge | lt | le => true

/-- The operator holds of values in the given order. -/
def ofOrdering : Comparison → Ordering → Bool
  | eq, o => o == .eq
  | ne, o => o != .eq
  | gt, o => o == .gt
  | ge, o => o != .lt
  | lt, o => o == .lt
  | le, o => o != .gt

end Comparison

/-- The order of two doubles; there is none when one of them is not a number. -/
def compareFloats (x y : Float) : Option Ordering :=
  if x < y then some .lt
  else if y < x then some .gt
  else if x == y then some .eq
  else none

/-- The order of two truth values: false comes before true. -/
def compareBools (a b : Bool) : Ordering := compare a.toNat b.toNat

/-- The order of two values of comparable kinds.  Integers are compared exactly, an integer and a
double as doubles, texts by code points. -/
def compareValues {ρ : Type} : Value ρ → Value ρ → Option Ordering
  | .int a, .int b => some (compare a.toInt b.toInt)
  | .bool a, .bool b => some (compareBools a b)
  | .str a, .str b => some (Text.codePointOrder a.toList b.toList)
  | .int a, .float y => compareFloats (int64Float a) y
  | .float x, .int b => compareFloats x (int64Float b)
  | .float x, .float y => compareFloats x y
  | _, _ => none

/-- The comparison holds between two values.  Where one is absent, equality holds if both are, and
no order holds; where two values have no order, only inequality holds. -/
def Comparison.holds {ρ : Type} (op : Comparison) (left right : Value ρ) : Bool :=
  if left.isNull || right.isNull then
    match op with
    | .eq => left.isNull && right.isNull
    | .ne => !(left.isNull && right.isNull)
    | .gt | .ge | .lt | .le => false
  else
    match compareValues left right with
    | some order => op.ofOrdering order
    | none => op == .ne

end RecordFilter
