import RecordFilter.Json
import RecordFilter.Value
/-!
# Scalars in JSON

A JSON number without point and exponent is an integer if it fits into 64 bits.  Any other number
is a double: its leading digits, as many as fit into an unsigned 64-bit significand, are multiplied
or divided by a power of ten in the arithmetic of doubles.
-/

namespace RecordFilter

/-- The leading digits of a number as a significand, and the power of ten it is scaled by. -/
structure Significand where
  /-- The digits kept. -/
  value : Nat := 0
  /-- The power of ten. -/
  exponent : Int := 0
  /-- No further digits are kept. -/
  full : Bool := false

namespace Significand

/-- One more digit would not fit. -/
def overflows (s : Significand) (c : Char) : Bool :=
  10 * s.value + Decimal.digitValue c > Decimal.maxUnsigned64

/-- Adds a digit before the point. -/
def addWhole (s : Significand) (c : Char) : Significand :=
  if s.full || s.overflows c then { s with exponent := s.exponent + 1, full := true }
  else { s with value := 10 * s.value + Decimal.digitValue c }

/-- Adds a digit after the point. -/
def addFraction (s : Significand) (c : Char) : Significand :=
  if s.full || s.overflows c then { s with full := true }
  else ⟨10 * s.value + Decimal.digitValue c, s.exponent - 1, false⟩

/-- The significand of the digits before and after a point. -/
def ofDigits (whole fraction : List Char) : Significand :=
  let s := whole.foldl addWhole {}
  -- a digit that did not fit before the point does not keep out a smaller one after it
  fraction.foldl addFraction { s with full := false }

end Significand

/-- The double nearest to a power of ten. -/
def powerOfTen (n : Nat) : Float := OfScientific.ofScientific 1 false n

/-- A double divided by a power of ten, in steps of at most `10^308`. -/
def divideByPower (x : Float) (n : Nat) : Float :=
  if n ≤ 308 then x / powerOfTen n
  else if x == 0.0 then x
  else divideByPower (x / powerOfTen 308) (n - 308)
termination_by n

/-- A double multiplied by a power of ten; a result that is too large is none. -/
def multiplyByPower? (x : Float) (n : Nat) : Option Float :=
  if n ≤ 308 then
    let y := x * powerOfTen n
    if y.isInf then none else some y
  else if x == 0.0 then some x
  else none

/-- The double that the digits of a number denote, if it is not too large. -/
def jsonFloat? (negative : Bool) (whole fraction : List Char) (exponent : Int) : Option Float :=
  let s := Significand.ofDigits whole fraction
  let x := Float.ofNat s.value
  let e := s.exponent + exponent
  let magnitude :=
    if 0 ≤ e then multiplyByPower? x e.toNat else some (divideByPower x (-e).toNat)
  magnitude.map fun y => if negative then -y else y

/-- The exponent at the end of a number. -/
def jsonExponent : List Char → Int
  | [] => 0
  | _ :: '-' :: digits => -(Decimal.natOfDigits digits : Int)
  | _ :: '+' :: digits => Decimal.natOfDigits digits
  | _ :: digits => Decimal.natOfDigits digits

/-- The integer or double that a JSON number denotes. -/
def jsonNumber? (text : List Char) : Option Scalar :=
  let negative := text.head? == some '-'
  let body := if negative then text.drop 1 else text
  let whole := body.takeWhile Char.isDigit
  let rest := body.dropWhile Char.isDigit
  if rest.isEmpty && !(negative && Decimal.natOfDigits whole = 0) then
    let n : Int := Decimal.natOfDigits whole
    let value := if negative then -n else n
    if Int64.minValue.toInt ≤ value ∧ value ≤ Int64.maxValue.toInt then
      some (.int (Int64.ofInt value))
    else
      (jsonFloat? negative whole [] 0).map .float
  else
    let (fraction, tail) := match rest with
      | '.' :: more => (more.takeWhile Char.isDigit, more.dropWhile Char.isDigit)
      | more => ([], more)
    (jsonFloat? negative whole fraction (jsonExponent tail)).map .float

/-- The scalar that a JSON value denotes; arrays and objects denote none. -/
def Scalar.ofJson? : Json → Option Scalar
  | .null => some .null
  | .bool b => some (.bool b)
  | .number digits => jsonNumber? digits
  | .string cs => (decodeJsonChars? cs).map fun text => .str (String.ofList text)
  | .array _ | .object _ => none

/-- A scalar as a JSON value. -/
def Scalar.toJson : Scalar → Json
  | null => .null
  | bool b => .bool b
  | int i => .ofInt i.toInt
  | float x => .ofFloat x
  | str s => .ofString s

end RecordFilter
