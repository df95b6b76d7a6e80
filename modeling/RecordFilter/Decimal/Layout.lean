import RecordFilter.Decimal.Integer
import RecordFilter.Decimal.Shortest
/-!
# The text of a double

A `FloatLayout` lists the decisions of a format: where positional notation ends, whether a whole
number keeps a point, and how a tie between two shortest decimals is broken.
-/

namespace RecordFilter.Decimal

/-- The decisions that turn the digits of a double into text. -/
structure FloatLayout where
  /-- Positional notation is used when the number of digits before the point is in this range;
  without a range it is always used. -/
  positional : Option (Int × Int)
  /-- A whole number in positional notation ends in `.0`. -/
  pointZero : Bool
  /-- Of two shortest decimals equally near, the larger is taken, else the even one. -/
  roundsUp : Bool
deriving Repr, DecidableEq

/-- Positional notation for every double, and no point after a whole number. -/
def FloatLayout.plain : FloatLayout := ⟨none, false, true⟩

/-- Positional notation from `0.00001` to below `10^16`, and a point in every such number. -/
def FloatLayout.scientific : FloatLayout := ⟨some (-4, 16), true, false⟩

/-- Digits with a point after the first `whole` of them, filled up with zeros. -/
def positionalText (pointZero : Bool) (digits : List Char) (whole : Int) : List Char :=
  if whole ≤ 0 then
    ['0', '.'] ++ List.replicate (-whole).toNat '0' ++ digits
  else if digits.length ≤ whole.toNat then
    digits ++ List.replicate (whole.toNat - digits.length) '0' ++
      if pointZero then ['.', '0'] else []
  else
    digits.take whole.toNat ++ '.' :: digits.drop whole.toNat

/-- Digits with a point after the first of them, and the exponent of ten that makes up for it,
always with its sign. -/
def scientificText (digits : List Char) (exponent : Int) : List Char :=
  digits.take 1 ++ (if digits.length ≤ 1 then [] else '.' :: digits.drop 1) ++
    'e' :: (if exponent < 0 then '-' else '+') :: Nat.toDigits 10 exponent.natAbs

/-- The text of a positive finite double. -/
def FloatLayout.positiveText (layout : FloatLayout) (x : Float) : List Char :=
  let d := shortest layout.roundsUp x
  let digits := Nat.toDigits 10 d.digits
  let whole : Int := digits.length + d.exponent
  let positional := match layout.positional with
    | none => true
    | some (low, high) => low ≤ whole && whole ≤ high
  if positional then positionalText layout.pointZero digits whole
  else scientificText digits (whole - 1)

/-- The text of a double. -/
def FloatLayout.text (layout : FloatLayout) (x : Float) : String :=
  if x.isNaN then "NaN"
  else
    let magnitude :=
      if x.isInf then ['i', 'n', 'f']
      else if x == 0.0 then if layout.pointZero then ['0', '.', '0'] else ['0']
      else layout.positiveText x
    String.ofList (if signBit x then '-' :: magnitude else magnitude)

/-- The text of a double in plain notation. -/
def floatText (x : Float) : String := FloatLayout.plain.text x

/-! ### Whole numbers -/

/-- The integer that a double is, if it is one. -/
def wholeNumber? (x : Float) : Option Int :=
  if x.isNaN || x.isInf then none
  else
    let p := Parts.ofFloat x
    let scaled := p.significand * Nat.pow 2 p.exponent.toNat
    let divisor := Nat.pow 2 (-p.exponent).toNat
    if scaled % divisor = 0 then
      let n : Int := (scaled / divisor : Nat)
      some (if signBit x then -n else n)
    else
      none

/-- The 64-bit integer that a double is, if it is one. -/
def exactInt64? (x : Float) : Option Int64 :=
  (wholeNumber? x).bind fun n =>
    if Int64.minValue.toInt ≤ n ∧ n ≤ Int64.maxValue.toInt then some (Int64.ofInt n) else none

end RecordFilter.Decimal
