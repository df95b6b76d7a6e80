import RecordFilter.Decimal.Integer
import RecordFilter.Text.Casing
/-!
# Reading floating-point numbers

A floating-point number is written as an optional sign followed by `inf`, `infinity` or `nan` in
any case, or by digits with at most one point and an optional exponent.  It denotes the double
nearest to the decimal, with ties to the even neighbour.
-/

namespace RecordFilter.Decimal

/-- A decimal numeral: its digits as one number, times a power of ten. -/
structure Numeral where
  /-- The digits before and after the point, read as one number. -/
  digits : Nat
  /-- The power of ten that the digits are multiplied by. -/
  exponent : Int
deriving Repr, DecidableEq

/-- The double nearest to the numeral.  Numerals far outside the range of doubles are decided by
their size, so that no power of ten larger than needed is computed. -/
def Numeral.toFloat (x : Numeral) : Float :=
  -- ten is more than eight, so `2 ^ size` is a lower bound of a numeral with a positive exponent,
  -- and `2 ^ (size + 1)` an upper bound of one with a negative exponent
  let size : Int := x.digits.log2 + 3 * x.exponent
  if x.digits = 0 then 0.0
  else if x.exponent > 0 ∧ size ≥ 1100 then 1.0 / 0.0
  else if x.exponent < 0 ∧ size ≤ -1100 then 0.0
  else OfScientific.ofScientific x.digits (x.exponent < 0) x.exponent.natAbs

/-- The sign in front of a number, and what follows it; `true` is the minus sign. -/
def splitSign : List Char → Bool × List Char
  | '-' :: cs => (true, cs)
  | '+' :: cs => (false, cs)
  | cs => (false, cs)

/-- The exponent at the end of a number, where nothing stands for zero. -/
def readExponent? : List Char → Option Int
  | [] => some 0
  | c :: cs =>
    if c = 'e' ∨ c = 'E' then
      let (negative, digits) := splitSign cs
      (readNat? digits).map fun n => if negative then -(n : Int) else n
    else
      none

/-- A number without sign: digits with at most one point, then an optional exponent. -/
def readNumeral? (cs : List Char) : Option Numeral :=
  let whole := cs.takeWhile Char.isDigit
  let (fraction, rest) := match cs.dropWhile Char.isDigit with
    | '.' :: more => (more.takeWhile Char.isDigit, more.dropWhile Char.isDigit)
    | more => ([], more)
  if whole.isEmpty && fraction.isEmpty then
    none
  else
    (readExponent? rest).map fun e => ⟨natOfDigits (whole ++ fraction), e - fraction.length⟩

/-- A floating-point number. -/
def readFloat? (cs : List Char) : Option Float :=
  let (negative, body) := splitSign cs
  let magnitude : Option Float :=
    if Text.sameWord body "inf" || Text.sameWord body "infinity" then some (1.0 / 0.0)
    else if Text.sameWord body "nan" then some (0.0 / 0.0)
    else (readNumeral? body).map Numeral.toFloat
  magnitude.map fun x => if negative then -x else x

end RecordFilter.Decimal
