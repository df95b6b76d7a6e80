/-!
# The shortest decimal of a double

A positive finite double is `m · 2^q`.  The reals that round to it form an interval around it.
`shortest` gives the decimal with the fewest digits inside that interval, and among those the
nearest to the double; `roundsUp` decides between two that are equally near.
-/

namespace RecordFilter.Decimal

/-- A positive finite double, taken apart. -/
structure Parts where
  /-- The significand. -/
  significand : Nat
  /-- The exponent of two that the significand is scaled by. -/
  exponent : Int
  /-- The gap to the next smaller double is half the gap to the next larger one. -/
  narrowBelow : Bool
deriving Repr, DecidableEq

/-- The sign bit of a double, which negative zero has as well. -/
def signBit (x : Float) : Bool := decide (0x8000000000000000 ≤ x.toBits.toNat)

/-- The parts of a finite double, its sign left out. -/
def Parts.ofFloat (x : Float) : Parts :=
  let bits := x.toBits.toNat % 0x8000000000000000
  let field := bits / 0x10000000000000
  let fraction := bits % 0x10000000000000
  if field = 0 then ⟨fraction, -1074, false⟩
  else
    ⟨0x10000000000000 + fraction, Int.ofNat field - 1075, fraction == 0 && decide (1 < field)⟩

/-- The reals that round to a double, as fractions with one denominator. -/
structure Interval where
  /-- The numerator of the lower end. -/
  low : Nat
  /-- The numerator of the double itself. -/
  value : Nat
  /-- The numerator of the upper end. -/
  high : Nat
  /-- The common denominator. -/
  denominator : Nat
  /-- The ends belong to the interval. -/
  closed : Bool
deriving Repr, DecidableEq

/-- The interval of a positive finite double: half a gap on either side, the ends included when
the significand is even. -/
def Parts.interval (p : Parts) : Interval :=
  let scale := Nat.pow 2 (p.exponent - 2).toNat
  { low := (4 * p.significand - if p.narrowBelow then 1 else 2) * scale
    value := 4 * p.significand * scale
    high := (4 * p.significand + 2) * scale
    denominator := Nat.pow 2 (2 - p.exponent).toNat
    closed := p.significand % 2 == 0 }

/-- A decimal: digits times a power of ten. -/
structure Digits where
  /-- The digits, read as one number. -/
  digits : Nat
  /-- The power of ten that they are multiplied by. -/
  exponent : Int
deriving Repr, DecidableEq

/-- The decimal lies in the interval. -/
def Interval.contains (i : Interval) (d : Digits) : Bool :=
  let x := d.digits * Nat.pow 10 d.exponent.toNat * i.denominator
  let unit := Nat.pow 10 (-d.exponent).toNat
  if i.closed then i.low * unit ≤ x && x ≤ i.high * unit
  else i.low * unit < x && x < i.high * unit

/-- The number of digits of the value before its point; zero or less when it is below one. -/
def Interval.wholeDigits (i : Interval) : Int :=
  -- no double is smaller than `10 ^ -330`, so the scaled value has at least one digit
  ((Nat.toDigits 10 (i.value * Nat.pow 10 330 / i.denominator)).length : Int) - 330

/-- The nearer of the two neighbours of the value among the multiples of `10 ^ exponent`, of those
that lie in the interval. -/
def Interval.onGrid? (roundsUp : Bool) (i : Interval) (exponent : Int) : Option Digits :=
  let numerator := i.value * Nat.pow 10 (-exponent).toNat
  let divisor := i.denominator * Nat.pow 10 exponent.toNat
  let below : Digits := ⟨numerator / divisor, exponent⟩
  let above : Digits := ⟨numerator / divisor + 1, exponent⟩
  match i.contains below, i.contains above with
  | false, false => none
  | true, false => some below
  | false, true => some above
  | true, true =>
    let twice := 2 * (numerator % divisor)
    if twice < divisor then some below
    else if divisor < twice then some above
    else if roundsUp then some above
    else if below.digits % 2 = 0 then some below
    else some above

/-- Without the zeros at the end of its digits, of which at most `bound` are dropped. -/
def Digits.strip (d : Digits) : Nat → Digits
  | 0 => d
  | bound + 1 =>
    if d.digits % 10 = 0 ∧ d.digits ≠ 0 then strip ⟨d.digits / 10, d.exponent + 1⟩ bound else d

/-- The shortest decimal that rounds to a positive finite double.  Seventeen digits are always
enough. -/
def shortest (roundsUp : Bool) (x : Float) : Digits :=
  let i := (Parts.ofFloat x).interval
  let whole := i.wholeDigits
  let found := (List.range 17).findSome? fun n : Nat =>
    i.onGrid? roundsUp (whole - Int.ofNat (n + 1))
  (found.getD ⟨i.value, 0⟩).strip 18

end RecordFilter.Decimal
