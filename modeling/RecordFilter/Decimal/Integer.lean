/-!
# Integers in decimal

Integers are written with the digits 0 to 9 and an optional sign.  The readers refuse anything
else, and refuse a number outside the range of its word.
-/

namespace RecordFilter.Decimal

/-- The value of a digit 0 to 9. -/
def digitValue (c : Char) : Nat := c.toNat - '0'.toNat

/-- The number that a row of digits denotes. -/
def natOfDigits (cs : List Char) : Nat := cs.foldl (fun n c => 10 * n + digitValue c) 0

/-- A natural number, written as at least one digit. -/
def readNat? (cs : List Char) : Option Nat :=
  if !cs.isEmpty && cs.all Char.isDigit then some (natOfDigits cs) else none

/-- An integer with an optional sign. -/
def readInt? : List Char → Option Int
  | '-' :: ds => (readNat? ds).map fun n => -(n : Int)
  | '+' :: ds => (readNat? ds).map fun n => (n : Int)
  | ds => (readNat? ds).map fun n => (n : Int)

/-- A signed 64-bit integer with an optional sign. -/
def readInt64? (cs : List Char) : Option Int64 :=
  (readInt? cs).bind fun n =>
    if Int64.minValue.toInt ≤ n ∧ n ≤ Int64.maxValue.toInt then some (Int64.ofInt n) else none

/-- The largest unsigned 64-bit number. -/
def maxUnsigned64 : Nat := UInt64.size - 1

/-- An unsigned 64-bit number with an optional plus sign. -/
def readUnsigned64? (cs : List Char) : Option Nat :=
  let digits := match cs with
    | '+' :: ds => ds
    | ds => ds
  (readNat? digits).bind fun n => if n ≤ maxUnsigned64 then some n else none

/-- The decimal text of a natural number. -/
def natText (n : Nat) : String := String.ofList (Nat.toDigits 10 n)

/-- The decimal text of an integer. -/
def intText (n : Int) : String :=
  if n < 0 then "-" ++ natText n.natAbs else natText n.natAbs

end RecordFilter.Decimal
