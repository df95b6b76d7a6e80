import RecordFilter.Decimal.Layout
/-!
# JSON values

JSON values as they are written: numbers in their digits, and strings in which an escaped UTF-16
unit is kept as such.  What a number or a string stands for is decided by who reads it, so that a
value that nobody reads may hold a number too large or half of a surrogate pair.
-/

namespace RecordFilter

/-- A character of a JSON string. -/
inductive JsonChar where
  /-- A character written as itself or with a letter escape. -/
  | plain (c : Char)
  /-- A UTF-16 unit written with four hexadecimal digits. -/
  | unit (n : Nat)
deriving Repr, DecidableEq

/-- A JSON value. -/
inductive Json where
  | null
  | bool (b : Bool)
  /-- A number in its digits. -/
  | number (digits : List Char)
  /-- A string. -/
  | string (chars : List JsonChar)
  /-- The items of an array. -/
  | array (items : List Json)
  /-- The fields of an object, in order. -/
  | object (fields : List (List JsonChar × Json))
deriving Repr

namespace Json

/-- The characters of a text. -/
def chars (s : String) : List JsonChar := s.toList.map .plain

/-- A text as a string. -/
def ofString (s : String) : Json := .string (chars s)

/-- A natural number. -/
def ofNat (n : Nat) : Json := .number (Decimal.natText n).toList

/-- An integer. -/
def ofInt (n : Int) : Json := .number (Decimal.intText n).toList

/-- A double; JSON has no number that is infinite or not a number. -/
def ofFloat (x : Float) : Json :=
  if x.isNaN || x.isInf then .null
  else .number (Decimal.FloatLayout.scientific.text x).toList

/-- An object of named fields. -/
def ofFields (fields : List (String × Json)) : Json :=
  .object (fields.map fun (name, value) => (chars name, value))

end Json

/-- The text of a string of JSON characters; halves of surrogate pairs must come in pairs. -/
def decodeJsonChars? : List JsonChar → Option (List Char)
  | [] => some []
  | .plain c :: rest => (decodeJsonChars? rest).map (c :: ·)
  | .unit high :: .unit low :: rest =>
    if 0xD800 ≤ high ∧ high < 0xDC00 ∧ 0xDC00 ≤ low ∧ low < 0xE000 then
      let code := 0x10000 + (high - 0xD800) * 0x400 + (low - 0xDC00)
      (decodeJsonChars? rest).map (Char.ofNat code :: ·)
    else if 0xD800 ≤ high ∧ high < 0xE000 then none
    else (decodeJsonChars? (.unit low :: rest)).map (Char.ofNat high :: ·)
  | .unit n :: rest =>
    if 0xD800 ≤ n ∧ n < 0xE000 then none
    else (decodeJsonChars? rest).map (Char.ofNat n :: ·)

end RecordFilter
