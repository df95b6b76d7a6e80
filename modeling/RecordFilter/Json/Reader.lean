import RecordFilter.Json
/-!
# Reading JSON

A JSON text is first cut into punctuation marks and scalars.  These are then read one at a time:
the state holds the arrays and objects that are still open, and what may come next.
-/

namespace RecordFilter

namespace Json

/-! ### Scalars and punctuation -/

/-- A punctuation mark, or a value that is neither array nor object. -/
inductive Mark where
  | lbracket
  | rbracket
  | lbrace
  | rbrace
  | colon
  | comma
  | scalar (j : Json)
deriving Repr

/-- The value of a hexadecimal digit. -/
def hexValue? (c : Char) : Option Nat :=
  if c.isDigit then some (c.toNat - '0'.toNat)
  else if 'a' ≤ c ∧ c ≤ 'f' then some (c.toNat - 'a'.toNat + 10)
  else if 'A' ≤ c ∧ c ≤ 'F' then some (c.toNat - 'A'.toNat + 10)
  else none

/-- The number that four hexadecimal digits denote. -/
def hexUnit? (a b c d : Char) : Option Nat := do
  return ((← hexValue? a) * 16 + (← hexValue? b)) * 256 + (← hexValue? c) * 16 + (← hexValue? d)

/-- The character of a letter escape. -/
def letterEscape? : Char → Option Char
  | '"' => some '"'
  | '\\' => some '\\'
  | '/' => some '/'
  | 'b' => some '\x08'
  | 'f' => some '\x0c'
  | 'n' => some '\n'
  | 'r' => some '\r'
  | 't' => some '\t'
  | _ => none

/-- The rest of a string after its opening quote, and how many characters it takes. -/
def stringBody? : List Char → Option (List JsonChar × Nat)
  | '"' :: _ => some ([], 1)
  | '\\' :: 'u' :: a :: b :: c :: d :: rest =>
    match hexUnit? a b c d with
    | some n => (stringBody? rest).map fun (cs, k) => (.unit n :: cs, k + 6)
    | none => none
  | '\\' :: e :: rest =>
    match letterEscape? e with
    | some c => (stringBody? rest).map fun (cs, k) => (.plain c :: cs, k + 2)
    | none => none
  | c :: rest =>
    if c.toNat < 0x20 ∨ c = '\\' then none
    else (stringBody? rest).map fun (cs, k) => (.plain c :: cs, k + 1)
  | [] => none

/-- The length of the digits of a whole number: a zero stands alone. -/
def wholeLength? : List Char → Option Nat
  | '0' :: _ => some 1
  | cs =>
    let n := (cs.takeWhile Char.isDigit).length
    if n = 0 then none else some n

/-- The length of a fraction, if there is a point. -/
def fractionLength? : List Char → Option Nat
  | '.' :: cs =>
    let n := (cs.takeWhile Char.isDigit).length
    if n = 0 then none else some (n + 1)
  | _ => some 0

/-- The length of an exponent, if there is one. -/
def exponentLength? : List Char → Option Nat
  | [] => some 0
  | c :: cs =>
    if c = 'e' ∨ c = 'E' then
      let sign := match cs with
        | '+' :: _ | '-' :: _ => 1
        | _ => 0
      let n := ((cs.drop sign).takeWhile Char.isDigit).length
      if n = 0 then none else some (1 + sign + n)
    else
      some 0

/-- The length of a number. -/
def numberLength? (cs : List Char) : Option Nat := do
  let sign := if cs.head? = some '-' then 1 else 0
  let whole ← wholeLength? (cs.drop sign)
  let fraction ← fractionLength? (cs.drop (sign + whole))
  let exponent ← exponentLength? (cs.drop (sign + whole + fraction))
  return sign + whole + fraction + exponent

/-- The mark at the start of a text, and its length. -/
def mark? : List Char → Option (Mark × Nat)
  | '[' :: _ => some (.lbracket, 1)
  | ']' :: _ => some (.rbracket, 1)
  | '\x7b' :: _ => some (.lbrace, 1)
  | '\x7d' :: _ => some (.rbrace, 1)
  | ':' :: _ => some (.colon, 1)
  | ',' :: _ => some (.comma, 1)
  | '"' :: rest => (stringBody? rest).map fun (cs, n) => (.scalar (.string cs), n + 1)
  | cs =>
    if "null".toList.isPrefixOf cs then some (.scalar .null, 4)
    else if "true".toList.isPrefixOf cs then some (.scalar (.bool true), 4)
    else if "false".toList.isPrefixOf cs then some (.scalar (.bool false), 5)
    else (numberLength? cs).map fun n => (.scalar (.number (cs.take n)), n)

/-- The character may stand between marks. -/
def isSpace (c : Char) : Bool := c = ' ' || c = '\n' || c = '\t' || c = '\r'

/-- The marks of a text. -/
def marks? (cs : List Char) : Option (List Mark) :=
  match cs with
  | [] => some []
  | c :: rest =>
    if isSpace c then marks? rest
    else
      match mark? (c :: rest) with
      | some (m, n) => (marks? (rest.drop (n - 1))).map (m :: ·)
      | none => none
termination_by cs.length
decreasing_by
  · simp
  · simp only [List.length_drop, List.length_cons]
    omega

/-! ### Arrays and objects -/

/-- An array or object that is still open, with what is complete of it, the latest first. -/
inductive Frame where
  | array (items : List Json)
  | object (fields : List (List JsonChar × Json)) (key : List JsonChar)

/-- What may come next. -/
inductive Focus where
  /-- A value. -/
  | value
  /-- The first item of an array, or its end. -/
  | firstItem
  /-- A key of an object that has the fields, or its end if it has none. -/
  | key (fields : List (List JsonChar × Json))
  /-- The colon after a key. -/
  | colon (fields : List (List JsonChar × Json)) (key : List JsonChar)
  /-- What follows a complete value. -/
  | complete (j : Json)

/-- What the reader knows between two marks. -/
structure ReaderState where
  /-- The open arrays and objects, the innermost first. -/
  frames : List Frame := []
  /-- What may come next. -/
  focus : Focus := .value

namespace ReaderState

/-- Reads the first mark of a value. -/
def startValue (s : ReaderState) : Mark → Option ReaderState
  | .scalar j => some ⟨s.frames, .complete j⟩
  | .lbracket => some ⟨.array [] :: s.frames, .firstItem⟩
  | .lbrace => some ⟨s.frames, .key []⟩
  | _ => none

/-- Reads the mark after a complete value. -/
def afterValue (s : ReaderState) (j : Json) (m : Mark) : Option ReaderState :=
  match s.frames, m with
  | .array items :: more, .comma => some ⟨.array (j :: items) :: more, .value⟩
  | .array items :: more, .rbracket => some ⟨more, .complete (.array (j :: items).reverse)⟩
  | .object fields key :: more, .comma => some ⟨more, .key ((key, j) :: fields)⟩
  | .object fields key :: more, .rbrace =>
    some ⟨more, .complete (.object ((key, j) :: fields).reverse)⟩
  | _, _ => none

/-- Reads a mark. -/
def step (s : ReaderState) (m : Mark) : Option ReaderState :=
  match s.focus, m with
  | .firstItem, .rbracket => some ⟨s.frames.tail, .complete (.array [])⟩
  | .value, m | .firstItem, m => s.startValue m
  | .key [], .rbrace => some ⟨s.frames, .complete (.object [])⟩
  | .key fields, .scalar (.string key) => some ⟨s.frames, .colon fields key⟩
  | .colon fields key, .colon => some ⟨.object fields key :: s.frames, .value⟩
  | .complete j, m => s.afterValue j m
  | _, _ => none

end ReaderState

/-- The value that a JSON text denotes. -/
def read? (text : String) : Option Json := do
  let marks ← marks? text.toList
  let s ← marks.foldlM ReaderState.step {}
  match s.frames, s.focus with
  | [], .complete j => some j
  | _, _ => none

end Json

end RecordFilter
