import RecordFilter.Comparison
import RecordFilter.StaticType
import RecordFilter.Text.Blank
/-!
# Built-in methods

Texts, numbers and truth values have methods of their own.  `equals` and `compareTo` follow the
comparison of values; an absent argument differs from every target and comes before it.
-/

namespace RecordFilter

/-- A built-in method. -/
inductive Builtin where
  | contains
  | startsWith
  | endsWith
  | equals
  | indexOf
  | compareTo
  | toLower
  | toUpper
  | trim
  | toText
deriving Repr, DecidableEq

/-- A count as a 64-bit integer, the largest one if it does not fit. -/
def countInt64 (n : Nat) : Int64 := Int64.ofNat (min n (UInt64.size / 2 - 1))

namespace Builtin

/-- The name that calls must spell exactly. -/
def name : Builtin → String
  | contains => "Contains"
  | startsWith => "StartsWith"
  | endsWith => "EndsWith"
  | equals => "Equals"
  | indexOf => "IndexOf"
  | compareTo => "CompareTo"
  | toLower => "ToLower"
  | toUpper => "ToUpper"
  | trim => "Trim"
  | toText => "ToString"

/-- All built-in methods. -/
def all : List Builtin :=
  [contains, startsWith, endsWith, equals, indexOf, compareTo, toLower, toUpper, trim, toText]

/-- The built-in method of that name. -/
def ofName? (name : String) : Option Builtin := all.find? fun b => b.name == name

/-- The method is one of texts only. -/
def isTextOnly : Builtin → Bool
  | equals | compareTo | toText => false
  | _ => true

/-- The parameters of the method on a target of the type. -/
def params (target : DeclaredType) : Builtin → List DeclaredType
  | contains | startsWith | endsWith | indexOf => [.str]
  | equals | compareTo => [target]
  | toLower | toUpper | trim | toText => []

/-- The result of the method. -/
def returns : Builtin → DeclaredType
  | contains | startsWith | endsWith | equals => .bool
  | indexOf | compareTo => .int
  | toLower | toUpper | trim | toText => .str

/-- Minus one, zero or one, as the first value comes before, with or after the second. -/
def orderInt : Ordering → Int64
  | .lt => -1
  | .eq => 0
  | .gt => 1

section

variable {ρ : Type}

/-- The result of a function on the characters of a text target. -/
def onText (target : Value ρ) (f : List Char → List Char) : Value ρ :=
  match target with
  | .str s => .str (String.ofList (f s.toList))
  | _ => .null

/-- The result of a function on the characters of a text target and a text argument. -/
def onTexts (target arg : Value ρ) (f : List Char → List Char → Value ρ) : Value ρ :=
  match target, arg with
  | .str s, .str p => f s.toList p.toList
  | _, _ => .null

/-- The result of the method on a present target and its arguments, of which only the first
counts. -/
def apply (b : Builtin) (target : Value ρ) (args : List (Value ρ)) : Value ρ :=
  let arg := args.headD .null
  match b with
  | contains => onTexts target arg fun s p => .bool (Text.contains s p)
  | startsWith => onTexts target arg fun s p => .bool (Text.startsWith s p)
  | endsWith => onTexts target arg fun s p => .bool (Text.endsWith s p)
  | indexOf =>
    onTexts target arg fun s p =>
      match Text.indexOf? p s with
      | some i => .int (countInt64 i)
      | none => .int (-1)
  | toLower => onText target Text.toLower
  | toUpper => onText target Text.toUpper
  | trim => onText target Text.trim
  | toText => target.toText
  | equals => .bool (!arg.isNull && compareValues target arg == some .eq)
  | compareTo =>
    if arg.isNull then .int 1
    else
      match compareValues target arg with
      | some order => .int (orderInt order)
      | none => .null

end

end Builtin

end RecordFilter
