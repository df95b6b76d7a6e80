import RecordFilter.Json
import RecordFilter.Limits
/-!
# Limits in JSON

Limits are an object with the keys `maxExpressionLength` and `maxNestingDepth`, or an array of the
two in this order.  What is missing or null does not limit; other keys mean nothing.
-/

namespace RecordFilter

namespace Limits

/-- The key of the length. -/
def lengthKey : String := "maxExpressionLength"

/-- The key of the nesting. -/
def nestingKey : String := "maxNestingDepth"

/-- A limit: null, or an unsigned 64-bit number in digits only. -/
def ofJsonValue? : Json → Option (Option Nat)
  | .null => some none
  | .number digits =>
    ((Decimal.readNat? digits).filter (· ≤ Decimal.maxUnsigned64)).map some
  | _ => none

/-- The values of the fields that have the key; keys must be texts. -/
def fieldsNamed? (key : String) (fields : List (List JsonChar × Json)) : Option (List Json) := do
  let decoded ← fields.mapM fun (name, value) =>
    (decodeJsonChars? name).map fun text => (text, value)
  return (decoded.filter fun (name, _) => name == key.toList).map (·.2)

/-- The limit that a key gives, which must not be repeated. -/
def field? (key : String) (fields : List (List JsonChar × Json)) : Option (Option Nat) := do
  match ← fieldsNamed? key fields with
  | [] => some none
  | [value] => ofJsonValue? value
  | _ => none

/-- The limits that a JSON value denotes. -/
def ofJson? : Json → Option Limits
  | .object fields => do return ⟨← field? lengthKey fields, ← field? nestingKey fields⟩
  | .array [] => some unlimited
  | .array [length] => do return ⟨← ofJsonValue? length, none⟩
  | .array [length, nesting] => do return ⟨← ofJsonValue? length, ← ofJsonValue? nesting⟩
  | _ => none

/-- The limits as a JSON value. -/
def toJson (l : Limits) : Json :=
  let limit : Option Nat → Json
    | some n => .ofNat n
    | none => .null
  .ofFields [(lengthKey, limit l.maxLength), (nestingKey, limit l.maxNesting)]

end Limits

end RecordFilter
