import RecordFilter.Value
/-!
# Hosts

A host owns the records that filters run on.  It answers reads of members and calls of methods;
each of them is an `Access`.
-/

namespace RecordFilter

/-- The answers of the records of type `ρ`. -/
structure Host (ρ : Type) where
  /-- The value of the member of that name. -/
  member : ρ → String → Value ρ
  /-- The result of the method of that name on arguments. -/
  invoke : ρ → String → List (Value ρ) → Value ρ

/-- A question put to a record of the host. -/
inductive Access (ρ : Type) where
  /-- A member was read. -/
  | read (record : ρ) (member : String)
  /-- A method was called. -/
  | call (record : ρ) (method : String) (args : List (Value ρ))
deriving DecidableEq

end RecordFilter
