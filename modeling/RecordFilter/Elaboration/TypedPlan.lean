import RecordFilter.Constant
import RecordFilter.Plan
/-!
# Plans with their types

A `TypedPlan` is a plan for an expression with its static type and the place it comes from.
`coerce?` brings one to another type: constants are converted at once, other plans get a
conversion that runs with them.
-/

namespace RecordFilter

/-- An expression that has no meaning in the schema. -/
inductive ElaborationError where
  /-- The type has no such member, or several. -/
  | unknownMember (member type : String) (offset : Nat)
  /-- The type has no such method with so many parameters. -/
  | unknownMethod (method type : String) (arity : Nat) (offset : Nat)
  /-- The operator is not defined on operands of the type. -/
  | unsupportedOperator (operator operand : String) (offset : Nat)
  /-- A type was expected and another one found. -/
  | typeMismatch (expected found : String) (offset : Nat)
deriving Repr, DecidableEq

namespace ElaborationError

/-- The offset of the part of the expression that is at fault. -/
def offset : ElaborationError → Nat
  | unknownMember _ _ offset | unknownMethod _ _ _ offset | unsupportedOperator _ _ offset
  | typeMismatch _ _ offset => offset

/-- The message of the error. -/
def message (e : ElaborationError) : String :=
  let place := " at offset " ++ Decimal.natText e.offset
  match e with
  | unknownMember member type _ =>
    "unknown member '" ++ member ++ "' on type " ++ type ++ place
  | unknownMethod method type arity _ =>
    "no method '" ++ method ++ "' taking " ++ Decimal.natText arity ++ " argument(s) on type " ++
      type ++ place
  | unsupportedOperator operator operand _ =>
    "operator '" ++ operator ++ "' is not supported for " ++ operand ++ place
  | typeMismatch expected found _ =>
    "type mismatch" ++ place ++ ": expected " ++ expected ++ ", found " ++ found

end ElaborationError

/-- A plan with its static type. -/
structure TypedPlan where
  /-- The plan. -/
  plan : Plan
  /-- The type of its values. -/
  type : StaticType
  /-- The offset of the expression it stands for. -/
  offset : Nat
  /-- The text that was written, for a constant that has one. -/
  source : Option String := none

namespace TypedPlan

/-- The plan is a constant. -/
def isConstant (t : TypedPlan) : Bool := t.plan.constant?.isSome

/-- The plan stands for the literal `null`. -/
def isNull (t : TypedPlan) : Bool := t.type.base == .null

/-- The same value at another type. -/
def coerce? (schema : Schema) (t : TypedPlan) (expected : StaticType) : Option TypedPlan :=
  match t.plan.constant? with
  | some value =>
    (convertConstant schema value t.source expected).map fun converted =>
      { t with
        plan := .const converted
        type := if converted.isNull then .null else ⟨expected.base, false⟩ }
  | none =>
    (t.plan.convertTo? t.type.base expected.base).map fun plan =>
      { plan, type := ⟨expected.base, t.type.nullable⟩, offset := t.offset }

/-- The same constant at another type. -/
def coerceConstant? (schema : Schema) (t : TypedPlan) (expected : StaticType) : Option TypedPlan :=
  if t.isConstant then t.coerce? schema expected else none

/-- The error of a plan that was expected to have another type. -/
def mismatch (schema : Schema) (t : TypedPlan) (expected : StaticType) : ElaborationError :=
  .typeMismatch (expected.text schema) (t.type.text schema) t.offset

/-- A plan for truth values, which may be absent. -/
def expectBool (schema : Schema) (t : TypedPlan) : Except ElaborationError TypedPlan :=
  if t.type.base = .bool then .ok t else .error (t.mismatch schema .bool)

end TypedPlan

end RecordFilter
