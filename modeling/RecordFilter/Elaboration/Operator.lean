import RecordFilter.Elaboration.TypedPlan
/-!
# Plans for operators

The literal `null` can be compared for equality with what may be absent.  Other operands are first
brought to a common base type (`unify`): a constant takes the type of the other side if it can,
integers become doubles beside doubles, and enumerations are compared with integers as such.
-/

namespace RecordFilter

namespace TypedPlan

/-- A connective between truth values. -/
def logical (schema : Schema) (op : Connective) (left right : TypedPlan) (offset : Nat) :
    Except ElaborationError TypedPlan := do
  let left ← left.expectBool schema
  let right ← right.expectBool schema
  let plan := match op with
    | .and => .and left.plan right.plan
    | .or => .or left.plan right.plan
  return { plan, type := .bool, offset }

/-- The negation of a truth value. -/
def not (schema : Schema) (operand : TypedPlan) (offset : Nat) :
    Except ElaborationError TypedPlan := do
  let operand ← operand.expectBool schema
  return { plan := .not operand.plan, type := operand.type, offset }

/-- Operands of a comparison, brought to a common base type. -/
structure Unified where
  /-- The left operand. -/
  left : TypedPlan
  /-- The right operand. -/
  right : TypedPlan
  /-- The base type that decides which operators apply. -/
  base : BaseType

/-- Operands that are not constants of each other's type: integers are promoted to doubles, and
enumerations stand beside integers as they are. -/
def promote? (schema : Schema) (left right : TypedPlan) : Option Unified :=
  match left.type.base, right.type.base with
  | .int, .float => (left.coerce? schema ⟨.float, false⟩).map fun l => ⟨l, right, .float⟩
  | .float, .int => (right.coerce? schema ⟨.float, false⟩).map fun r => ⟨left, r, .float⟩
  | .enum _, .int | .int, .enum _ => some ⟨left, right, .int⟩
  | _, _ => none

/-- Operands brought to a common base type, where there is one. -/
def unify? (schema : Schema) (left right : TypedPlan) : Option Unified :=
  if left.type.base = right.type.base then some ⟨left, right, left.type.base⟩
  else
    match right.coerceConstant? schema left.type with
    | some right => some ⟨left, right, left.type.base⟩
    | none =>
      match left.coerceConstant? schema right.type with
      | some left => some ⟨left, right, right.type.base⟩
      | none => promote? schema left right

/-- The error of operands without a common base type.  It names the constant, if there is one. -/
def incomparable (schema : Schema) (left right : TypedPlan) (offset : Nat) : ElaborationError :=
  if right.isConstant then right.mismatch schema left.type
  else if left.isConstant then left.mismatch schema right.type
  else .typeMismatch (left.type.text schema) (right.type.text schema) offset

/-- Operands of which one is the literal `null`: the other one must be able to be absent, and the
operator must not ask for an order. -/
def checkNull (schema : Schema) (op : Comparison) (null other : TypedPlan) (offset : Nat) :
    Except ElaborationError Unit :=
  if op.isOrdering then .error (.unsupportedOperator op.symbol "null" offset)
  else if !other.type.nullable then
    .error (.typeMismatch (other.type.lifted.text schema) "null" null.offset)
  else .ok ()

/-- The operator is defined on the base type: records are not compared, and truth values have no
order. -/
def checkBase (schema : Schema) (op : Comparison) (base : BaseType) (offset : Nat) :
    Except ElaborationError Unit :=
  match base with
  | .record id => .error (.unsupportedOperator op.symbol (schema.recordType id).name offset)
  | .bool =>
    if op.isOrdering then .error (.unsupportedOperator op.symbol "Bool" offset) else .ok ()
  | _ => .ok ()

/-- A comparison of two values. -/
def compare (schema : Schema) (op : Comparison) (left right : TypedPlan) (offset : Nat) :
    Except ElaborationError TypedPlan :=
  if left.isNull || right.isNull then do
    if left.isNull then checkNull schema op left right offset
    else checkNull schema op right left offset
    return { plan := .compare op left.plan right.plan, type := .bool, offset }
  else
    match unify? schema left right with
    | none => .error (incomparable schema left right offset)
    | some u => do
      checkBase schema op u.base offset
      return { plan := .compare op u.left.plan u.right.plan, type := .bool, offset }

end TypedPlan

end RecordFilter
