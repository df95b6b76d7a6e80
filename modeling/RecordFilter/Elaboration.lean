import RecordFilter.Elaboration.Call
import RecordFilter.Elaboration.Operator
/-!
# The meaning of expressions in a schema

`elaborate` resolves the names of an expression and gives it a plan and a type.  Paths start at
the record that the filter runs on.  Besides the members of records there is the length of a text.
-/

namespace RecordFilter

/-- Follows the names of a path from a value of a type; `offset` is that of the first name. -/
def followPath (schema : Schema) (plan : Plan) (type : StaticType) (offset : Nat) :
    List String → Except ElaborationError (Plan × StaticType)
  | [] => .ok (plan, type)
  | name :: names =>
    let next := offset + name.length + 1
    let unknown := ElaborationError.unknownMember name (type.base.name schema) offset
    match type.base with
    | .record id =>
      match (schema.recordType id).member? name with
      | some m => followPath schema (.member plan m.name) (.ofDeclared m.type) next names
      | none => .error unknown
    | .str =>
      if Text.sameName name "Length" then
        followPath schema (.length plan) ⟨.int, type.nullable⟩ next names
      else
        .error unknown
    | _ => .error unknown

mutual

/-- The plan and type of an expression on records of the type `root`. -/
def elaborate (schema : Schema) (root : RecordId) : Expr → Except ElaborationError TypedPlan
  | .logical op left right offset => do
    let left ← elaborate schema root left
    let right ← elaborate schema root right
    TypedPlan.logical schema op left right offset
  | .compare op left right offset => do
    let left ← elaborate schema root left
    let right ← elaborate schema root right
    TypedPlan.compare schema op left right offset
  | .not operand offset => do
    let operand ← elaborate schema root operand
    TypedPlan.not schema operand offset
  | .path names offset => do
    let (plan, type) ← followPath schema .root (.record root) offset names
    return { plan, type, offset }
  | .literal literal offset =>
    let value := literal.value
    .ok ⟨.const value, value.staticType, offset, literal.source?⟩
  | .call target method args offset => do
    let target ← elaborate schema root target
    let args ← elaborateAll schema root args
    TypedPlan.call schema target method args offset

/-- The plans and types of expressions, up to the first that has none. -/
def elaborateAll (schema : Schema) (root : RecordId) :
    List Expr → Except ElaborationError (List TypedPlan)
  | [] => .ok []
  | e :: es => do
    let first ← elaborate schema root e
    let others ← elaborateAll schema root es
    return first :: others

end

/-- The plan of an expression that is a filter: its type must be that of truth values. -/
def planFilter (schema : Schema) (root : RecordId) (e : Expr) : Except ElaborationError Plan := do
  let typed ← elaborate schema root e
  let filter ← typed.expectBool schema
  return filter.plan

end RecordFilter
