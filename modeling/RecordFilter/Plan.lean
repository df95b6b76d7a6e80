import RecordFilter.Builtin
import RecordFilter.Host
/-!
# Plans

A plan is a filter in which every name is resolved and every conversion is explicit.  Running it
on a record gives a value (`Plan.value`) and asks the host a sequence of questions
(`Plan.accesses`).  Running never fails: what is missing or of the wrong kind is absent, and an
absent truth value counts as false.
-/

namespace RecordFilter

/-- A conversion that is applied whenever the plan runs. -/
inductive Conversion where
  /-- A number becomes a double. -/
  | toFloat
  /-- A number or truth value becomes a text. -/
  | toText
deriving Repr, DecidableEq

/-- A filter whose names are resolved. -/
inductive Plan where
  /-- A constant. -/
  | const (value : Scalar)
  /-- The record that the plan runs on. -/
  | root
  /-- The member of a record, by its declared name. -/
  | member (target : Plan) (name : String)
  /-- The number of characters of a text. -/
  | length (target : Plan)
  /-- Both are true; the right one runs only if the left one is. -/
  | and (left right : Plan)
  /-- One is true; the right one runs only if the left one is not. -/
  | or (left right : Plan)
  /-- The operand is not true. -/
  | not (operand : Plan)
  /-- The comparison holds. -/
  | compare (op : Comparison) (left right : Plan)
  /-- A built-in method of a present value. -/
  | builtin (method : Builtin) (target : Plan) (args : List Plan)
  /-- A method of a record. -/
  | invoke (target : Plan) (method : String) (args : List Plan)
  /-- A converted value. -/
  | convert (conversion : Conversion) (operand : Plan)

/-- The converted value. -/
def Conversion.apply {ρ : Type} : Conversion → Value ρ → Value ρ
  | toFloat, v => v.toFloat
  | toText, v => v.toText

namespace Plan

variable {ρ : Type}

/-- The constant that the plan is, if it is one. -/
def constant? : Plan → Option Scalar
  | const value => some value
  | _ => none

mutual

/-- The value of a plan on a record. -/
def value (host : Host ρ) (record : ρ) : Plan → Value ρ
  | const value => value.toValue
  | root => .record record
  | member target name =>
    match target.value host record with
    | .record r => host.member r name
    | _ => .null
  | length target =>
    match target.value host record with
    | .str s => .int (countInt64 s.length)
    | _ => .null
  | and left right => .bool ((left.value host record).isTrue && (right.value host record).isTrue)
  | or left right => .bool ((left.value host record).isTrue || (right.value host record).isTrue)
  | not operand => .bool (!(operand.value host record).isTrue)
  | compare op left right => .bool (op.holds (left.value host record) (right.value host record))
  | builtin method target args =>
    match target.value host record with
    | .null => .null
    | v => method.apply v (values host record args)
  | invoke target method args =>
    match target.value host record with
    | .record r => host.invoke r method (values host record args)
    | _ => .null
  | convert conversion operand => conversion.apply (operand.value host record)

/-- The values of plans on a record. -/
def values (host : Host ρ) (record : ρ) : List Plan → List (Value ρ)
  | [] => []
  | p :: ps => p.value host record :: values host record ps

end

mutual

/-- The questions that a plan asks the host, in order. -/
def accesses (host : Host ρ) (record : ρ) : Plan → List (Access ρ)
  | const _ | root => []
  | member target name =>
    target.accesses host record ++
      match target.value host record with
      | .record r => [.read r name]
      | _ => []
  | length target => target.accesses host record
  | and left right =>
    left.accesses host record ++
      if (left.value host record).isTrue then right.accesses host record else []
  | or left right =>
    left.accesses host record ++
      if (left.value host record).isTrue then [] else right.accesses host record
  | not operand => operand.accesses host record
  | compare _ left right => left.accesses host record ++ right.accesses host record
  | builtin _ target args =>
    target.accesses host record ++
      match target.value host record with
      | .null => []
      | _ => accessesAll host record args
  | invoke target method args =>
    target.accesses host record ++
      match target.value host record with
      | .record r =>
        accessesAll host record args ++ [.call r method (values host record args)]
      | _ => []
  | convert _ operand => operand.accesses host record

/-- The questions that plans ask the host one after the other. -/
def accessesAll (host : Host ρ) (record : ρ) : List Plan → List (Access ρ)
  | [] => []
  | p :: ps => p.accesses host record ++ accessesAll host record ps

end

/-- `Plan.values` has the value of each plan on its own. -/
theorem values_eq_map (host : Host ρ) (record : ρ) (plans : List Plan) :
    values host record plans = plans.map (value host record) := by
  induction plans with
  | nil => rfl
  | cons p ps ih => rw [values, ih, List.map_cons]

/-- `Plan.accessesAll` asks the questions of each plan in turn. -/
theorem accessesAll_eq_flatMap (host : Host ρ) (record : ρ) (plans : List Plan) :
    accessesAll host record plans = plans.flatMap (accesses host record) := by
  induction plans with
  | nil => rfl
  | cons p ps ih => rw [accessesAll, ih, List.flatMap_cons]

/-- The plan with the conversion from one base type to another, where there is one.  Enumerations
travel as integers, so they need none to become integers. -/
def convertTo? (plan : Plan) (source target : BaseType) : Option Plan :=
  if source = target then some plan
  else
    match source, target with
    | .int, .float => some (.convert .toFloat plan)
    | .enum _, .int => some plan
    | .int, .str | .float, .str | .bool, .str => some (.convert .toText plan)
    | _, _ => none

end Plan

end RecordFilter
