import RecordFilter.Constant
import RecordFilter.Text.Blank
/-!
# Criteria

Criteria state one condition on one member, without expression text.  `Criteria.ofType` checks a
condition on a given type; `Criteria.forMember` finds the member in a schema and brings the value
to its type, so that equal conditions are written equally: the name in its declared spelling, an
enumeration as an integer, no optional layer around the type of a present value.
-/

namespace RecordFilter

/-- The relation that criteria ask for. -/
inductive CriteriaComparison where
  | equal
  | notEqual
  | greaterThan
  | greaterThanOrEqual
  | lessThan
  | lessThanOrEqual
  | contains
  | startsWith
  | endsWith
deriving Repr, DecidableEq

namespace CriteriaComparison

/-- All relations. -/
def all : List CriteriaComparison :=
  [equal, notEqual, greaterThan, greaterThanOrEqual, lessThan, lessThanOrEqual, contains,
   startsWith, endsWith]

/-- The name of a relation. -/
def name : CriteriaComparison → String
  | equal => "Equal"
  | notEqual => "NotEqual"
  | greaterThan => "GreaterThan"
  | greaterThanOrEqual => "GreaterThanOrEqual"
  | lessThan => "LessThan"
  | lessThanOrEqual => "LessThanOrEqual"
  | contains => "Contains"
  | startsWith => "StartsWith"
  | endsWith => "EndsWith"

/-- The relation of that name. -/
def ofName? (name : String) : Option CriteriaComparison := all.find? fun c => c.name == name

/-- The relation is one of texts only. -/
def isTextOnly : CriteriaComparison → Bool
  | contains | startsWith | endsWith => true
  | _ => false

end CriteriaComparison

/-- Why criteria are refused. -/
inductive CriteriaError where
  /-- The name of the member is blank. -/
  | blankName
  /-- The member of that name and type is never absent. -/
  | nullNotAllowed (name type : String)
  /-- The record type has no such member, or several. -/
  | unknownProperty (name recordType : String)
  /-- The value cannot be brought to the type of the member. -/
  | valueConversion (name value type : String)
  /-- The relation is one of texts, and the member is none. -/
  | unsupportedComparison (name : String) (comparison : CriteriaComparison) (type : String)
deriving Repr, DecidableEq

/-- The message of the error. -/
def CriteriaError.message : CriteriaError → String
  | blankName => "criteria name must not be blank"
  | nullNotAllowed name type => "null is not allowed for '" ++ name ++ "' of type " ++ type
  | unknownProperty name recordType =>
    "type " ++ recordType ++ " has no member '" ++ name ++ "'"
  | valueConversion name value type =>
    "value " ++ value ++ " cannot be converted to " ++ type ++ " for '" ++ name ++ "'"
  | unsupportedComparison name comparison type =>
    "comparison " ++ comparison.name ++ " is not supported for '" ++ name ++ "' of type " ++ type

/-- A condition on one member. -/
structure Criteria where
  /-- The type of the member. -/
  type : DeclaredType
  /-- The name of the member. -/
  name : String
  /-- The value that the member is compared with. -/
  value : Scalar
  /-- The relation asked for. -/
  comparison : CriteriaComparison
deriving DecidableEq

/-- The name has no character that is not blank. -/
def isBlankName (name : String) : Bool := (Text.trim name.toList).isEmpty

namespace Criteria

/-- A condition on a member of a given type. -/
def ofType (schema : Schema) (type : DeclaredType) (name : String) (value : Scalar)
    (comparison : CriteriaComparison) : Except CriteriaError Criteria :=
  if isBlankName name then .error .blankName
  else if value.isNull && !type.acceptsNull then
    .error (.nullNotAllowed name (type.text schema))
  else if comparison.isTextOnly && type.required != .str then
    .error (.unsupportedComparison name comparison (type.text schema))
  else .ok ⟨type, name, value, comparison⟩

/-- The type of a condition on a present value of a member. -/
def valueType (declared : DeclaredType) : DeclaredType :=
  match declared.required with
  | .enum _ => .int
  | inner => inner

/-- The type of a condition on the absent value of a member. -/
def nullType (declared : DeclaredType) : DeclaredType :=
  match declared.required with
  | .record id => .record id
  | _ => if declared.acceptsNull then .optional (valueType declared) else declared

/-- A condition on the member of a record type that has the name. -/
def forMember (schema : Schema) (root : RecordId) (name : String) (value : Scalar)
    (comparison : CriteriaComparison) : Except CriteriaError Criteria :=
  if isBlankName name then .error .blankName
  else
    match (schema.recordType root).member? name with
    | none => .error (.unknownProperty name (schema.recordType root).name)
    | some m =>
      if value.isNull then ofType schema (nullType m.type) m.name .null comparison
      else
        match coerceScalar schema value (.ofDeclared m.type.required) with
        | some converted => ofType schema (valueType m.type) m.name converted comparison
        | none =>
          .error (.valueConversion m.name value.text (m.type.required.text schema))

end Criteria

end RecordFilter
