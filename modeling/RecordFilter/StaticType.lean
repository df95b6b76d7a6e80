import RecordFilter.Schema
/-!
# Static types

The type that an expression is given before it runs: a base type, and whether the value may be
absent.  Base types of declarations are compared by their numbers.
-/

namespace RecordFilter

/-- The kind of a present value. -/
inductive BaseType where
  /-- No kind: the type of the literal `null`. -/
  | null
  /-- Truth values. -/
  | bool
  /-- Signed 64-bit integers. -/
  | int
  /-- Doubles. -/
  | float
  /-- Texts. -/
  | str
  /-- The integers of an enumeration. -/
  | enum (id : EnumId)
  /-- Records of a type. -/
  | record (id : RecordId)
deriving Repr, DecidableEq

/-- The name of a base type in messages. -/
def BaseType.name (schema : Schema) : BaseType → String
  | null => "null"
  | bool => "Bool"
  | int => "Int"
  | float => "Float"
  | str => "Str"
  | enum id => (schema.enumType id).name
  | record id => (schema.recordType id).name

/-- The type of an expression. -/
structure StaticType where
  /-- The kind of the value, when it is present. -/
  base : BaseType
  /-- The value may be absent. -/
  nullable : Bool
deriving Repr, DecidableEq

namespace StaticType

/-- The type of the literal `null`. -/
def null : StaticType := ⟨.null, true⟩

/-- Truth values. -/
def bool : StaticType := ⟨.bool, false⟩

/-- Records of a type, which may always be absent. -/
def record (id : RecordId) : StaticType := ⟨.record id, true⟩

/-- The type of values that are declared with a type. -/
def ofDeclared : DeclaredType → StaticType
  | .bool => ⟨.bool, false⟩
  | .int => ⟨.int, false⟩
  | .float => ⟨.float, false⟩
  | .str => ⟨.str, false⟩
  | .enum id => ⟨.enum id, false⟩
  | .record id => record id
  | .optional inner => { ofDeclared inner with nullable := true }

/-- The same type with the absent value. -/
def lifted (t : StaticType) : StaticType := { t with nullable := true }

/-- The name of a type in messages. -/
def text (schema : Schema) (t : StaticType) : String :=
  match t.base with
  | .null | .record _ => t.base.name schema
  | base =>
    if t.nullable then "Optional<" ++ base.name schema ++ ">" else base.name schema

/-- `ofDeclared` gives a type that may be absent exactly when the declared one has the absent value. -/
theorem ofDeclared_nullable (d : DeclaredType) :
    (ofDeclared d).nullable = d.acceptsNull := by
  cases d <;> rfl

/-- `ofDeclared` gives the same kind whatever the optional layers. -/
theorem ofDeclared_base_required (d : DeclaredType) :
    (ofDeclared d.required).base = (ofDeclared d).base := by
  induction d with
  | optional inner ih => exact ih
  | _ => rfl

/-- `ofDeclared` gives some kind of values. -/
theorem ofDeclared_base_ne_null (d : DeclaredType) : (ofDeclared d).base ≠ .null := by
  induction d with
  | optional inner ih => exact ih
  | _ => exact BaseType.noConfusion

end StaticType

end RecordFilter
