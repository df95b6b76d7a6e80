import RecordFilter.Text.Casing
/-!
# Schemas

A schema declares enumerations and record types.  Both are known by a number, and two of them are
the same only if their numbers are; record types may refer to each other and to themselves.
Members are found by name without regard to case, and a property hides the fields of its name.
-/

namespace RecordFilter

/-- The number of an enumeration in its schema. -/
abbrev EnumId := Nat

/-- The number of a record type in its schema. -/
abbrev RecordId := Nat

/-- The declared type of a member, a parameter or a result. -/
inductive DeclaredType where
  /-- Truth values. -/
  | bool
  /-- Signed 64-bit integers. -/
  | int
  /-- Doubles. -/
  | float
  /-- Texts. -/
  | str
  /-- The values of an enumeration. -/
  | enum (id : EnumId)
  /-- Records, or the absent value. -/
  | record (id : RecordId)
  /-- The values of the inner type, or the absent value. -/
  | optional (inner : DeclaredType)
deriving Repr, DecidableEq

/-- A member is declared as a property or as a field. -/
inductive MemberKind where
  | property
  | field
deriving Repr, DecidableEq

/-- A member of a record type. -/
structure Member where
  /-- The name in its declared spelling. -/
  name : String
  /-- Property or field. -/
  kind : MemberKind
  /-- The declared type. -/
  type : DeclaredType
deriving Repr, DecidableEq

/-- A method of a record type; several may share a name. -/
structure Method where
  /-- The name, which calls must spell exactly. -/
  name : String
  /-- The types of the parameters. -/
  params : List DeclaredType
  /-- The type of the result. -/
  returns : DeclaredType
deriving Repr, DecidableEq

/-- A record type. -/
structure RecordType where
  /-- The name, for messages. -/
  name : String
  /-- The members in the order of their declaration. -/
  members : List Member
  /-- The methods in the order of their declaration. -/
  methods : List Method
deriving Repr, DecidableEq, Inhabited

/-- An enumeration. -/
structure EnumType where
  /-- The name, for messages. -/
  name : String
  /-- The variants and their integers, in the order of their declaration. -/
  variants : List (String × Int64)
deriving Repr, DecidableEq, Inhabited

/-- The enumerations and record types that declared types refer to. -/
structure Schema where
  /-- The enumeration of each number. -/
  enumType : EnumId → EnumType
  /-- The record type of each number. -/
  recordType : RecordId → RecordType

/-- The schema of listed declarations, numbered from zero. -/
def Schema.ofLists (enums : List EnumType) (records : List RecordType) : Schema where
  enumType i := enums.getD i default
  recordType i := records.getD i default

namespace DeclaredType

/-- The type has the absent value. -/
def acceptsNull : DeclaredType → Bool
  | optional _ | record _ => true
  | _ => false

/-- The type without the optional layers around it. -/
def required : DeclaredType → DeclaredType
  | optional inner => inner.required
  | type => type

/-- The name of a type in messages. -/
def text (schema : Schema) : DeclaredType → String
  | bool => "Bool"
  | int => "Int"
  | float => "Float"
  | str => "Str"
  | enum id => (schema.enumType id).name
  | record id => (schema.recordType id).name
  | optional inner => "Optional<" ++ inner.text schema ++ ">"

end DeclaredType

namespace EnumType

/-- The integer of the first variant that has the name. -/
def valueOf? (e : EnumType) (name : String) : Option Int64 :=
  (e.variants.find? fun v => Text.sameName v.1 name).map (·.2)

/-- The name of the first variant that has the integer. -/
def nameOf? (e : EnumType) (value : Int64) : Option String :=
  (e.variants.find? fun v => v.2 == value).map (·.1)

end EnumType

namespace RecordType

/-- The members of one kind that have the name. -/
def matching (t : RecordType) (kind : MemberKind) (name : String) : List Member :=
  t.members.filter fun m => m.kind == kind && Text.sameName m.name name

/-- The only property that has the name, or the only such field when no property has it. -/
def member? (t : RecordType) (name : String) : Option Member :=
  match t.matching .property name with
  | [m] => some m
  | _ :: _ :: _ => none
  | [] =>
    match t.matching .field name with
    | [m] => some m
    | _ => none

/-- The methods that have exactly the name. -/
def methodsNamed (t : RecordType) (name : String) : List Method :=
  t.methods.filter fun m => m.name == name

end RecordType

end RecordFilter
