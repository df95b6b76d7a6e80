import RecordFilter.Elaboration.TypedPlan
/-!
# Plans for method calls

A call chooses among the methods of its name and number of parameters.  The first one whose
parameters have exactly the types of the arguments is taken; if there is none, the first one to
whose parameters all arguments can be brought.
-/

namespace RecordFilter

/-- A method that a call may mean. -/
structure Candidate where
  /-- The types of the parameters. -/
  params : List DeclaredType
  /-- The type of the result. -/
  returns : DeclaredType
  /-- The call of the method on a target with arguments. -/
  run : Plan → List Plan → Plan

namespace Candidate

/-- A method of a record type. -/
def ofMethod (m : Method) : Candidate where
  params := m.params
  returns := m.returns
  run target args := .invoke target m.name args

/-- A built-in method on a target of a type. -/
def ofBuiltin (target : DeclaredType) (b : Builtin) : Candidate where
  params := b.params target
  returns := b.returns
  run plan args := .builtin b plan args

/-- The built-in method of a name on a type of texts, numbers or truth values. -/
def builtins (target : DeclaredType) (name : String) : List Candidate :=
  match Builtin.ofName? name with
  | some b => if b.isTextOnly && target != .str then [] else [ofBuiltin target b]
  | none => []

/-- The methods of a name on values of a base type. -/
def named (schema : Schema) (base : BaseType) (name : String) : List Candidate :=
  match base with
  | .record id => ((schema.recordType id).methodsNamed name).map ofMethod
  | .bool => builtins .bool name
  | .int => builtins .int name
  | .float => builtins .float name
  | .str => builtins .str name
  | .null | .enum _ => []

/-- The arguments have exactly the types of the parameters, and none is the literal `null`. -/
def matchesExactly (c : Candidate) (args : List TypedPlan) : Bool :=
  (c.params.zip args).all fun (param, arg) =>
    !arg.isNull && (StaticType.ofDeclared param).base == arg.type.base

end Candidate

namespace TypedPlan

/-- The arguments brought to the types of the parameters, or the error of the first that cannot
be. -/
def convertArgs (schema : Schema) :
    List DeclaredType → List TypedPlan → Except ElaborationError (List TypedPlan)
  | param :: params, arg :: args => do
    let expected := StaticType.ofDeclared param
    match arg.coerce? schema expected with
    | some converted => return converted :: (← convertArgs schema params args)
    | none => .error (arg.mismatch schema expected)
  | _, _ => .ok []

/-- The candidate with the arguments brought to its parameters. -/
def convertFor (schema : Schema) (args : List TypedPlan) (c : Candidate) :
    Except ElaborationError (Candidate × List TypedPlan) :=
  (convertArgs schema c.params args).map (c, ·)

/-- The first candidate to whose parameters the arguments can be brought, with the arguments; if
there is none, the error of the first candidate. -/
def firstConvertible (schema : Schema) (args : List TypedPlan) (first : Candidate) :
    List Candidate → Except ElaborationError (Candidate × List TypedPlan)
  | [] => convertFor schema args first
  | next :: more =>
    match convertFor schema args first with
    | .ok found => .ok found
    | .error e => (firstConvertible schema args next more).mapError fun _ => e

/-- The candidate that a call with the arguments means, and the arguments it is called with. -/
def resolve (schema : Schema) (args : List TypedPlan) (first : Candidate)
    (others : List Candidate) : Except ElaborationError (Candidate × List TypedPlan) :=
  match (first :: others).find? (·.matchesExactly args) with
  | some exact => .ok (exact, args)
  | none => firstConvertible schema args first others

/-- A call of the method of a name. -/
def call (schema : Schema) (target : TypedPlan) (method : String) (args : List TypedPlan)
    (offset : Nat) : Except ElaborationError TypedPlan :=
  let base := target.type.base
  match (Candidate.named schema base method).filter (·.params.length == args.length) with
  | [] => .error (.unknownMethod method (base.name schema) args.length offset)
  | first :: others => do
    let (candidate, args) ← resolve schema args first others
    let returns := StaticType.ofDeclared candidate.returns
    return {
      plan := candidate.run target.plan (args.map (·.plan))
      type := ⟨returns.base, returns.nullable || target.type.nullable⟩
      offset }

end TypedPlan

end RecordFilter
