import Mathlib.Data.List.Forall2
import RecordFilter.Proofs.Conformance
import RecordFilter.Proofs.ElaborationSteps
import RecordFilter.Proofs.ExprPlaces
/-!
# The names of members

A name means a member if that is the only property with the name, or no property has it and it is
the only field (`RecordType.member?_eq_some_iff`).  So neither the case of a name nor the order of
the declarations counts, nor what else is declared (`RecordType.member?_congr`).  Elaboration finds
members in no other way: if the names of two expressions find the same members in two schemas that
otherwise agree, then both have the same plan (`elaborate_renamed`).
-/

namespace RecordFilter

/-! ### Members -/

/-- The member is of the kind, and has the name but for case. -/
def Member.Matches (m : Member) (kind : MemberKind) (name : String) : Prop :=
  m.kind = kind ∧ Text.sameName m.name name = true

namespace RecordType

variable {t t' : RecordType} {kind : MemberKind} {name name' : String} {m : Member}

/-- Of all members, this one alone is of the kind and has the name. -/
def OnlyMatch (t : RecordType) (kind : MemberKind) (name : String) (m : Member) : Prop :=
  ∃ before after, t.members = before ++ m :: after ∧ m.Matches kind name ∧
    ∀ b ∈ before ++ after, ¬ b.Matches kind name

/-- `matching` has the members that match. -/
private theorem mem_matching_iff : m ∈ t.matching kind name ↔ m ∈ t.members ∧ m.Matches kind name := by
  simp [matching, Member.Matches]

/-- `matching` is empty if no member matches. -/
private theorem matching_eq_nil_iff :
    t.matching kind name = [] ↔ ∀ m ∈ t.members, ¬ m.Matches kind name := by
  simp [List.eq_nil_iff_forall_not_mem, mem_matching_iff]

/-- `matching` has one member if that is the only match. -/
private theorem matching_eq_singleton_iff : t.matching kind name = [m] ↔ t.OnlyMatch kind name m := by
  simp only [matching, OnlyMatch, Member.Matches, List.filter_eq_cons_iff, List.filter_eq_nil_iff,
    Bool.and_eq_true, beq_iff_eq, List.forall_mem_append]
  constructor
  · rintro ⟨before, after, hsplit, hbefore, hm, hafter⟩
    exact ⟨before, after, hsplit, hm, hbefore, hafter⟩
  · rintro ⟨before, after, hsplit, hm, hbefore, hafter⟩
    exact ⟨before, after, hsplit, hbefore, hm, hafter⟩

/-- `member?` finds the only property that has the name; or, if no property has it, the only field. -/
theorem member?_eq_some_iff :
    t.member? name = some m ↔ t.OnlyMatch .property name m ∨
      (∀ m' ∈ t.members, ¬ m'.Matches .property name) ∧ t.OnlyMatch .field name m := by
  rw [member?_eq_some_iff_matching, matching_eq_singleton_iff, matching_eq_singleton_iff,
    matching_eq_nil_iff]

/-- `member?` only depends on what has the name, in whichever order. -/
theorem member?_congr (h : ∀ kind, (t.matching kind name).Perm (t'.matching kind name')) :
    t.member? name = t'.member? name' := by
  ext m
  -- being empty, or one member alone, is kept by permutations
  simp only [member?_eq_some_iff_matching, ← List.perm_singleton, ← List.perm_nil,
    (h _).congr_left]

/-- `member?` finds the same member in whichever case the name is written. -/
theorem member?_eq_of_sameName (h : Text.sameName name name' = true) :
    t.member? name = t.member? name' := by
  -- the same members match, in the same order
  refine member?_congr fun kind => .of_eq (List.filter_congr fun m _ => ?_)
  rw [Text.sameName, Text.sameName, Text.sameName_iff.mp h]

end RecordType

/-! ### Expressions with other names -/

mutual

/-- The expressions differ in the names of members only, which are related one by one. -/
inductive Expr.Renamed (R : String → String → Prop) : Expr → Expr → Prop where
  | logical {op l l' r r' o} (hl : l.Renamed R l') (hr : r.Renamed R r') :
      Renamed R (.logical op l r o) (.logical op l' r' o)
  | compare {op l l' r r' o} (hl : l.Renamed R l') (hr : r.Renamed R r') :
      Renamed R (.compare op l r o) (.compare op l' r' o)
  | not {e e' o} (h : e.Renamed R e') : Renamed R (.not e o) (.not e' o)
  | path {names names' o} (h : List.Forall₂ R names names') :
      Renamed R (.path names o) (.path names' o)
  | literal {value o} : Renamed R (.literal value o) (.literal value o)
  | call {target target' method args args' o} (ht : target.Renamed R target')
      (ha : Expr.AllRenamed R args args') :
      Renamed R (.call target method args o) (.call target' method args' o)

/-- The expressions of two lists differ in the names of members only. -/
inductive Expr.AllRenamed (R : String → String → Prop) : List Expr → List Expr → Prop where
  | nil : AllRenamed R [] []
  | cons {e e' es es'} (h : e.Renamed R e') (hs : Expr.AllRenamed R es es') :
      AllRenamed R (e :: es) (e' :: es')

end

namespace Expr

/-- The expressions differ in the case of names of members only. -/
def Respelled (e e' : Expr) : Prop := e.Renamed (Text.sameName · · = true) e'

/-- The names of a path; other expressions have none of their own. -/
def segments : Expr → List String
  | path names _ => names
  | _ => []

variable {R : String → String → Prop}

mutual

/-- `Renamed` holds of an expression and itself if its names are related to themselves. -/
private theorem Renamed.self {e : Expr} (h : ∀ n ∈ e.nodes, ∀ name ∈ n.segments, R name name) :
    e.Renamed R e := by
  match e with
  | .logical op l r o =>
    rw [nodes, List.forall_mem_cons, List.forall_mem_append] at h
    exact .logical (Renamed.self h.2.1) (Renamed.self h.2.2)
  | .compare op l r o =>
    rw [nodes, List.forall_mem_cons, List.forall_mem_append] at h
    exact .compare (Renamed.self h.2.1) (Renamed.self h.2.2)
  | .not e o =>
    rw [nodes, List.forall_mem_cons] at h
    exact .not (Renamed.self h.2)
  | .path names o =>
    rw [nodes, List.forall_mem_singleton] at h
    exact .path (List.forall₂_same.mpr h)
  | .literal value o => exact .literal
  -- the name of a method is no name of a member
  | .call target method args o =>
    rw [nodes, List.forall_mem_cons, List.forall_mem_append] at h
    exact .call (Renamed.self h.2.1) (AllRenamed.self h.2.2)

/-- `AllRenamed` holds of expressions and themselves if their names are related to themselves. -/
private theorem AllRenamed.self {es : List Expr}
    (h : ∀ n ∈ nodesAll es, ∀ name ∈ n.segments, R name name) : AllRenamed R es es := by
  match es with
  | [] => exact .nil
  | e :: es =>
    rw [nodesAll, List.forall_mem_append] at h
    exact .cons (Renamed.self h.1) (AllRenamed.self h.2)

end

end Expr

/-! ### Schemas with other members -/

namespace Schema

/-- The second schema has the declarations of the first one and the added members; the members stand
in any order. -/
structure Adds (schema : Schema) (added : RecordId → List Member) (schema' : Schema) : Prop where
  enumType : schema'.enumType = schema.enumType
  name (id : RecordId) : (schema'.recordType id).name = (schema.recordType id).name
  methods (id : RecordId) : (schema'.recordType id).methods = (schema.recordType id).methods
  members (id : RecordId) :
    (schema'.recordType id).members.Perm ((schema.recordType id).members ++ added id)

/-- The schemas differ in the order of their members only. -/
def Reorders (schema schema' : Schema) : Prop := schema.Adds (fun _ => []) schema'

/-- The schema without its members. -/
def withoutMembers (schema : Schema) : Schema where
  enumType := schema.enumType
  recordType id := { schema.recordType id with members := [] }

/-- The schemas have the same declarations but for members, and names that are related find the same
members in them. -/
structure Agrees (R : String → String → Prop) (schema schema' : Schema) : Prop where
  sameName {name name' : String} (h : R name name') : Text.sameName name name' = true
  others : schema.withoutMembers = schema'.withoutMembers
  member? {name name' : String} (h : R name name') (id : RecordId) :
    (schema.recordType id).member? name = (schema'.recordType id).member? name'

variable {R : String → String → Prop} {schema schema' : Schema} {added : RecordId → List Member}

/-- `Agrees` schemas are the same for what does not depend on members. -/
theorem Agrees.eq {α : Type} (h : schema.Agrees R schema') (f : Schema → α)
    (hf : ∀ s : Schema, f s = f s.withoutMembers) : f schema = f schema' := by
  -- both sides only look at what the schemas have in common
  rw [hf schema, h.others, ← hf schema']

/-- `Agrees` holds of a schema and itself for names that differ in case. -/
private theorem agrees_self (schema : Schema) : schema.Agrees (Text.sameName · · = true) schema where
  sameName := id
  others := rfl
  member? h _ := RecordType.member?_eq_of_sameName h

/-- `Adds` leaves the members that names find, if none that is added has such a name. -/
private theorem Adds.agrees (h : schema.Adds added schema') :
    schema.Agrees (fun name name' => name = name' ∧
      ∀ id, ∀ m ∈ added id, Text.sameName m.name name = false) schema' where
  sameName := by
    rintro name _ ⟨rfl, -⟩
    exact Text.sameName_refl name
  others := by
    simp only [withoutMembers, h.enumType, h.name, h.methods]
  member? := by
    rintro name _ ⟨rfl, hadded⟩ id
    refine RecordType.member?_congr fun kind => ?_
    -- no added member has the name, so none is found besides those that were there
    have hnone : ((added id).filter fun m => m.kind == kind && Text.sameName m.name name) = [] := by
      rw [List.filter_eq_nil_iff]
      intro m hm
      simp [hadded id m hm]
    have hperm := (h.members id).filter fun m => m.kind == kind && Text.sameName m.name name
    rw [List.filter_append, hnone, List.append_nil] at hperm
    exact hperm.symm

end Schema

/-! ### Elaboration -/

namespace TypedPlan

variable (schema : Schema) (args : List TypedPlan)

/-- `convertArgs` does not look at members. -/
private theorem convertArgs_withoutMembers (params : List DeclaredType) :
    convertArgs schema params args = convertArgs schema.withoutMembers params args := by
  induction params generalizing args with
  | nil => rfl
  | cons param params ih =>
    cases args with
    | nil => rfl
    | cons arg args =>
      simp only [convertArgs, ih args]
      -- `coerce?` and `mismatch` only look at enumerations and at names of types
      rfl

/-- `firstConvertible` does not look at members. -/
private theorem firstConvertible_withoutMembers (first : Candidate) (others : List Candidate) :
    firstConvertible schema args first others =
      firstConvertible schema.withoutMembers args first others := by
  -- along the candidates, each of which only converts arguments
  induction others generalizing first with
  | nil =>
    simp only [firstConvertible, convertFor]
    rw [convertArgs_withoutMembers]
  | cons next more ih =>
    simp only [firstConvertible, convertFor, ih next]
    rw [convertArgs_withoutMembers]

/-- `call` does not look at members. -/
private theorem call_withoutMembers (target : TypedPlan) (method : String) (offset : Nat) :
    call schema target method args offset = call schema.withoutMembers target method args offset := by
  -- candidates are found among methods, and their order does not change
  simp only [call, resolve, firstConvertible_withoutMembers schema]
  rfl

end TypedPlan

/-- The errors are the same, or blame names that are related.  Names may stand elsewhere, because
those before them may be longer or shorter. -/
inductive ElaborationError.Renamed (R : String → String → Prop) :
    ElaborationError → ElaborationError → Prop where
  | same (e : ElaborationError) : Renamed R e e
  | unknownMember {name name' type o o'} (h : R name name') :
      Renamed R (.unknownMember name type o) (.unknownMember name' type o')

section

variable {R : String → String → Prop} {schema schema' : Schema} {root : RecordId}

/-- `followPath` makes the same plan of paths whose names find the same members in both schemas. -/
private theorem followPath_renamed (h : schema.Agrees R schema') {names names' : List String}
    (hnames : List.Forall₂ R names names') (plan : Plan) (type : StaticType) (o o' : Nat) :
    Except.Rel (ElaborationError.Renamed R) Eq (followPath schema plan type o names)
      (followPath schema' plan type o' names') := by
  induction hnames generalizing plan type o o' with
  | nil => exact .ok rfl
  | @cons name name' names names' hname _ ih =>
    have htype : type.base.name schema = type.base.name schema' :=
      h.eq (type.base.name ·) fun _ => rfl
    -- a text has its length under either name
    have hlength : Text.sameName name "Length" = Text.sameName name' "Length" := by
      rw [Text.sameName, Text.sameName, Text.sameName_iff.mp (h.sameName hname)]
    simp only [followPath, htype, hlength]
    -- both paths stand at the same type: a record, a text, or one without members
    split
    · rw [h.member? hname]
      split
      · exact ih _ _ _ _
      · exact .error (.unknownMember hname)
    · split
      · exact ih _ _ _ _
      · exact .error (.unknownMember hname)
    · exact .error (.unknownMember hname)

mutual

/-- `elaborate` makes one plan of one type of expressions whose names find the same members in both
schemas, or fails for one reason. -/
theorem elaborate_renamed (h : schema.Agrees R schema') {e e' : Expr} (he : e.Renamed R e') :
    Except.Rel (ElaborationError.Renamed R) Eq (elaborate schema root e)
      (elaborate schema' root e') := by
  -- the operands of a node are the same plans, and its own step looks at no members
  match he with
  | .logical hl hr =>
    refine (elaborate_renamed h hl).bind fun l _ hl => (elaborate_renamed h hr).bind fun r _ hr => ?_
    subst hl hr
    exact .of_eq .same (h.eq (TypedPlan.logical · _ l r _) fun _ => rfl)
  | .compare hl hr =>
    refine (elaborate_renamed h hl).bind fun l _ hl => (elaborate_renamed h hr).bind fun r _ hr => ?_
    subst hl hr
    exact .of_eq .same (h.eq (TypedPlan.compare · _ l r _) fun _ => rfl)
  | .not he =>
    refine (elaborate_renamed h he).bind fun t _ ht => ?_
    subst ht
    exact .of_eq .same (h.eq (TypedPlan.not · t _) fun _ => rfl)
  | .path hnames =>
    refine (followPath_renamed h hnames _ _ _ _).bind fun r _ hr => ?_
    subst hr
    exact .ok rfl
  | .literal => exact .ok rfl
  | .call ht ha =>
    refine (elaborate_renamed h ht).bind fun t _ ht =>
      (elaborateAll_renamed h ha).bind fun ts _ hts => ?_
    subst ht hts
    refine .of_eq .same (h.eq (TypedPlan.call · t _ ts _) fun s => ?_)
    -- the method is the same, and so are its arguments
    exact TypedPlan.call_withoutMembers s ts t _ _

/-- `elaborate_renamed` for each of some expressions. -/
private theorem elaborateAll_renamed (h : schema.Agrees R schema') {es es' : List Expr}
    (hes : Expr.AllRenamed R es es') :
    Except.Rel (ElaborationError.Renamed R) Eq (elaborateAll schema root es)
      (elaborateAll schema' root es') := by
  match hes with
  | .nil => exact .ok rfl
  | .cons he hes =>
    refine (elaborate_renamed h he).bind fun t _ ht =>
      (elaborateAll_renamed h hes).bind fun ts _ hts => ?_
    subst ht hts
    exact .ok rfl

end

/-- `planFilter` makes one plan of filters whose names find the same members in both schemas, or fails
for one reason. -/
private theorem planFilter_renamed (h : schema.Agrees R schema') {e e' : Expr} (he : e.Renamed R e') :
    Except.Rel (ElaborationError.Renamed R) Eq (planFilter schema root e)
      (planFilter schema' root e') := by
  refine (elaborate_renamed h he).bind fun t _ ht => ?_
  subst ht
  exact .of_eq .same (h.eq (fun s => t.expectBool s >>= fun filter => .ok filter.plan) fun _ => rfl)

/-- `Predicate.ofExpr` makes the same predicate of filters whose names find the same members in both
schemas, or none. -/
private theorem ofExpr_eq_ok_iff_of_renamed (h : schema.Agrees R schema') {e e' : Expr}
    (he : e.Renamed R e') (p : Predicate) :
    Predicate.ofExpr schema' root e' = .ok p ↔ Predicate.ofExpr schema root e = .ok p := by
  rw [Predicate.ofExpr_eq_ok_iff, Predicate.ofExpr_eq_ok_iff]
  exact (planFilter_renamed h he).eq_ok_iff.symm

/-- The meaning of the names in a filter.  In whichever case they are written, in whichever order
the members of the schema are declared, and whatever other members there are, it is the same
predicate, or none.  A name means the only property that has it; or, if no property has it, the only
field. -/
theorem name_resolution (schema : Schema) (root : RecordId) (e : Expr) :
    (∀ e', e.Respelled e' → ∀ p,
      Predicate.ofExpr schema root e' = .ok p ↔ Predicate.ofExpr schema root e = .ok p) ∧
    (∀ schema', schema.Reorders schema' → ∀ p,
      Predicate.ofExpr schema' root e = .ok p ↔ Predicate.ofExpr schema root e = .ok p) ∧
    (∀ added schema', schema.Adds added schema' →
      (∀ id, ∀ m ∈ added id, ∀ n ∈ e.nodes, ∀ name ∈ n.segments, Text.sameName m.name name = false) →
      ∀ p, Predicate.ofExpr schema' root e = .ok p ↔ Predicate.ofExpr schema root e = .ok p) ∧
    ∀ (t : RecordType) (name : String) (m : Member), t.member? name = some m ↔
      t.OnlyMatch .property name m ∨
        (∀ m' ∈ t.members, ¬ m'.Matches .property name) ∧ t.OnlyMatch .field name m := by
  -- another order is the case in which no member is added
  have hadds (added schema') (h : schema.Adds added schema')
      (hadded : ∀ id, ∀ m ∈ added id, ∀ n ∈ e.nodes, ∀ name ∈ n.segments,
        Text.sameName m.name name = false) (p) :
      Predicate.ofExpr schema' root e = .ok p ↔ Predicate.ofExpr schema root e = .ok p := by
    refine ofExpr_eq_ok_iff_of_renamed h.agrees (.self fun n hn name hname => ?_) p
    exact ⟨rfl, fun id m hm => hadded id m hm n hn name hname⟩
  refine ⟨?_, ?_, hadds, fun _ _ _ => RecordType.member?_eq_some_iff⟩
  · intro e' he p
    -- the schema agrees with itself on names in another case
    exact ofExpr_eq_ok_iff_of_renamed schema.agrees_self he p
  · intro schema' h p
    exact hadds _ schema' h (fun _ _ hm => nomatch hm) p

/-- The name of the employer, in another case, with all members declared the other way round, and
with notes on every record. -/
theorem name_resolution_of_company_name :
    let e (names : List String) : Expr :=
      .compare .eq (.path names 0) (.literal (.string "Acme Corp") 16) 13
    let p : Predicate :=
      ⟨.compare .eq (.member (.member .root "Company") "Name") (.const (.str "Acme Corp"))⟩
    let notes : Member := ⟨"Notes", .field, .str⟩
    let reversed : Schema := { Sample.schema with
      recordType id := { Sample.schema.recordType id with
        members := (Sample.schema.recordType id).members.reverse } }
    let noted : Schema := { Sample.schema with
      recordType id := { Sample.schema.recordType id with
        members := notes :: (Sample.schema.recordType id).members } }
    (e ["Company", "Name"]).Respelled (e ["company", "NAME"]) ∧ Sample.schema.Reorders reversed ∧
      Sample.schema.Adds (fun _ => [notes]) noted ∧
      Predicate.ofExpr Sample.schema Sample.personId (e ["Company", "Name"]) = .ok p ∧
      Predicate.ofExpr Sample.schema Sample.personId (e ["company", "NAME"]) = .ok p ∧
      Predicate.ofExpr reversed Sample.personId (e ["Company", "Name"]) = .ok p ∧
      Predicate.ofExpr noted Sample.personId (e ["Company", "Name"]) = .ok p := by
  intro e p notes reversed noted
  have hspelled : (e ["Company", "Name"]).Respelled (e ["company", "NAME"]) :=
    .compare (.path (.cons (by decide +kernel) (.cons (by decide +kernel) .nil))) .literal
  have hreversed : Sample.schema.Reorders reversed :=
    ⟨rfl, fun _ => rfl, fun _ => rfl, fun id => by
      rw [List.append_nil]
      exact List.reverse_perm _⟩
  have hnoted : Sample.schema.Adds (fun _ => [notes]) noted :=
    ⟨rfl, fun _ => rfl, fun _ => rfl, fun id => (List.perm_append_singleton _ _).symm⟩
  have hp : Predicate.ofExpr Sample.schema Sample.personId (e ["Company", "Name"]) = .ok p := rfl
  -- no name in the filter is that of the notes
  have hnotes : ∀ id, ∀ m ∈ (fun _ : RecordId => [notes]) id, ∀ n ∈ (e ["Company", "Name"]).nodes,
      ∀ name ∈ n.segments, Text.sameName m.name name = false := by
    intro _
    simp only [List.forall_mem_singleton]
    decide +kernel
  obtain ⟨hcase, horder, hothers, -⟩ :=
    name_resolution Sample.schema Sample.personId (e ["Company", "Name"])
  exact ⟨hspelled, hreversed, hnoted, hp, (hcase _ hspelled p).mpr hp,
    (horder _ hreversed p).mpr hp, (hothers _ _ hnoted hnotes p).mpr hp⟩

end

end RecordFilter
