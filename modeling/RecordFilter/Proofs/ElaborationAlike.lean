import RecordFilter.Elaboration
import RecordFilter.Proofs.Alike
/-!
# Elaboration does not depend on offsets

Expressions that differ in their offsets only have the same plan of the same type, or fail for the
same reason (`elaborate_alike`).  Offsets only say where an error is.
-/

namespace RecordFilter

/-- The error with another offset. -/
def ElaborationError.at (e : ElaborationError) (offset : Nat) : ElaborationError :=
  match e with
  | unknownMember member type _ => unknownMember member type offset
  | unknownMethod method type arity _ => unknownMethod method type arity offset
  | unsupportedOperator operator operand _ => unsupportedOperator operator operand offset
  | typeMismatch expected found _ => typeMismatch expected found offset

/-- The errors differ in their offsets only. -/
def ElaborationError.Alike (e e' : ElaborationError) : Prop := e.at 0 = e'.at 0

/-- The plans with types differ in their offsets only. -/
structure TypedPlan.Alike (t t' : TypedPlan) : Prop where
  plan : t.plan = t'.plan
  type : t.type = t'.type
  source : t.source = t'.source

namespace TypedPlan

variable {schema : Schema} {t t' left left' right right' target target' : TypedPlan}
  {args args' : List TypedPlan}

/-- `TypedPlan.isConstant` looks at the plan only. -/
theorem Alike.isConstant (h : t.Alike t') : t.isConstant = t'.isConstant := by
  rw [TypedPlan.isConstant, h.plan, TypedPlan.isConstant]

/-- `TypedPlan.isNull` looks at the type only. -/
theorem Alike.isNull (h : t.Alike t') : t.isNull = t'.isNull := by
  rw [TypedPlan.isNull, h.type, TypedPlan.isNull]

/-- `TypedPlan.coerce?` looks at plan, type and written text, and passes the offset on. -/
theorem Alike.coerce? (h : t.Alike t') (schema : Schema) (expected : StaticType) :
    Option.Rel Alike (t.coerce? schema expected) (t'.coerce? schema expected) := by
  unfold TypedPlan.coerce?
  rw [← h.plan, ← h.type, ← h.source]
  -- a constant is converted at once, any other plan when it runs
  split
  · rename_i value _
    cases convertConstant schema value t.source expected with
    | none => exact .none
    | some _ => exact .some ⟨rfl, rfl, rfl⟩
  · cases t.plan.convertTo? t.type.base expected.base with
    | none => exact .none
    | some _ => exact .some ⟨rfl, rfl, rfl⟩

/-- `TypedPlan.coerceConstant?` converts both plans or none. -/
theorem Alike.coerceConstant? (h : t.Alike t') (schema : Schema) (expected : StaticType) :
    Option.Rel Alike (t.coerceConstant? schema expected) (t'.coerceConstant? schema expected) := by
  unfold TypedPlan.coerceConstant?
  rw [← h.isConstant]
  split
  · exact h.coerce? schema expected
  · exact .none

/-- `TypedPlan.mismatch` names the same types. -/
theorem Alike.mismatch (h : t.Alike t') (schema : Schema) (expected : StaticType) :
    (t.mismatch schema expected).Alike (t'.mismatch schema expected) := by
  unfold TypedPlan.mismatch
  rw [h.type]
  rfl

/-- `TypedPlan.expectBool` accepts both plans or refuses both. -/
theorem Alike.expectBool (h : t.Alike t') (schema : Schema) :
    Except.Rel ElaborationError.Alike Alike (t.expectBool schema) (t'.expectBool schema) := by
  unfold TypedPlan.expectBool
  rw [← h.type]
  split
  · exact .ok h
  · exact .error (h.mismatch schema .bool)

/-! ### Operators -/

/-- `TypedPlan.logical` joins alike sides to alike plans. -/
theorem Alike.logical (hl : left.Alike left') (hr : right.Alike right') (schema : Schema)
    (op : Connective) (o o' : Nat) :
    Except.Rel ElaborationError.Alike Alike (TypedPlan.logical schema op left right o)
      (TypedPlan.logical schema op left' right' o') := by
  refine (hl.expectBool schema).bind fun l l' hl => ?_
  refine (hr.expectBool schema).bind fun r r' hr => ?_
  refine .ok ⟨?_, rfl, rfl⟩
  dsimp only
  rw [hl.plan, hr.plan]

/-- `TypedPlan.not` makes alike plans of alike operands. -/
theorem Alike.not (h : t.Alike t') (schema : Schema) (o o' : Nat) :
    Except.Rel ElaborationError.Alike Alike (TypedPlan.not schema t o)
      (TypedPlan.not schema t' o') := by
  refine (h.expectBool schema).bind fun u u' hu => ?_
  exact .ok ⟨congrArg Plan.not hu.plan, hu.type, rfl⟩

/-- Operands of one base type that are alike. -/
structure Unified.Alike (u u' : Unified) : Prop where
  left : u.left.Alike u'.left
  right : u.right.Alike u'.right
  base : u.base = u'.base

/-- `Option.Rel` is kept by functions that keep elements related. -/
private theorem rel_map {α β : Type} {r : α → α → Prop} {s : β → β → Prop} {a b : Option α}
    {f g : α → β} (h : Option.Rel r a b) (hfg : ∀ a b, r a b → s (f a) (g b)) :
    Option.Rel s (a.map f) (b.map g) := by
  cases h with
  | some h => exact .some (hfg _ _ h)
  | none => exact .none

/-- `TypedPlan.promote?` decides by the types of its sides. -/
theorem Alike.promote? (hl : left.Alike left') (hr : right.Alike right') (schema : Schema) :
    Option.Rel Unified.Alike (TypedPlan.promote? schema left right)
      (TypedPlan.promote? schema left' right') := by
  unfold TypedPlan.promote?
  rw [← hl.type, ← hr.type]
  -- the kinds of the sides decide, and they are the same
  split
  · exact rel_map (hl.coerce? schema _) fun _ _ h => ⟨h, hr, rfl⟩
  · exact rel_map (hr.coerce? schema _) fun _ _ h => ⟨hl, h, rfl⟩
  · exact .some ⟨hl, hr, rfl⟩
  · exact .some ⟨hl, hr, rfl⟩
  · exact .none

/-- `TypedPlan.unify?` brings alike sides together alike. -/
theorem Alike.unify? (hl : left.Alike left') (hr : right.Alike right') (schema : Schema) :
    Option.Rel Unified.Alike (TypedPlan.unify? schema left right)
      (TypedPlan.unify? schema left' right') := by
  have hrc := hr.coerceConstant? schema left.type
  have hlc := hl.coerceConstant? schema right.type
  have hp := hl.promote? hr schema
  unfold TypedPlan.unify?
  rw [← hl.type, ← hr.type]
  split
  · exact .some ⟨hl, hr, rfl⟩
  · -- each attempt succeeds on both sides, or on neither
    generalize right.coerceConstant? schema left.type = r,
      right'.coerceConstant? schema left.type = r' at hrc
    cases hrc with
    | some h => exact .some ⟨hl, h, rfl⟩
    | none =>
      generalize left.coerceConstant? schema right.type = l,
        left'.coerceConstant? schema right.type = l' at hlc
      cases hlc with
      | some h => exact .some ⟨h, hr, rfl⟩
      | none => exact hp

/-- `TypedPlan.incomparable` names the same side. -/
theorem Alike.incomparable (hl : left.Alike left') (hr : right.Alike right') (schema : Schema)
    (o o' : Nat) :
    (TypedPlan.incomparable schema left right o).Alike
      (TypedPlan.incomparable schema left' right' o') := by
  unfold TypedPlan.incomparable
  rw [← hl.isConstant, ← hr.isConstant, ← hl.type, ← hr.type]
  split
  · exact hr.mismatch schema left.type
  · split
    · exact hl.mismatch schema right.type
    · rfl

/-- Operands of which one is the literal `null`: only the type of the other one counts. -/
theorem Alike.checkNull (ho : right.Alike right') (schema : Schema) (op : Comparison)
    (left left' : TypedPlan) (o o' : Nat) :
    Except.Rel ElaborationError.Alike Eq (TypedPlan.checkNull schema op left right o)
      (TypedPlan.checkNull schema op left' right' o') := by
  unfold TypedPlan.checkNull
  rw [← ho.type]
  split
  · exact .error rfl
  · split
    · exact .error rfl
    · exact .ok rfl

/-- `TypedPlan.checkBase` uses the offset in its errors only. -/
private theorem checkBase_alike (schema : Schema) (op : Comparison) (base : BaseType) (o o' : Nat) :
    Except.Rel ElaborationError.Alike Eq (TypedPlan.checkBase schema op base o)
      (TypedPlan.checkBase schema op base o') := by
  unfold TypedPlan.checkBase
  split
  · exact .error rfl
  · split
    · exact .error rfl
    · exact .ok rfl
  · exact .ok rfl

/-- `TypedPlan.compare` makes alike comparisons of alike sides. -/
theorem Alike.compare (hl : left.Alike left') (hr : right.Alike right') (schema : Schema)
    (op : Comparison) (o o' : Nat) :
    Except.Rel ElaborationError.Alike Alike (TypedPlan.compare schema op left right o)
      (TypedPlan.compare schema op left' right' o') := by
  have hu := hl.unify? hr schema
  unfold TypedPlan.compare
  rw [← hl.isNull, ← hr.isNull]
  split
  · -- a comparison with `null`
    have result : Alike
        { plan := .compare op left.plan right.plan, type := .bool, offset := o }
        { plan := .compare op left'.plan right'.plan, type := .bool, offset := o' } :=
      ⟨by rw [hl.plan, hr.plan], rfl, rfl⟩
    split
    · exact (hr.checkNull schema op left left' o o').bind fun _ _ _ => .ok result
    · exact (hl.checkNull schema op right right' o o').bind fun _ _ _ => .ok result
  · generalize TypedPlan.unify? schema left right = u,
      TypedPlan.unify? schema left' right' = u' at hu
    cases hu with
    -- no common kind: the error names the same side
    | none => exact .error (hl.incomparable hr schema o o')
    | some hu =>
      dsimp only
      rw [← hu.base]
      refine (checkBase_alike schema op _ o o').bind fun _ _ _ => .ok ⟨?_, rfl, rfl⟩
      rw [hu.left.plan, hu.right.plan]

/-! ### Calls -/

/-- `matchesExactly` takes alike arguments for the same candidates. -/
private theorem matchesExactly_alike (h : List.Forall₂ Alike args args') (c : Candidate) :
    c.matchesExactly args = c.matchesExactly args' := by
  unfold Candidate.matchesExactly
  generalize c.params = params
  -- along the arguments, with the parameters general
  induction h generalizing params with
  | nil => rfl
  | cons ha _ ih =>
    cases params with
    | nil => rfl
    | cons param params =>
      rw [List.zip_cons_cons, List.zip_cons_cons, List.all_cons, List.all_cons, ih]
      dsimp only
      rw [ha.isNull, ha.type]

/-- `convertArgs` converts alike arguments alike, or stops at the same one. -/
private theorem convertArgs_alike (h : List.Forall₂ Alike args args') (schema : Schema)
    (params : List DeclaredType) :
    Except.Rel ElaborationError.Alike (List.Forall₂ Alike) (convertArgs schema params args)
      (convertArgs schema params args') := by
  induction h generalizing params with
  | nil => cases params <;> exact .ok .nil
  | @cons a a' as as' ha _ ih =>
    cases params with
    | nil => exact .ok .nil
    | cons param params =>
      have hc := ha.coerce? schema (.ofDeclared param)
      -- the first argument that cannot be converted is the same one
      unfold convertArgs
      dsimp only
      generalize a.coerce? schema (.ofDeclared param) = c,
        a'.coerce? schema (.ofDeclared param) = c' at hc
      cases hc with
      | some hc => exact (ih params).bind fun _ _ h => .ok (.cons hc h)
      | none => exact .error (ha.mismatch schema _)

/-- The candidates are the same, and the arguments are alike. -/
def CallAlike (a b : Candidate × List TypedPlan) : Prop :=
  a.1 = b.1 ∧ List.Forall₂ Alike a.2 b.2

/-- `convertFor` converts alike arguments to the parameters of a candidate alike. -/
private theorem convertFor_alike (h : List.Forall₂ Alike args args') (schema : Schema) (c : Candidate) :
    Except.Rel ElaborationError.Alike CallAlike (convertFor schema args c)
      (convertFor schema args' c) :=
  (convertArgs_alike h schema c.params).map fun _ _ h => ⟨rfl, h⟩

/-- `firstConvertible` chooses the same candidate for alike arguments. -/
private theorem firstConvertible_alike (h : List.Forall₂ Alike args args') (schema : Schema)
    (first : Candidate) (others : List Candidate) :
    Except.Rel ElaborationError.Alike CallAlike (firstConvertible schema args first others)
      (firstConvertible schema args' first others) := by
  -- along the candidates; the error of the first one is passed on
  induction others generalizing first with
  | nil => exact convertFor_alike h schema first
  | cons next more ih =>
    have hfirst := convertFor_alike h schema first
    unfold firstConvertible
    generalize convertFor schema args first = r, convertFor schema args' first = r' at hfirst
    cases hfirst with
    | ok hf => exact .ok hf
    -- the error of the first candidate is kept, whichever comes later
    | error he => exact (ih next).mapError fun _ _ _ => he

/-- `resolve` chooses the same candidate for alike arguments. -/
private theorem resolve_alike (h : List.Forall₂ Alike args args') (schema : Schema) (first : Candidate)
    (others : List Candidate) :
    Except.Rel ElaborationError.Alike CallAlike (resolve schema args first others)
      (resolve schema args' first others) := by
  have hfind : (fun c : Candidate => c.matchesExactly args) = (·.matchesExactly args') :=
    funext (matchesExactly_alike h)
  unfold resolve
  rw [hfind]
  split
  · exact .ok ⟨rfl, h⟩
  · exact firstConvertible_alike h schema first others

/-- Alike plans with types are the same plans. -/
private theorem map_plan_eq (h : List.Forall₂ Alike args args') :
    args.map (·.plan) = args'.map (·.plan) := by
  induction h with
  | nil => rfl
  | cons ha _ ih => rw [List.map_cons, List.map_cons, ha.plan, ih]

/-- `TypedPlan.call` makes alike calls of alike targets and arguments. -/
theorem Alike.call (ht : target.Alike target') (ha : List.Forall₂ Alike args args')
    (schema : Schema) (method : String) (o o' : Nat) :
    Except.Rel ElaborationError.Alike Alike (TypedPlan.call schema target method args o)
      (TypedPlan.call schema target' method args' o') := by
  unfold TypedPlan.call
  dsimp only
  rw [← ht.type, ← ha.length_eq]
  -- no candidate has so many parameters, or one of them is chosen
  split
  · exact .error rfl
  · refine (resolve_alike ha schema _ _).bind ?_
    rintro ⟨c, converted⟩ ⟨c', converted'⟩ ⟨hc, hconverted⟩
    dsimp only at hc hconverted ⊢
    subst hc
    refine .ok ⟨?_, rfl, rfl⟩
    dsimp only
    rw [ht.plan, map_plan_eq hconverted]

end TypedPlan

/-! ### Expressions -/

section

variable {schema : Schema} {root : RecordId}

/-- `followPath` of one path from two places of the source has one outcome, but for the offset of an
error. -/
private theorem followPath_alike (plan : Plan) (type : StaticType) (o o' : Nat) (names : List String) :
    Except.Rel ElaborationError.Alike Eq (followPath schema plan type o names)
      (followPath schema plan type o' names) := by
  induction names generalizing plan type o o' with
  | nil => exact .ok rfl
  | cons name names ih =>
    -- the offset is carried along, and read only by errors
    unfold followPath
    dsimp only
    split
    · split
      · exact ih _ _ _ _
      · exact .error rfl
    · split
      · exact ih _ _ _ _
      · exact .error rfl
    · exact .error rfl

mutual

/-- `elaborate` takes alike expressions to one plan of one type, or fails for one reason. -/
theorem elaborate_alike {e e' : Expr} (h : e.Alike e') :
    Except.Rel ElaborationError.Alike TypedPlan.Alike (elaborate schema root e)
      (elaborate schema root e') := by
  match h with
  | .logical hl hr =>
    exact (elaborate_alike hl).bind fun _ _ hl =>
      (elaborate_alike hr).bind fun _ _ hr => hl.logical hr schema _ _ _
  | .compare hl hr =>
    exact (elaborate_alike hl).bind fun _ _ hl =>
      (elaborate_alike hr).bind fun _ _ hr => hl.compare hr schema _ _ _
  | .not h => exact (elaborate_alike h).bind fun _ _ h => h.not schema _ _
  | .path =>
    refine (followPath_alike _ _ _ _ _).bind ?_
    rintro ⟨plan, type⟩ _ rfl
    exact .ok ⟨rfl, rfl, rfl⟩
  | .literal => exact .ok ⟨rfl, rfl, rfl⟩
  | .call ht ha =>
    exact (elaborate_alike ht).bind fun _ _ ht =>
      (elaborateAll_alike ha).bind fun _ _ ha => ht.call ha schema _ _ _

/-- The lists of arguments in `elaborate_alike`. -/
private theorem elaborateAll_alike {es es' : List Expr} (h : Expr.AllAlike es es') :
    Except.Rel ElaborationError.Alike (List.Forall₂ TypedPlan.Alike)
      (elaborateAll schema root es) (elaborateAll schema root es') := by
  match h with
  | .nil => exact .ok .nil
  | .cons h hs =>
    exact (elaborate_alike h).bind fun _ _ h =>
      (elaborateAll_alike hs).bind fun _ _ hs => .ok (.cons h hs)

end

/-- `planFilter` takes alike filters to one plan, or fails for one reason. -/
theorem planFilter_alike {e e' : Expr} (h : e.Alike e') :
    Except.Rel ElaborationError.Alike Eq (planFilter schema root e)
      (planFilter schema root e') :=
  (elaborate_alike h).bind fun _ _ h => (h.expectBool schema).bind fun _ _ h => .ok h.plan

end

end RecordFilter
