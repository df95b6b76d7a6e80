import RecordFilter.Proofs.Operands
import RecordFilter.Proofs.TextConstants
/-!
# Which operands can be compared

Elaboration brings the operands of a comparison together step by step, and takes the first way that
leads anywhere.  `TypedPlan.ComparesAt` lists the ways without an order: two operands can be
compared at a kind if one of its rules says so.  It does not matter which way is taken, because ways
to different kinds lead to kinds with the same operators (`TypedPlan.ComparesAt.exists_unify?`).  So
a comparison has a meaning exactly if some rule applies and the operator is defined on its kind, and
beside `null` exactly if the other operand may be absent (`comparison_typing`).
-/

namespace RecordFilter

/-- The expression is the literal `null`. -/
def Expr.isNullLiteral : Expr → Bool
  | literal .null _ => true
  | _ => false

private theorem Expr.isNullLiteral_eq_false {e : Expr} (h : e.isLiteral = false) :
    e.isNullLiteral = false := by
  cases e with
  | literal _ _ => exact nomatch h
  | _ => rfl

/-- `isOrdering` fails for the two operators of equality. -/
private theorem Comparison.isOrdering_eq_false_iff {op : Comparison} :
    op.isOrdering = false ↔ op = .eq ∨ op = .ne := by
  cases op <;> simp [isOrdering]

/-- `BaseType.allows` takes an operator on all kinds of values but records, except that truth values
have no order. -/
private theorem BaseType.allows_iff {base : BaseType} {op : Comparison} (h : base ≠ .null) :
    base.allows op = true ↔ (∀ id, base ≠ .record id) ∧ ¬ (base = .bool ∧ op.isOrdering = true) := by
  cases base <;> simp_all [allows]

/-- Only the literal `null` has the absent value. -/
theorem Literal.value_eq_null_iff {value : Literal} : value.value = .null ↔ value = .null := by
  constructor
  · intro h
    cases value with
    | null => rfl
    | _ => exact absurd h (Literal.value_kept rfl).1
  · rintro rfl
    rfl

/-- Only the absent constant has the type of `null`. -/
private theorem Scalar.staticType_base_eq_null_iff {value : Scalar} :
    value.staticType.base = .null ↔ value = .null := by
  cases value <;> simp [staticType, StaticType.null, StaticType.bool]

namespace TypedPlan

/-- The plan has the kind of its value, if it is a constant. -/
def ConstantHasKind (t : TypedPlan) : Prop :=
  ∀ value, t.plan = .const value → t.type.base = value.staticType.base

/-- The same plan, marked as one that may be absent or as one that may not. -/
def withNullable (t : TypedPlan) (nullable : Bool) : TypedPlan :=
  { t with type := { t.type with nullable } }

/-- The operands can be compared at the kind.  They are of one kind; or one is a constant that becomes
one of the kind of the other; or they are an integer and a double, which are compared as doubles, or an
enumeration and an integer, which are compared as integers. -/
inductive ComparesAt (schema : Schema) (left right : TypedPlan) : BaseType → Prop where
  | same (h : left.type.base = right.type.base) : ComparesAt schema left right left.type.base
  | rightConstant {value} (hv : right.plan = .const value)
      (h : (convertConstant schema value right.source left.type).isSome = true) :
      ComparesAt schema left right left.type.base
  | leftConstant {value} (hv : left.plan = .const value)
      (h : (convertConstant schema value left.source right.type).isSome = true) :
      ComparesAt schema left right right.type.base
  | intFloat (hl : left.type.base = .int) (hr : right.type.base = .float) :
      ComparesAt schema left right .float
  | floatInt (hl : left.type.base = .float) (hr : right.type.base = .int) :
      ComparesAt schema left right .float
  | enumInt {id} (hl : left.type.base = .enum id) (hr : right.type.base = .int) :
      ComparesAt schema left right .int
  | intEnum {id} (hl : left.type.base = .int) (hr : right.type.base = .enum id) :
      ComparesAt schema left right .int

variable {schema : Schema} {left right t : TypedPlan} {u : Unified} {base : BaseType}

/-! ### Constants and promotions -/

private theorem isConstant_of_plan {value : Scalar} (h : t.plan = .const value) : t.isConstant = true := by
  simp [isConstant, h, Plan.constant?]

/-- `coerceConstant?` converts a constant if its value can be converted. -/
private theorem coerceConstant?_isSome_iff {expected : StaticType} :
    (t.coerceConstant? schema expected).isSome = true ↔
      ∃ value, t.plan = .const value ∧
        (convertConstant schema value t.source expected).isSome = true := by
  unfold coerceConstant? coerce? isConstant
  cases hplan : t.plan <;> simp [Plan.constant?]

/-- `coerce?` makes a double of an integer, now or when it runs. -/
private theorem exists_coerce?_float (schema : Schema) (hconst : t.ConstantHasKind)
    (h : t.type.base = .int) : ∃ t', t.coerce? schema ⟨.float, false⟩ = some t' := by
  rw [← Option.isSome_iff_exists]
  unfold coerce?
  split
  · rename_i value hvalue
    have hplan : t.plan = .const value := by
      cases hp : t.plan <;> simp_all [Plan.constant?]
    rw [hconst value hplan] at h
    cases value <;> simp_all [Scalar.staticType, StaticType.null, StaticType.bool, convertConstant]
  · simp [h, Plan.convertTo?]

/-- `promote?` takes numbers only, on which all operators are defined. -/
private theorem promote?_allows (h : promote? schema left right = some u) (op : Comparison) :
    left.type.base.allows op = true ∧ right.type.base.allows op = true ∧ u.base.allows op = true := by
  unfold promote? at h
  split at h
  -- an Int beside a Float, a Float beside an Int, an Enum beside an Int and the reverse: each of these
  -- kinds has all operators
  all_goals rename_i hl hr
  · obtain ⟨_, -, rfl⟩ := Option.map_eq_some_iff.mp h
    rw [hl, hr]
    exact ⟨rfl, rfl, rfl⟩
  · obtain ⟨_, -, rfl⟩ := Option.map_eq_some_iff.mp h
    rw [hl, hr]
    exact ⟨rfl, rfl, rfl⟩
  · cases h
    rw [hl, hr]
    exact ⟨rfl, rfl, rfl⟩
  · cases h
    rw [hl, hr]
    exact ⟨rfl, rfl, rfl⟩
  · exact nomatch h

/-! ### Rules and steps -/

/-- `ComparesAt` holds of what `promote?` takes, at the kind that it promotes to. -/
private theorem comparesAt_of_promote? (h : promote? schema left right = some u) :
    left.ComparesAt schema right u.base := by
  unfold promote? at h
  -- the branches are the last four rules, in the order in which they are declared
  split at h
  all_goals rename_i hl hr
  · obtain ⟨_, -, rfl⟩ := Option.map_eq_some_iff.mp h
    exact .intFloat hl hr
  · obtain ⟨_, -, rfl⟩ := Option.map_eq_some_iff.mp h
    exact .floatInt hl hr
  · cases h
    exact .enumInt hl hr
  · cases h
    exact .intEnum hl hr
  · exact nomatch h

/-- `ComparesAt` has a rule for each way in which `unify?` brings operands together. -/
private theorem comparesAt_of_unify? (h : unify? schema left right = some u) :
    left.ComparesAt schema right u.base := by
  unfold unify? at h
  -- operands of one kind, then the right constant, then the left one, then promotion
  split at h
  · rename_i hbase
    cases h
    exact .same hbase
  · split at h
    · rename_i hright
      obtain ⟨value, hv, hc⟩ := coerceConstant?_isSome_iff.mp (Option.isSome_of_eq_some hright)
      cases h
      exact .rightConstant hv hc
    · split at h
      · rename_i hleft
        obtain ⟨value, hv, hc⟩ := coerceConstant?_isSome_iff.mp (Option.isSome_of_eq_some hleft)
        cases h
        exact .leftConstant hv hc
      · exact comparesAt_of_promote? h

/-- `unify?` brings operands together that `promote?` takes, if not as promoted ones then at the kind of
one of them. -/
private theorem exists_unify?_of_promote? (h : promote? schema left right = some u) :
    ∃ u', unify? schema left right = some u' ∧ ∀ op, u'.base.allows op = true := by
  have hallows := promote?_allows h
  -- an earlier way may take the operands, and then the kind is that of one of them
  unfold unify?
  split
  · exact ⟨_, rfl, fun op => (hallows op).1⟩
  · split
    · exact ⟨_, rfl, fun op => (hallows op).1⟩
    · split
      · exact ⟨_, rfl, fun op => (hallows op).2.1⟩
      · exact ⟨_, h, fun op => (hallows op).2.2⟩

/-- `unify?` brings operands together to which some rule of `ComparesAt` applies, at the kind of the
rule or at one with the same operators.  Of two constants the right one would be converted first, so one
operand must be none. -/
theorem ComparesAt.exists_unify? (hone : left.isConstant = false ∨ right.isConstant = false)
    (hleft : left.ConstantHasKind) (hright : right.ConstantHasKind)
    (h : left.ComparesAt schema right base) :
    ∃ u, unify? schema left right = some u ∧ ∀ op, u.base.allows op = base.allows op := by
  -- the last four rules are those of promotion
  have promoted {u : Unified} (hu : promote? schema left right = some u)
      (hbase : ∀ op, base.allows op = true) :
      ∃ u, unify? schema left right = some u ∧ ∀ op, u.base.allows op = base.allows op := by
    obtain ⟨u', hu', hallows⟩ := exists_unify?_of_promote? hu
    exact ⟨u', hu', fun op => (hallows op).trans (hbase op).symm⟩
  cases h with
  | same hbase => exact ⟨_, if_pos hbase, fun _ => rfl⟩
  | rightConstant hv hc =>
    obtain ⟨r, hr⟩ := Option.isSome_iff_exists.mp (coerceConstant?_isSome_iff.mpr ⟨_, hv, hc⟩)
    unfold unify?
    split
    · exact ⟨_, rfl, fun _ => rfl⟩
    · rw [hr]
      exact ⟨_, rfl, fun _ => rfl⟩
  | leftConstant hv hc =>
    -- the right operand is no constant, so `unify?` does come to the left one
    obtain ⟨l, hl⟩ := Option.isSome_iff_exists.mp (coerceConstant?_isSome_iff.mpr ⟨_, hv, hc⟩)
    have hnone : right.isConstant = false := by
      simpa [isConstant_of_plan hv] using hone
    unfold unify?
    split
    · rename_i hbase
      exact ⟨_, rfl, fun _ => by rw [hbase]⟩
    · rw [coerceConstant?_eq_none hnone, hl]
      exact ⟨_, rfl, fun _ => rfl⟩
  | intFloat hl hr =>
    -- a constant is converted now, anything else when it is evaluated
    obtain ⟨l, hc⟩ := exists_coerce?_float schema hleft hl
    have hu : promote? schema left right = some ⟨l, right, .float⟩ := by
      simp only [promote?, hl, hr, hc, Option.map_some]
    exact promoted hu fun _ => rfl
  | floatInt hl hr =>
    obtain ⟨r, hc⟩ := exists_coerce?_float schema hright hr
    have hu : promote? schema left right = some ⟨left, r, .float⟩ := by
      simp only [promote?, hl, hr, hc, Option.map_some]
    exact promoted hu fun _ => rfl
  | enumInt hl hr =>
    have hu : promote? schema left right = some ⟨left, right, .int⟩ := by
      simp only [promote?, hl, hr]
    exact promoted hu fun _ => rfl
  | intEnum hl hr =>
    have hu : promote? schema left right = some ⟨left, right, .int⟩ := by
      simp only [promote?, hl, hr]
    exact promoted hu fun _ => rfl

/-- `compare` takes present operands, not both constants, exactly if `ComparesAt` has a kind for them on
which the operator is defined. -/
private theorem exists_compare_iff {op : Comparison} {offset : Nat} (hl : left.isNull = false)
    (hr : right.isNull = false) (hone : left.isConstant = false ∨ right.isConstant = false)
    (hleft : left.ConstantHasKind) (hright : right.ConstantHasKind) :
    (∃ t, compare schema op left right offset = .ok t) ↔
      ∃ base, left.ComparesAt schema right base ∧ base.allows op = true := by
  simp only [compare_eq_ok_iff, operands?, hl, hr, Bool.false_eq_true, if_false]
  constructor
  · rintro ⟨_, u, hu, hop, -⟩
    exact ⟨u.base, comparesAt_of_unify? hu, hop⟩
  -- the kind that `unify?` comes to may be another than `base`, but it has the same operators
  · rintro ⟨base, hbase, hop⟩
    obtain ⟨u, hu, hallows⟩ := hbase.exists_unify? hone hleft hright
    exact ⟨_, u, hu, (hallows op).trans hop, rfl⟩

/-- `ComparesAt` brings operands that are not the literal `null` to a kind of values. -/
private theorem ComparesAt.ne_null (hl : left.isNull = false) (hr : right.isNull = false)
    (h : left.ComparesAt schema right base) : base ≠ .null := by
  simp only [isNull, beq_eq_false_iff_ne] at hl hr
  cases h with
  | same _ | rightConstant _ _ => exact hl
  | leftConstant _ _ => exact hr
  | intFloat _ _ | floatInt _ _ | enumInt _ _ | intEnum _ _ => exact BaseType.noConfusion

/-! ### Whether an operand may be absent -/

/-- Beside `null` on the left, what may be absent is compared for equality. -/
private theorem exists_compare_null_left_iff {op : Comparison} {offset : Nat} (hl : left.isNull = true) :
    (∃ t, compare schema op left right offset = .ok t) ↔
      op.isOrdering = false ∧ right.type.nullable = true := by
  simp only [compare_eq_ok_iff, operands?, hl, if_true]
  -- of the operators, equality is defined on what is absent, order is not
  cases right.type.nullable <;> simp [BaseType.allows]

/-- Beside `null` on the right, what may be absent is compared for equality. -/
private theorem exists_compare_null_right_iff {op : Comparison} {offset : Nat} (hl : left.isNull = false)
    (hr : right.isNull = true) :
    (∃ t, compare schema op left right offset = .ok t) ↔
      op.isOrdering = false ∧ left.type.nullable = true := by
  simp only [compare_eq_ok_iff, operands?, hl, hr, Bool.false_eq_true, if_false, if_true]
  cases left.type.nullable <;> simp [BaseType.allows]

/-- `ConstantHasKind` holds of no absent constant. -/
private theorem ConstantHasKind.ne_null {value : Scalar} (h : t.ConstantHasKind) (ht : t.isNull = false)
    (hv : t.plan = .const value) : value ≠ .null := by
  rw [isNull, h value hv, beq_eq_false_iff_ne] at ht
  exact fun hnull => ht (Scalar.staticType_base_eq_null_iff.mpr hnull)

/-- `ComparesAt` does not ask whether an operand may be absent. -/
private theorem ComparesAt.withNullable (hleft : left.ConstantHasKind) (hright : right.ConstantHasKind)
    (hl : left.isNull = false) (hr : right.isNull = false) (h : left.ComparesAt schema right base)
    (n n' : Bool) : (left.withNullable n).ComparesAt schema (right.withNullable n') base := by
  cases h with
  | same hbase => exact .same hbase
  | rightConstant hv hc =>
    have hbase : left.type.base = (left.withNullable n).type.base := rfl
    -- what a present constant converts to depends on the kind alone
    rw [convertConstant_congr (hright.ne_null hr hv) hbase] at hc
    exact .rightConstant hv hc
  | leftConstant hv hc =>
    have hbase : right.type.base = (right.withNullable n').type.base := rfl
    rw [convertConstant_congr (hleft.ne_null hl hv) hbase] at hc
    exact .leftConstant hv hc
  | intFloat hl hr => exact .intFloat hl hr
  | floatInt hl hr => exact .floatInt hl hr
  | enumInt hl hr => exact .enumInt hl hr
  | intEnum hl hr => exact .intEnum hl hr

/-- `withNullable` makes no difference to whether `compare` takes present operands. -/
private theorem exists_compare_withNullable_iff {op : Comparison} {offset : Nat} (hl : left.isNull = false)
    (hr : right.isNull = false) (hone : left.isConstant = false ∨ right.isConstant = false)
    (hleft : left.ConstantHasKind) (hright : right.ConstantHasKind) (n n' : Bool) :
    (∃ t, compare schema op (left.withNullable n) (right.withNullable n') offset = .ok t) ↔
      ∃ t, compare schema op left right offset = .ok t := by
  have hleft' : (left.withNullable n).ConstantHasKind := hleft
  have hright' : (right.withNullable n').ConstantHasKind := hright
  have hone' : (left.withNullable n).isConstant = false ∨ (right.withNullable n').isConstant = false :=
    hone
  have hl' : (left.withNullable n).isNull = false := hl
  have hr' : (right.withNullable n').isNull = false := hr
  rw [exists_compare_iff hl hr hone hleft hright, exists_compare_iff hl' hr' hone' hleft' hright']
  constructor
  · rintro ⟨base, hbase, hop⟩
    -- marking the operands as they were before gives them back
    exact ⟨base, hbase.withNullable hleft' hright' hl' hr' left.type.nullable right.type.nullable, hop⟩
  · rintro ⟨base, hbase, hop⟩
    exact ⟨base, hbase.withNullable hleft hright hl hr n n', hop⟩

end TypedPlan

/-! ### Expressions -/

section

variable {schema : Schema} {root : RecordId} {e l r : Expr} {t left right : TypedPlan}

/-- `isConstant` holds of the plans of literals, and of no others. -/
private theorem isConstant_of_elaborate (h : elaborate schema root e = .ok t) :
    t.isConstant = e.isLiteral := by
  cases e with
  | literal value offset =>
    cases h
    rfl
  | _ => exact (isComputed_of_elaborate h rfl).isConstant

/-- Only the literal `null` has the type of `null`. -/
private theorem isNull_of_elaborate (h : elaborate schema root e = .ok t) : t.isNull = e.isNullLiteral := by
  cases e with
  | literal value offset =>
    cases h
    rw [Bool.eq_iff_iff, TypedPlan.isNull, beq_iff_eq, Scalar.staticType_base_eq_null_iff,
      Literal.value_eq_null_iff]
    cases value <;> simp [Expr.isNullLiteral]
  | _ => exact (isComputed_of_elaborate h rfl).isNull

/-- `ConstantHasKind` holds of the plan of a literal for the type of its value. -/
private theorem constantHasKind_of_elaborate (h : elaborate schema root e = .ok t) : t.ConstantHasKind := by
  intro value hv
  have hconst := TypedPlan.isConstant_of_plan hv
  rw [isConstant_of_elaborate h] at hconst
  cases e with
  | literal literal offset =>
    cases h
    cases hv
    rfl
  -- only the plan of a literal is a constant
  | _ => exact nomatch hconst

/-- `elaborate` takes a comparison if `compare` takes the plans of its operands. -/
private theorem exists_elaborate_compare_iff {op : Comparison} {o : Nat}
    (hl : elaborate schema root l = .ok left) (hr : elaborate schema root r = .ok right) :
    (∃ t, elaborate schema root (.compare op l r o) = .ok t) ↔
      ∃ t, TypedPlan.compare schema op left right o = .ok t := by
  simp only [elaborate, hl, hr, Except.ok_bind]

/-- Which comparisons have a meaning, of two expressions that have one and are not both literals.  Beside
`null` the operator must be one of equality, and the other expression one that may be absent.  All other
expressions must be comparable at some kind that is not one of records, nor that of truth values if the
operator asks for an order; and whether they may be absent plays no part. -/
theorem comparison_typing (hl : elaborate schema root l = .ok left)
    (hr : elaborate schema root r = .ok right) (hone : l.isLiteral = false ∨ r.isLiteral = false)
    (op : Comparison) (o : Nat) :
    let HasMeaning := ∃ t, elaborate schema root (.compare op l r o) = .ok t
    (l.isNullLiteral = true →
      (HasMeaning ↔ (op = .eq ∨ op = .ne) ∧ right.type.nullable = true)) ∧
    (r.isNullLiteral = true →
      (HasMeaning ↔ (op = .eq ∨ op = .ne) ∧ left.type.nullable = true)) ∧
    (l.isNullLiteral = false → r.isNullLiteral = false →
      (HasMeaning ↔ ∃ base, left.ComparesAt schema right base ∧ (∀ id, base ≠ .record id) ∧
        ¬ (base = .bool ∧ op.isOrdering = true)) ∧
      ∀ n n' : Bool, HasMeaning ↔
        ∃ t, TypedPlan.compare schema op (left.withNullable n) (right.withNullable n') o = .ok t) := by
  intro HasMeaning
  have hmeaning : HasMeaning ↔ ∃ t, TypedPlan.compare schema op left right o = .ok t :=
    exists_elaborate_compare_iff hl hr
  have hone' : left.isConstant = false ∨ right.isConstant = false := by
    rwa [isConstant_of_elaborate hl, isConstant_of_elaborate hr]
  have hleft : left.ConstantHasKind := constantHasKind_of_elaborate hl
  have hright : right.ConstantHasKind := constantHasKind_of_elaborate hr
  rw [← isNull_of_elaborate hl, ← isNull_of_elaborate hr, hmeaning, ← Comparison.isOrdering_eq_false_iff]
  refine ⟨fun hnull => ?_, fun hnull => ?_, fun hl hr => ⟨?_, fun n n' => ?_⟩⟩
  · exact TypedPlan.exists_compare_null_left_iff hnull
  · -- the left operand is not a second `null`, because it is no literal
    have hnone : left.isNull = false := by
      rcases hone with h | h
      · rw [isNull_of_elaborate hl, Expr.isNullLiteral_eq_false h]
      · rw [isNull_of_elaborate hr, Expr.isNullLiteral_eq_false h] at hnull
        exact nomatch hnull
    exact TypedPlan.exists_compare_null_right_iff hnone hnull
  · rw [TypedPlan.exists_compare_iff hl hr hone' hleft hright]
    constructor
    · rintro ⟨base, hbase, hop⟩
      exact ⟨base, hbase, (BaseType.allows_iff (hbase.ne_null hl hr)).mp hop⟩
    · rintro ⟨base, hbase, hop⟩
      exact ⟨base, hbase, (BaseType.allows_iff (hbase.ne_null hl hr)).mpr hop⟩
  · exact (TypedPlan.exists_compare_withNullable_iff hl hr hone' hleft hright n n').symm

/-- The role of a person, an enumeration, can be put in order beside the integer seven, though no
role has it; the mail address can be compared with `null`, but only for equality. -/
theorem comparison_typing_of_role_lt_seven :
    let role : TypedPlan := { plan := .member .root "Role", type := ⟨.enum 0, false⟩, offset := 0 }
    let seven : TypedPlan := ⟨.const (.int 7), ⟨.int, false⟩, 7, some "7"⟩
    let email : TypedPlan := { plan := .member .root "Email", type := ⟨.str, true⟩, offset := 0 }
    elaborate Sample.schema Sample.personId (.path ["Role"] 0) = .ok role ∧
      elaborate Sample.schema Sample.personId (.literal (.number "7") 7) = .ok seven ∧
      elaborate Sample.schema Sample.personId (.path ["Email"] 0) = .ok email ∧
      (Expr.path ["Role"] 0).isLiteral = false ∧ (Expr.path ["Email"] 0).isLiteral = false ∧
      role.ComparesAt Sample.schema seven .int ∧
      (∃ t, elaborate Sample.schema Sample.personId
        (.compare .lt (.path ["Role"] 0) (.literal (.number "7") 7) 5) = .ok t) ∧
      (∃ t, elaborate Sample.schema Sample.personId
        (.compare .ne (.path ["Email"] 0) (.literal .null 9) 6) = .ok t) ∧
      ¬ ∃ t, elaborate Sample.schema Sample.personId
        (.compare .lt (.path ["Email"] 0) (.literal .null 8) 6) = .ok t := by
  intro role seven email
  have hrole : elaborate Sample.schema Sample.personId (.path ["Role"] 0) = .ok role := rfl
  have hseven : elaborate Sample.schema Sample.personId (.literal (.number "7") 7) = .ok seven := rfl
  have hemail : elaborate Sample.schema Sample.personId (.path ["Email"] 0) = .ok email := rfl
  have hat : role.ComparesAt Sample.schema seven .int := .enumInt rfl rfl
  refine ⟨hrole, hseven, hemail, rfl, rfl, hat, ?_, ?_, ?_⟩
  · have hboth := (comparison_typing hrole hseven (.inl rfl) .lt 5).2.2 rfl rfl
    exact hboth.1.mpr ⟨.int, hat, nofun, nofun⟩
  · have hnull := (comparison_typing hemail (r := .literal .null 9) rfl (.inl rfl) .ne 6).2.1 rfl
    exact hnull.mpr ⟨.inr rfl, rfl⟩
  · have hnull := (comparison_typing hemail (r := .literal .null 8) rfl (.inl rfl) .lt 6).2.1 rfl
    exact fun h => nomatch (hnull.mp h).1

end

end RecordFilter
