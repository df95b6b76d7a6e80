import RecordFilter.Proofs.Presence
/-!
# Operands of comparisons

Facts about the operands that a comparison brings together (`TypedPlan.operands?`).  Constants are looked
for on the right before the left, but on which side an operand stands does not matter unless both are
literals (`TypedPlan.operands?_swap`): all other expressions are computed from the record
(`isComputed_of_elaborate`).  At most one side is changed, and all that is done to it while the filter
runs is to make a double of it (`TypedPlan.operands?_operandOf`).  So an operand is absent where its side
is, and elsewhere only if no double can be made of the side (`TypedPlan.OperandOf.value_eq_null_iff`),
which does not happen where the record keeps to the schema (`TypedPlan.Becomes.value_eq_null_iff`).
-/

namespace RecordFilter

/-! ### Literals -/

/-- The expression is a literal. -/
def Expr.isLiteral : Expr → Bool
  | literal _ _ => true
  | _ => false

/-- The plan is computed from the record: it is no constant, and its type is that of some kind of values. -/
structure TypedPlan.IsComputed (t : TypedPlan) : Prop where
  isConstant : t.isConstant = false
  isNull : t.isNull = false

section

variable {schema : Schema} {root : RecordId}

/-- `IsComputed` holds of a plan that is no constant and has another type than `null`. -/
private theorem TypedPlan.isComputed_iff {t : TypedPlan} :
    t.IsComputed ↔ t.plan.constant? = none ∧ t.type.base ≠ .null := by
  constructor
  · intro h
    simpa [isConstant, isNull] using And.intro h.isConstant h.isNull
  · rintro ⟨hplan, hbase⟩
    exact ⟨by simp [isConstant, hplan], by simp [isNull, hbase]⟩

/-- `followPath` from a computed plan leads to one. -/
private theorem followPath_computed {plan p : Plan} {type type' : StaticType} {offset : Nat}
    {names : List String} (hplan : plan.constant? = none) (hbase : type.base ≠ .null)
    (h : followPath schema plan type offset names = .ok (p, type')) :
    p.constant? = none ∧ type'.base ≠ .null := by
  induction names generalizing plan type offset with
  | nil =>
    cases h
    exact ⟨hplan, hbase⟩
  | cons name names ih =>
    obtain ⟨q, u, hstep, h⟩ := followPath_cons_eq_ok_iff.mp h
    -- members are of declared types, lengths are integers
    cases hstep with
    | member _ _ => exact ih rfl (StaticType.ofDeclared_base_ne_null _) h
    | length _ _ => exact ih rfl BaseType.noConfusion h

/-- `IsComputed` holds of the plans of all expressions but literals. -/
theorem isComputed_of_elaborate {e : Expr} {t : TypedPlan} (h : elaborate schema root e = .ok t)
    (he : e.isLiteral = false) : t.IsComputed := by
  rw [TypedPlan.isComputed_iff]
  cases e with
  | logical op left right offset =>
    simp only [elaborate, Except.bind_eq_ok_iff] at h
    obtain ⟨l, -, r, -, h⟩ := h
    obtain ⟨-, -, rfl⟩ := TypedPlan.logical_eq_ok h
    exact ⟨by cases op <;> rfl, BaseType.noConfusion⟩
  | compare op left right offset =>
    simp only [elaborate, Except.bind_eq_ok_iff] at h
    obtain ⟨l, -, r, -, h⟩ := h
    obtain ⟨_, _, -, -, rfl⟩ := TypedPlan.compare_eq_ok h
    exact ⟨rfl, BaseType.noConfusion⟩
  | not operand offset =>
    simp only [elaborate, Except.bind_eq_ok_iff] at h
    obtain ⟨o, -, h⟩ := h
    obtain ⟨hbool, rfl⟩ := TypedPlan.not_eq_ok h
    exact ⟨rfl, by simp [hbool]⟩
  | path names offset =>
    simp only [elaborate, Except.bind_eq_ok_iff] at h
    obtain ⟨⟨p, type⟩, hp, h⟩ := h
    cases h
    -- a path starts at the record
    have hroot : (StaticType.record root).base ≠ .null := BaseType.noConfusion
    exact followPath_computed rfl hroot hp
  | literal value offset => cases he
  | call target method args offset =>
    simp only [elaborate, Except.bind_eq_ok_iff] at h
    obtain ⟨target, -, args, -, h⟩ := h
    obtain ⟨c, _, hc, -, -, rfl⟩ := TypedPlan.call_eq_ok h
    refine ⟨?_, StaticType.ofDeclared_base_ne_null _⟩
    rcases Candidate.mem_named hc with ⟨_, _, -, -, -, rfl⟩ | ⟨_, _, -, -, rfl⟩ <;> rfl

end

/-! ### Exchanged operands -/

/-- The operator that says of exchanged operands what this one says of them. -/
def Comparison.mirror : Comparison → Comparison
  | eq => eq
  | ne => ne
  | gt => lt
  | ge => le
  | lt => gt
  | le => ge

/-- `Comparison.mirror` of an order is an order. -/
@[simp] theorem Comparison.isOrdering_mirror (op : Comparison) :
    op.mirror.isOrdering = op.isOrdering := by
  cases op <;> rfl

/-- `Comparison.mirror` is defined where the operator is. -/
@[simp] theorem BaseType.allows_mirror (base : BaseType) (op : Comparison) :
    base.allows op.mirror = base.allows op := by
  cases base <;> simp [allows]

namespace TypedPlan

/-- The operands exchanged. -/
def Unified.swap (u : Unified) : Unified := ⟨u.right, u.left, u.base⟩

variable {schema : Schema} {left right t : TypedPlan}

/-- `promote?` treats both sides alike. -/
private theorem promote?_swap (schema : Schema) (left right : TypedPlan) :
    promote? schema right left = (promote? schema left right).map Unified.swap := by
  unfold promote?
  cases left.type.base <;> cases right.type.base <;> simp [Function.comp_def, Unified.swap]

/-- `coerceConstant?` leaves alone what is no constant. -/
theorem coerceConstant?_eq_none {expected : StaticType} (h : t.isConstant = false) :
    t.coerceConstant? schema expected = none := by
  simp [coerceConstant?, h]

/-- `unify?` brings a constant to the type beside it on either side, if the other operand is no
constant. -/
private theorem unify?_swap (h : left.isConstant = false ∨ right.isConstant = false) :
    unify? schema right left = (unify? schema left right).map Unified.swap := by
  unfold unify?
  by_cases hbase : left.type.base = right.type.base
  · simp [hbase, Unified.swap]
  · rw [if_neg hbase, if_neg (Ne.symm hbase)]
    -- the side that is no constant is not converted, so it does not matter which is tried first
    rcases h with h | h
    · simp only [coerceConstant?_eq_none h]
      cases right.coerceConstant? schema left.type with
      | some r => rfl
      | none => exact promote?_swap schema left right
    · simp only [coerceConstant?_eq_none h]
      cases left.coerceConstant? schema right.type with
      | some l => rfl
      | none => exact promote?_swap schema left right

/-- `operands?` brings operands together on either side, if one of them is computed. -/
theorem operands?_swap (h : left.IsComputed ∨ right.IsComputed) :
    operands? schema right left = (operands? schema left right).map Unified.swap := by
  unfold operands?
  -- neither side, the right one, the left one or both are the literal; the last is excluded
  cases hl : left.isNull <;> cases hr : right.isNull
  · exact unify?_swap (h.imp IsComputed.isConstant IsComputed.isConstant)
  · cases left.type.nullable <;> rfl
  · cases right.type.nullable <;> rfl
  · have hnull := h.imp IsComputed.isNull IsComputed.isNull
    simp [hl, hr] at hnull

end TypedPlan

/-! ### Sides and operands -/

/-- `convertConstant` keeps the absence of a constant. -/
theorem isNull_of_convertConstant {schema : Schema} {value converted : Scalar}
    {source : Option String} {expected : StaticType}
    (h : convertConstant schema value source expected = some converted) :
    converted.isNull = value.isNull := by
  unfold convertConstant at h
  split at h
  case h_1 =>
    rw [Option.ite_none_right_eq_some] at h
    cases h.2
    rfl
  case h_6 | h_11 | h_12 =>
    -- the conversion itself may fail
    obtain ⟨_, _, rfl⟩ := Option.map_eq_some_iff.mp h
    rfl
  case h_13 => exact nomatch h
  all_goals
    cases h
    rfl

namespace TypedPlan

/-- The plan `t'` is what a comparison makes of its side `t`: the same plan, another constant, which is
absent if the first one is, or the double of what the side computes. -/
inductive OperandOf (t t' : TypedPlan) : Prop where
  | same (h : t'.plan = t.plan)
  | constant {c c' : Scalar} (h : t.plan = .const c) (h' : t'.plan = .const c')
      (hnull : c'.isNull = c.isNull)
  | double (h : t'.plan = .convert .toFloat t.plan)

variable {schema : Schema} {left right t t' : TypedPlan} {u : Unified}

/-- `coerceConstant?` makes another constant of a side. -/
private theorem coerceConstant?_operandOf {expected : StaticType}
    (h : t.coerceConstant? schema expected = some t') : t.OperandOf t' := by
  unfold coerceConstant? at h
  rw [Option.ite_none_right_eq_some] at h
  obtain ⟨hconst, h⟩ := h
  cases hplan : t.plan with
  | const c =>
    simp only [coerce?, hplan, Plan.constant?, Option.map_eq_some_iff] at h
    obtain ⟨c', hconvert, rfl⟩ := h
    exact .constant hplan rfl (isNull_of_convertConstant hconvert)
  | _ => simp [isConstant, hplan, Plan.constant?] at hconst

/-- `coerce?` brings an integer to its double. -/
private theorem coerce?_float_operandOf (hbase : t.type.base = .int)
    (h : t.coerce? schema ⟨.float, false⟩ = some t') : t.OperandOf t' := by
  rcases coerce?_eq_some h with ⟨c, c', hplan, hconvert, hplan', -⟩ | ⟨hconvert, -⟩
  · exact .constant hplan hplan' (isNull_of_convertConstant hconvert)
  · -- of an integer the conversion to a double is all that can be made
    rw [hbase] at hconvert
    exact .double (Option.some.inj hconvert).symm

/-- What `promote?` makes of two sides; it leaves one of them as it is. -/
private theorem promote?_operandOf (h : promote? schema left right = some u) :
    left.OperandOf u.left ∧ right.OperandOf u.right ∧
      (u.left.plan = left.plan ∨ u.right.plan = right.plan) := by
  unfold promote? at h
  split at h
  · -- an Int beside a Float, and the other way round; an enumeration beside an Int stays as it is
    rename_i hl _
    obtain ⟨l, hcoerce, rfl⟩ := Option.map_eq_some_iff.mp h
    exact ⟨coerce?_float_operandOf hl hcoerce, .same rfl, .inr rfl⟩
  · rename_i _ hr
    obtain ⟨r, hcoerce, rfl⟩ := Option.map_eq_some_iff.mp h
    exact ⟨.same rfl, coerce?_float_operandOf hr hcoerce, .inl rfl⟩
  · cases h
    exact ⟨.same rfl, .same rfl, .inl rfl⟩
  · cases h
    exact ⟨.same rfl, .same rfl, .inl rfl⟩
  · exact nomatch h

/-- What `operands?` makes of the two sides of a comparison; it leaves one of them as it is. -/
theorem operands?_operandOf (h : operands? schema left right = some u) :
    left.OperandOf u.left ∧ right.OperandOf u.right ∧
      (u.left.plan = left.plan ∨ u.right.plan = right.plan) := by
  have hsame {base : BaseType} (h : some ⟨left, right, base⟩ = some u) :
      left.OperandOf u.left ∧ right.OperandOf u.right ∧
        (u.left.plan = left.plan ∨ u.right.plan = right.plan) := by
    cases h
    exact ⟨.same rfl, .same rfl, .inl rfl⟩
  -- the literal `null` on the left, then on the right: neither side is changed
  unfold operands? at h
  split at h
  · rw [Option.ite_none_right_eq_some] at h
    exact hsame h.2
  split at h
  · rw [Option.ite_none_right_eq_some] at h
    exact hsame h.2
  unfold unify? at h
  split at h
  · exact hsame h
  -- a constant on the right, then one on the left, then a promotion
  split at h
  · rename_i r hr
    cases h
    exact ⟨.same rfl, coerceConstant?_operandOf hr, .inl rfl⟩
  split at h
  · rename_i l hl
    cases h
    exact ⟨coerceConstant?_operandOf hl, .same rfl, .inr rfl⟩
  · exact promote?_operandOf h

end TypedPlan

/-! ### Values of operands -/

/-- Of constants only `null` is absent. -/
private theorem Scalar.toValue_eq_null_iff {ρ : Type} {value : Scalar} :
    (value.toValue : Value ρ) = .null ↔ value.isNull = true := by
  cases value <;> simp [toValue, isNull]

/-- `toFloat` is absent for values that are absent or no numbers. -/
private theorem Value.toFloat_eq_null_iff {ρ : Type} {v : Value ρ} : v.toFloat = .null ↔ v.asFloat? = none := by
  cases v <;> simp [toFloat, asFloat?]

variable {ρ : Type} {schema : Schema} {root : RecordId} {host : Host ρ} {R : ρ → RecordId → Prop}
  {record : ρ}

/-- An operand is absent where its side is, and where it is the double of a side that is no number. -/
theorem TypedPlan.OperandOf.value_eq_null_iff {t t' : TypedPlan} (h : t.OperandOf t') :
    t'.plan.value host record = .null ↔ t.plan.value host record = .null ∨
      t'.plan = .convert .toFloat t.plan ∧ (t.plan.value host record).asFloat? = none := by
  cases h with
  | same h =>
    -- no plan is its own conversion
    have hne : t.plan ≠ .convert .toFloat t.plan := fun heq => by
      simpa using congrArg sizeOf heq
    simp [h, hne]
  | constant h h' hnull =>
    rw [h, h', Plan.value, Plan.value, Scalar.toValue_eq_null_iff, Scalar.toValue_eq_null_iff, hnull]
    simp
  | double h =>
    -- what is absent is no number either
    have hnull : t.plan.value host record = .null → (t.plan.value host record).asFloat? = none :=
      fun hv => hv ▸ rfl
    rw [h, Plan.value]
    simp only [true_and, Conversion.apply, Value.toFloat_eq_null_iff]
    exact ⟨.inr, fun hor => hor.elim hnull id⟩

/-- Nothing is lost and nothing appears when a plan is brought to another type, on a record that keeps to
the schema. -/
theorem TypedPlan.Becomes.value_eq_null_iff {t t' : TypedPlan} (h : t.Becomes schema t')
    (ht : t.WellTyped schema root) (hhost : host.Conforms schema R) (hrec : R record root) :
    t'.plan.value host record = .null ↔ t.plan.value host record = .null := by
  cases h with
  | same => rfl
  | coerced h =>
    have htyped := ht.coerce h
    rcases coerce?_eq_some h with ⟨c, c', hplan, hconvert, hplan', -⟩ | ⟨hconvert, -⟩
    · rw [hplan, hplan', Plan.value, Plan.value, Scalar.toValue_eq_null_iff,
        Scalar.toValue_eq_null_iff, isNull_of_convertConstant hconvert]
    · rcases Plan.convertTo?_eq_some hconvert with hplan | ⟨c, hplan⟩
      · rw [hplan]
      · rw [hplan] at htyped ⊢
        -- on a record that keeps to the schema, a conversion finds the kind that it expects
        refine ⟨htyped.eq_null_of_convert hhost hrec, fun hnull => ?_⟩
        rw [Plan.value, hnull]
        cases c <;> rfl

end RecordFilter
