import Mathlib.Data.Option.NAry
import RecordFilter.Proofs.Operands
/-!
# Laws of comparisons

The six operators on values that may be absent: inequality is the negation of equality, an operator and
its mirror image say the same of exchanged values, no order holds where a value is absent, and between
present values the operators say what their names say.  The laws carry over to comparisons of
expressions (`comparison_laws`): both sides of a law compare the same operands, and are defined together.
What the laws say of absent values they say of the sides, not only of the operands that the sides become.
-/

namespace RecordFilter

variable {ρ : Type}

/-! ### Comparisons of values -/

/-- `compareValues` of exchanged values exchanges before and after. -/
private theorem compareValues_swap (v w : Value ρ) :
    compareValues w v = (compareValues v w).map Ordering.swap := by
  cases v with
  | int a =>
    cases w with
    | int b => exact congrArg some Std.OrientedOrd.eq_swap
    | float y => exact compareFloats_swap _ _
    | _ => rfl
  | float x =>
    cases w with
    | int b => exact compareFloats_swap _ _
    | float y => exact compareFloats_swap _ _
    | _ => rfl
  | bool a =>
    cases w with
    | bool b => exact congrArg some (Nat.compare_swap _ _).symm
    | _ => rfl
  | str a =>
    cases w with
    | str b => exact congrArg some (Text.codePointOrder_swap _ _)
    | _ => rfl
  | null | record _ => cases w <;> rfl

namespace Comparison

variable {op : Comparison} {v w : Value ρ}

/-- `Comparison.mirror` says of the swapped order what the operator says of the order. -/
private theorem ofOrdering_mirror (op : Comparison) (order : Ordering) :
    op.mirror.ofOrdering order.swap = op.ofOrdering order := by
  cases op <;> cases order <;> rfl

/-- `Comparison.mirror` says of exchanged values what the operator says of the values. -/
private theorem holds_mirror (op : Comparison) (v w : Value ρ) : op.mirror.holds w v = op.holds v w := by
  unfold holds
  rw [Bool.or_comm w.isNull v.isNull]
  split
  · cases op <;> simp [mirror, Bool.and_comm]
  · rw [compareValues_swap v w]
    cases compareValues v w with
    | none => cases op <;> rfl
    | some order => exact op.ofOrdering_mirror order

/-- `holds` of inequality is the negation of equality, of absent values and of values without an order
too. -/
private theorem holds_ne (v w : Value ρ) : ne.holds v w = !eq.holds v w := by
  unfold holds
  split
  · rfl
  · cases compareValues v w <;> rfl

/-- `holds` is false of an order beside an absent value. -/
private theorem holds_of_null (hop : op.isOrdering = true) (h : v = .null ∨ w = .null) :
    op.holds v w = false := by
  have hnull : (v.isNull || w.isNull) = true := by
    rcases h with rfl | rfl <;> simp [Value.isNull]
  -- beside an absent value, only equality and inequality are looked at
  unfold holds
  rw [if_pos hnull]
  cases op with
  | eq | ne => cases hop
  | _ => rfl

/-- `holds` of equality beside an absent value asks for another absent value. -/
private theorem holds_eq_of_null (h : v = .null ∨ w = .null) :
    eq.holds v w = true ↔ v = .null ∧ w = .null := by
  cases v <;> cases w <;> simp_all [holds, Value.isNull]

/-- Where at least one of two values is present, `holds` asks for their order; beside an absent value
there is none. -/
theorem holds_of_ne_null (h : v ≠ .null ∨ w ≠ .null) :
    op.holds v w =
      match compareValues v w with
      | some order => op.ofOrdering order
      | none => op == .ne := by
  unfold holds
  split
  · -- one of the values is absent, and the other one is not
    cases v <;> cases w <;> simp_all [Value.isNull, compareValues] <;> cases op <;> rfl
  · rfl

/-- `holds` of "at most" is "less or equal". -/
private theorem holds_le (h : v ≠ .null ∨ w ≠ .null) :
    le.holds v w = (lt.holds v w || eq.holds v w) := by
  simp only [holds_of_ne_null h]
  cases compareValues v w with
  | none => rfl
  | some order => cases order <;> rfl

/-- `holds` of "at least" is "greater or equal". -/
private theorem holds_ge (h : v ≠ .null ∨ w ≠ .null) :
    ge.holds v w = (gt.holds v w || eq.holds v w) := by
  simp only [holds_of_ne_null h]
  cases compareValues v w with
  | none => rfl
  | some order => cases order <;> rfl

/-- Of two values that have an order, the first is less, equal or greater, and only one of these; of others
it is none of these, unless both are absent. -/
private theorem count_holds (h : v ≠ .null ∨ w ≠ .null) :
    [lt.holds v w, eq.holds v w, gt.holds v w].count true =
      if (compareValues v w).isSome then 1 else 0 := by
  simp only [holds_of_ne_null h]
  cases compareValues v w with
  | none => rfl
  | some order => cases order <;> rfl

end Comparison

/-! ### Comparisons of expressions -/

/-- What the filter of an expression says of a record; nothing if the expression is no filter. -/
def Expr.truth? (e : Expr) (schema : Schema) (root : RecordId) (host : Host ρ) (record : ρ) :
    Option Bool :=
  (Predicate.ofExpr schema root e).toOption.map fun p => p.test host record

/-- What the six operators, where they are defined, say of two sides with the values `v` and `w`, which are
compared as the values `a` and `b`. -/
structure LiftedLaws (truth : Comparison → Option Bool) (v w a b : Value ρ) : Prop where
  /-- No order holds beside an absent side. -/
  ordering_null : v = .null ∨ w = .null → ∀ op t, op.isOrdering = true → truth op = some t → t = false
  /-- Beside an absent side, equality holds if both are compared as absent values. -/
  eq_null : v = .null ∨ w = .null → ∀ t, truth .eq = some t → (t = true ↔ a = .null ∧ b = .null)
  le : v ≠ .null → w ≠ .null → truth .le = Option.map₂ (· || ·) (truth .lt) (truth .eq)
  ge : v ≠ .null → w ≠ .null → truth .ge = Option.map₂ (· || ·) (truth .gt) (truth .eq)
  /-- Of before, equal and after, one holds if the compared values have an order, and none otherwise. -/
  trichotomy : v ≠ .null → w ≠ .null → ∀ less equal greater, truth .lt = some less →
    truth .eq = some equal → truth .gt = some greater →
      [less, equal, greater].count true = if (compareValues a b).isSome then 1 else 0

/-- `LiftedLaws` holds of operators that are defined as a base type allows, if absent sides are compared
as absent values, and one side at least as what it is. -/
private theorem LiftedLaws.of_allows {truth : Comparison → Option Bool} {v w a b : Value ρ} {base : BaseType}
    (hv : v = .null → a = .null) (hw : w = .null → b = .null) (hkept : a = v ∨ b = w)
    (h : ∀ op, truth op = if base.allows op then some (op.holds a b) else none) :
    LiftedLaws truth v w a b := by
  have habsent (hnull : v = .null ∨ w = .null) : a = .null ∨ b = .null := hnull.imp hv hw
  -- two present sides are never both compared as absent values
  have hpresent (hv : v ≠ .null) (hw : w ≠ .null) : a ≠ .null ∨ b ≠ .null := by
    rcases hkept with rfl | rfl
    · exact .inl hv
    · exact .inr hw
  -- one case for each law, in the order of the fields
  refine ⟨fun hnull op t hop ht => ?_, fun hnull t ht => ?_, fun hv hw => ?_, fun hv hw => ?_,
    fun hv hw less equal greater hless hequal hgreater => ?_⟩
  · rw [h, Option.ite_none_right_eq_some] at ht
    rw [← Option.some.inj ht.2, Comparison.holds_of_null hop (habsent hnull)]
  · rw [h, Option.ite_none_right_eq_some] at ht
    rw [← Option.some.inj ht.2, Comparison.holds_eq_of_null (habsent hnull)]
  · rw [h, h, h, Comparison.holds_le (hpresent hv hw)]
    cases base <;> rfl
  · rw [h, h, h, Comparison.holds_ge (hpresent hv hw)]
    cases base <;> rfl
  · rw [h, Option.ite_none_right_eq_some] at hless hequal hgreater
    rw [← Option.some.inj hless.2, ← Option.some.inj hequal.2, ← Option.some.inj hgreater.2,
      Comparison.count_holds (hpresent hv hw)]

section

variable {schema : Schema} {root : RecordId} {host : Host ρ} {record : ρ} {op : Comparison}
  {l r : Expr} {o : Nat}

/-- `truth?` of an expression is the truth of the value of its plan. -/
theorem Expr.truth?_eq_some_iff {e : Expr} {b : Bool} :
    e.truth? schema root host record = some b ↔
      ∃ plan, planFilter schema root e = .ok plan ∧ (plan.value host record).isTrue = b := by
  simp only [truth?, Option.map_eq_some_iff, Except.toOption_eq_some_iff,
    Predicate.ofExpr_eq_ok_iff]
  constructor
  · rintro ⟨p, hp, rfl⟩
    exact ⟨p.plan, hp, rfl⟩
  · rintro ⟨plan, hplan, rfl⟩
    exact ⟨⟨plan⟩, hplan, rfl⟩

/-- The operands of a comparison of two expressions, if they can be compared. -/
def Expr.operands? (schema : Schema) (root : RecordId) (l r : Expr) : Option TypedPlan.Unified := do
  let left ← (elaborate schema root l).toOption
  let right ← (elaborate schema root r).toOption
  TypedPlan.operands? schema left right

/-- `Expr.operands?` elaborates both sides and brings the plans together. -/
theorem Expr.operands?_eq_some_iff {u : TypedPlan.Unified} :
    Expr.operands? schema root l r = some u ↔
      ∃ left right, elaborate schema root l = .ok left ∧ elaborate schema root r = .ok right ∧
        TypedPlan.operands? schema left right = some u := by
  simp only [operands?, Option.bind_eq_bind, Option.bind_eq_some_iff, Except.toOption_eq_some_iff]
  constructor
  · rintro ⟨left, hl, right, hr, hu⟩
    exact ⟨left, right, hl, hr, hu⟩
  · rintro ⟨left, right, hl, hr, hu⟩
    exact ⟨left, hl, right, hr, hu⟩

/-- `Expr.operands?` is `TypedPlan.operands?` of the plans of the sides. -/
theorem Expr.operands?_of_elaborate {left right : TypedPlan} {u : TypedPlan.Unified}
    (hl : elaborate schema root l = .ok left) (hr : elaborate schema root r = .ok right)
    (hu : Expr.operands? schema root l r = some u) :
    TypedPlan.operands? schema left right = some u := by
  obtain ⟨left', right', hl', hr', hu⟩ := Expr.operands?_eq_some_iff.mp hu
  cases hl'.symm.trans hl
  cases hr'.symm.trans hr
  exact hu

/-- `planFilter` takes a comparison if its operands come together and allow the operator. -/
theorem planFilter_compare_eq_ok_iff {plan : Plan} :
    planFilter schema root (.compare op l r o) = .ok plan ↔
      ∃ u, Expr.operands? schema root l r = some u ∧ u.base.allows op = true ∧
        .compare op u.left.plan u.right.plan = plan := by
  simp only [planFilter_eq_ok_iff, elaborate, Except.bind_eq_ok_iff, TypedPlan.compare_eq_ok_iff,
    Expr.operands?_eq_some_iff]
  constructor
  · rintro ⟨_, ⟨left, hl, right, hr, u, hu, hop, rfl⟩, -, hplan⟩
    exact ⟨u, ⟨left, right, hl, hr, hu⟩, hop, hplan⟩
  · rintro ⟨u, ⟨left, right, hl, hr, hu⟩, hop, hplan⟩
    exact ⟨_, ⟨left, hl, right, hr, u, hu, hop, rfl⟩, rfl, hplan⟩

/-- `truth?` of a comparison is what `holds` says of the values of the operands. -/
private theorem Expr.truth?_compare :
    (Expr.compare op l r o).truth? schema root host record =
      (Expr.operands? schema root l r).bind fun u =>
        if u.base.allows op then
          some (op.holds (u.left.plan.value host record) (u.right.plan.value host record))
        else none := by
  ext b
  simp only [Expr.truth?_eq_some_iff, planFilter_compare_eq_ok_iff, Option.bind_eq_some_iff,
    Option.ite_none_right_eq_some, Option.some.injEq]
  constructor
  · rintro ⟨_, ⟨u, hu, hop, rfl⟩, hb⟩
    exact ⟨u, hu, hop, hb⟩
  · rintro ⟨u, hu, hop, hb⟩
    exact ⟨_, ⟨u, hu, hop, rfl⟩, hb⟩

/-- `Expr.operands?` brings two expressions together on either side, unless both are literals. -/
theorem Expr.operands?_swap (h : l.isLiteral = false ∨ r.isLiteral = false) :
    Expr.operands? schema root r l =
      (Expr.operands? schema root l r).map TypedPlan.Unified.swap := by
  unfold operands?
  cases hl : elaborate schema root l with
  | error e => cases elaborate schema root r <;> rfl
  | ok left =>
    cases hr : elaborate schema root r with
    | error e => rfl
    | ok right =>
      exact TypedPlan.operands?_swap
        (h.imp (isComputed_of_elaborate hl) (isComputed_of_elaborate hr))

/-- `LiftedLaws` of a comparison that has a meaning, on the values of its sides and operands. -/
private theorem liftedLaws_of_operands {left right : TypedPlan} {u : TypedPlan.Unified}
    (hl : elaborate schema root l = .ok left) (hr : elaborate schema root r = .ok right)
    (hu : TypedPlan.operands? schema left right = some u) :
    LiftedLaws (fun op => (Expr.compare op l r o).truth? schema root host record)
      (left.plan.value host record) (right.plan.value host record)
      (u.left.plan.value host record) (u.right.plan.value host record) := by
  obtain ⟨hleft, hright, hkept⟩ := TypedPlan.operands?_operandOf hu
  have htruth (op : Comparison) :
      (Expr.compare op l r o).truth? schema root host record =
        if u.base.allows op then
          some (op.holds (u.left.plan.value host record) (u.right.plan.value host record))
        else none := by
    rw [Expr.truth?_compare, Expr.operands?_eq_some_iff.mpr ⟨left, right, hl, hr, hu⟩,
      Option.bind_some]
  -- an absent side is compared as absent, and one of the sides as what it is (`operands?_operandOf`)
  exact .of_allows (fun h => hleft.value_eq_null_iff.mpr (.inl h))
    (fun h => hright.value_eq_null_iff.mpr (.inl h))
    (hkept.imp (congrArg (Plan.value host record)) (congrArg (Plan.value host record))) htruth

/-! ### Main statement -/

/-- Comparisons of two expressions, of which one at least is no literal, on any record.  Inequality is
defined where equality is, and is its negation; an operator and its mirror image are defined together, and
say the same of exchanged sides.  Whichever operators are defined obey the laws on the values of the sides
(`LiftedLaws`).  A side is compared as an absent value where it is absent, and where it is compared as a
double and is no number; the latter does not happen on a record that keeps to the schema, so that there
equality beside an absent side holds exactly if both sides are absent. -/
theorem comparison_laws (h : l.isLiteral = false ∨ r.isLiteral = false) (schema : Schema)
    (root : RecordId) (host : Host ρ) (record : ρ) (o o' : Nat) :
    let truth (op : Comparison) := (Expr.compare op l r o).truth? schema root host record
    let exchanged (op : Comparison) := (Expr.compare op r l o').truth? schema root host record
    truth .ne = (truth .eq).map (!·) ∧
      (∀ op, truth op = exchanged op.mirror) ∧
      ∀ op plan, planFilter schema root (.compare op l r o) = .ok plan →
        ∃ left right a b, elaborate schema root l = .ok left ∧ elaborate schema root r = .ok right ∧
          plan = .compare op a b ∧
          LiftedLaws truth (left.plan.value host record) (right.plan.value host record)
            (a.value host record) (b.value host record) ∧
          (a.value host record = .null ↔ left.plan.value host record = .null ∨
            a = .convert .toFloat left.plan ∧ (left.plan.value host record).asFloat? = none) ∧
          (b.value host record = .null ↔ right.plan.value host record = .null ∨
            b = .convert .toFloat right.plan ∧ (right.plan.value host record).asFloat? = none) ∧
          ∀ R, host.Conforms schema R → R record root →
            left.plan.value host record = .null ∨ right.plan.value host record = .null →
            ∀ t, truth .eq = some t →
              (t = true ↔ left.plan.value host record = .null ∧ right.plan.value host record = .null) := by
  refine ⟨?_, fun op => ?_, ?_⟩
  · simp only [Expr.truth?_compare]
    cases Expr.operands? schema root l r with
    | none => rfl
    | some u =>
      -- the two operators are defined on the same kinds
      have hallows : u.base.allows .ne = u.base.allows .eq := by cases u.base <;> rfl
      simp only [Option.bind_some, hallows, Comparison.holds_ne]
      cases u.base.allows .eq <;> rfl
  · simp only [Expr.truth?_compare, Expr.operands?_swap h]
    cases Expr.operands? schema root l r with
    | none => rfl
    | some u =>
      simp only [Option.map_some, Option.bind_some, TypedPlan.Unified.swap, BaseType.allows_mirror,
        Comparison.holds_mirror]
  · intro op plan hplan
    obtain ⟨u, hu, -, rfl⟩ := planFilter_compare_eq_ok_iff.mp hplan
    obtain ⟨left, right, hl, hr, hu⟩ := Expr.operands?_eq_some_iff.mp hu
    obtain ⟨hleft, hright, -⟩ := TypedPlan.operands?_operandOf hu
    have laws : LiftedLaws (fun op => (Expr.compare op l r o).truth? schema root host record)
        (left.plan.value host record) (right.plan.value host record)
        (u.left.plan.value host record) (u.right.plan.value host record) :=
      liftedLaws_of_operands hl hr hu
    refine ⟨left, right, _, _, hl, hr, rfl, laws, hleft.value_eq_null_iff, hright.value_eq_null_iff, ?_⟩
    intro R hhost hrec hnull t ht
    -- conversions neither lose values nor make any, where the record keeps to the schema
    obtain ⟨hleft, hright⟩ := TypedPlan.operands?_becomes hu
    rw [laws.eq_null hnull t ht, hleft.value_eq_null_iff (elaborate_wellTyped hl) hhost hrec,
      hright.value_eq_null_iff (elaborate_wellTyped hr) hhost hrec]

/-- Sam has a salary and works nowhere.  The number of employees of his company, which is compared with
the salary as a double, is absent, and obeys the laws of absent values on either side. -/
theorem comparison_laws_of_employees_and_salary :
    let sam : Sample.Record := .person ⟨"Sam Smith", 17, none, 0.0, false, 0, none⟩
    let employees : Expr := .path ["Company", "Employees"] 0
    let salary : Expr := .path ["Salary"] 21
    let truth (op : Comparison) :=
      (Expr.compare op employees salary 18).truth? Sample.schema Sample.personId Sample.host sam
    employees.isLiteral = false ∧ Sample.host.Conforms Sample.schema Sample.HasRecordType ∧
      Sample.HasRecordType sam Sample.personId ∧
      truth .lt = some false ∧ truth .eq = some false ∧ truth .ne = some true ∧
      (Expr.compare .gt salary employees 7).truth? Sample.schema Sample.personId Sample.host sam =
        some false ∧
      LiftedLaws truth .null (.float 0.0) (.null : Value Sample.Record) (.float 0.0) := by
  intro sam employees salary truth
  obtain ⟨hne, hmirror, hlaws⟩ := comparison_laws (l := employees) (r := salary) (.inl rfl)
    Sample.schema Sample.personId Sample.host sam 18 7
  have hplan : planFilter Sample.schema Sample.personId (.compare .lt employees salary 18) =
      .ok (.compare .lt (.convert .toFloat (.member (.member .root "Company") "Employees"))
        (.member .root "Salary")) := rfl
  obtain ⟨left, right, a, b, hl, hr, hab, laws, -, -, hconforms⟩ := hlaws .lt _ hplan
  cases hl
  cases hr
  cases hab
  -- the number of employees is absent, so no order holds, and the two are not equal
  have hlt : truth .lt = some false := by
    obtain ⟨t, ht⟩ : ∃ t, truth .lt = some t := ⟨_, rfl⟩
    rw [ht, laws.ordering_null (.inl rfl) .lt t rfl ht]
  have heq : truth .eq = some false := by
    obtain ⟨t, ht⟩ : ∃ t, truth .eq = some t := ⟨_, rfl⟩
    have hfalse := hconforms Sample.HasRecordType Sample.host_conforms rfl (.inl rfl) t ht
    rw [ht, Bool.eq_false_iff.mpr fun h => nomatch (hfalse.mp h).2]
  have hne : truth .ne = some true := hne.trans (congrArg (Option.map (!·)) heq)
  exact ⟨rfl, Sample.host_conforms, rfl, hlt, heq, hne, (hmirror .lt).symm.trans hlt, laws⟩

/-- On a record that does not keep to the schema, an age that is a text has no double.  Beside a salary
that is absent it counts as absent: equality holds, though the age is present. -/
theorem eq_of_mistyped_age_and_absent_salary :
    let host : Host Unit :=
      { member := fun _ name => if name = "Age" then .str "old" else .null
        invoke := fun _ _ _ => .null }
    let age : Expr := .path ["Age"] 0
    let salary : Expr := .path ["Salary"] 7
    let truth (op : Comparison) :=
      (Expr.compare op age salary 4).truth? Sample.schema Sample.personId host ()
    age.isLiteral = false ∧
      ∃ left right, elaborate Sample.schema Sample.personId age = .ok left ∧
        elaborate Sample.schema Sample.personId salary = .ok right ∧
        left.plan.value host () = .str "old" ∧ right.plan.value host () = .null ∧
        truth .eq = some true ∧
        ¬ ∀ t, truth .eq = some t →
          (t = true ↔ left.plan.value host () = .null ∧ right.plan.value host () = .null) := by
  intro host age salary truth
  have heq : truth .eq = some true := rfl
  refine ⟨rfl, _, _, rfl, rfl, rfl, rfl, heq, fun h => ?_⟩
  -- the age would have to be absent
  exact nomatch ((h true heq).mp rfl).1

end

end RecordFilter
