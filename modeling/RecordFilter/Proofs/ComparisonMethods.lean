import RecordFilter.Proofs.ComparisonLaws
import RecordFilter.Proofs.MemberComparison
/-!
# Methods that compare

Texts, numbers and truth values can be compared by the methods `Equals` and `CompareTo` instead of an
operator.  The two ways convert operands differently: an operator brings both sides together, a method
brings its argument to the type of its target (`TypedPlan.argument?`).  Where both succeed they compare
the same plans (`TypedPlan.unify?_argument?`), and what the methods answer is what the operators say of
the same values, so that the two ways agree (`methods_agree`).
-/

namespace RecordFilter

variable {ρ : Type}

/-! ### Answers of methods and operators -/

namespace Comparison

/-- `orderInt` gives an integer that stands to zero as the values in that order do. -/
private theorem holds_orderInt (op : Comparison) (order : Ordering) :
    op.holds (.int (Builtin.orderInt order) : Value ρ) (.int 0) = op.ofOrdering order := by
  cases op <;> cases order <;> rfl

variable {v w : Value ρ}

/-- `Equals` says of present values what equality does. -/
private theorem apply_equals (hv : v ≠ .null) (hw : w ≠ .null) :
    Builtin.equals.apply v [w] = .bool (eq.holds v w) := by
  simp only [Builtin.apply, List.headD_cons, Value.isNull_eq_false hw, holds_of_ne_null (.inl hv)]
  -- values without an order are not equal for either
  cases compareValues v w with
  | none => rfl
  | some order => cases order <;> rfl

/-- The answer of `CompareTo` stands to zero as its target to its argument.  Values without an order have
no answer, which differs from zero as they differ from one another. -/
private theorem holds_compareTo (op : Comparison) (hv : v ≠ .null) (hw : w ≠ .null) :
    op.holds (Builtin.compareTo.apply v [w]) (.int 0) = op.holds v w := by
  rw [Builtin.apply_compareTo hw, holds_of_ne_null (.inl hv)]
  cases compareValues v w with
  | none => cases op <;> rfl
  | some order => exact op.holds_orderInt order

end Comparison

/-- `Plan.builtin` applies its method to a target that is present. -/
private theorem Plan.value_builtin {host : Host ρ} {record : ρ} {m : Builtin} {target : Plan}
    (args : List Plan) (h : target.value host record ≠ .null) :
    (Plan.builtin m target args).value host record =
      m.apply (target.value host record) (values host record args) := by
  simp only [value]

/-! ### Arguments and operands -/

/-- The types with built-in methods. -/
def DeclaredType.HasMethods (d : DeclaredType) : Prop := d = .bool ∨ d = .int ∨ d = .float ∨ d = .str

/-- The method compares its target with its only argument. -/
def Builtin.Compares (m : Builtin) : Prop := m = .equals ∨ m = .compareTo

/-- `Candidate.named` finds the methods that compare on all types with built-in methods, and only one of
each name. -/
private theorem Candidate.named_compares (schema : Schema) {d : DeclaredType} {m : Builtin}
    (hd : d.HasMethods) (hm : m.Compares) : named schema d.base m.name = [ofBuiltin d m] := by
  rcases hd with rfl | rfl | rfl | rfl <;> rcases hm with rfl | rfl <;> rfl

namespace TypedPlan

variable {schema : Schema} {left right t a : TypedPlan} {u : Unified} {d : DeclaredType} {m : Builtin}
  {offset : Nat}

/-- `call` of a method that compares makes a plan of its target and the argument. -/
private theorem call_compares_eq_ok (hd : d.HasMethods) (hm : m.Compares) (hbase : left.type.base = d.base)
    (h : call schema left m.name [right] offset = .ok t) :
    ∃ a, argument? schema d right = some a ∧
      t.plan = .builtin m left.plan [a.plan] ∧ t.type.base = m.returns.base := by
  have hparams : (Candidate.ofBuiltin d m).params = [d] := by
    rcases hm with rfl | rfl <;> rfl
  simp only [call, hbase, Candidate.named_compares schema hd hm] at h
  -- the one candidate has the one parameter that is asked for
  rw [List.filter_cons_of_pos (by simp [hparams]), List.filter_nil] at h
  obtain ⟨⟨c, args⟩, hres, h⟩ := Except.bind_eq_ok_iff.mp h
  obtain ⟨a, ha, rfl, rfl⟩ := (resolve_one_eq_ok_iff hparams).mp hres
  cases h
  exact ⟨a, ha, rfl, rfl⟩

/-- `coerce?` of a constant that is present only asks for a kind. -/
private theorem coerce?_congr {type type' : StaticType} (ht : t.plan ≠ .const .null)
    (h : type.base = type'.base) : t.coerce? schema type = t.coerce? schema type' := by
  unfold coerce?
  -- a constant is converted by its value and the kind, another plan by its own kind
  cases hplan : t.plan with
  | const c =>
    have hc : c ≠ .null := by
      rintro rfl
      exact ht hplan
    simp only [Plan.constant?, convertConstant_congr hc h, h]
  | _ => simp only [Plan.constant?, h]

/-- `promote?` and `coerce?` to the type of a method agree on what becomes of the right operand, where
both apply. -/
private theorem promote?_argument? (hd : d.HasMethods) (hbase : left.type.base = d.base)
    (hright : right.isConstant = false) (hu : promote? schema left right = some u)
    (ha : right.coerce? schema (.ofDeclared d) = some a) :
    u.left.plan = left.plan ∧ u.right.plan = a.plan := by
  -- the argument is computed, so a method converts it when it is called
  have hplan : ∀ c, right.plan ≠ .const c := by
    intro c hc
    simp [isConstant, hc, Plan.constant?] at hright
  have hconvert : right.plan.convertTo? right.type.base left.type.base = some a.plan := by
    rcases coerce?_eq_some ha with ⟨c, _, hc, -⟩ | ⟨hconvert, -⟩
    · exact absurd hc (hplan c)
    · rw [hbase]
      exact hconvert
  unfold promote? at hu
  split at hu
  · -- an operator makes a double of the target, but no method makes an integer of the argument
    rename_i hl hr
    rw [hl, hr] at hconvert
    cases hconvert
  · rename_i hl hr
    -- both convert the argument to a double, whatever is known of its absence
    have hfloat : (⟨.float, false⟩ : StaticType).base = (StaticType.ofDeclared d).base :=
      hl.symm.trans hbase
    rw [coerce?_congr (hplan .null) hfloat, ha] at hu
    cases hu
    exact ⟨rfl, rfl⟩
  · -- enumerations have no methods
    rename_i hl hr
    rw [hl] at hbase
    rcases hd with rfl | rfl | rfl | rfl <;> cases hbase
  · rename_i hl hr
    rw [hl, hr] at hconvert
    cases hu
    exact ⟨rfl, Option.some.inj hconvert⟩
  · cases hu

/-- `unify?` and `argument?` compare the same plans, where a comparison brings its operands together and
a method of the left one takes the right one. -/
theorem unify?_argument? (hd : d.HasMethods) (hbase : left.type.base = d.base)
    (hleft : left.isConstant = false) (hright : right.plan ≠ .const .null)
    (hu : unify? schema left right = some u) (ha : argument? schema d right = some a) :
    u.left.plan = left.plan ∧ u.right.plan = a.plan := by
  have hcoerce : right.coerce? schema left.type = right.coerce? schema (.ofDeclared d) :=
    coerce?_congr hright hbase
  have ha : (if right.type.base = d.base then some right
      else right.coerce? schema (.ofDeclared d)) = some a := ha
  unfold unify? at hu
  rw [hbase] at hu
  -- an argument of the type of the target is left as it is by both
  by_cases hsame : right.type.base = d.base
  · rw [if_pos hsame.symm] at hu
    rw [if_pos hsame] at ha
    cases hu
    cases ha
    exact ⟨rfl, rfl⟩
  · rw [if_neg (Ne.symm hsame), coerceConstant?_eq_none hleft] at hu
    rw [if_neg hsame] at ha
    cases hconst : right.isConstant with
    | true =>
      -- a constant is converted once, to one and the same type
      rw [coerceConstant?, hconst, if_pos rfl, hcoerce, ha] at hu
      cases hu
      exact ⟨rfl, rfl⟩
    | false =>
      rw [coerceConstant?_eq_none hconst] at hu
      exact promote?_argument? hd hbase hconst hu ha

variable {root : RecordId} {host : Host ρ} {R : ρ → RecordId → Prop} {record : ρ}

/-- `operands?` compares, on present values, the values that a method is applied to. -/
private theorem call_value_of_operands (hr : right.WellTyped schema root) (hd : d.HasMethods)
    (hm : m.Compares) (hbase : left.type.base = d.base) (hconst : left.isConstant = false)
    (hhost : host.Conforms schema R) (hrec : R record root)
    (hlv : left.plan.value host record ≠ .null) (hrv : right.plan.value host record ≠ .null)
    (hu : operands? schema left right = some u)
    (ht : call schema left m.name [right] offset = .ok t) :
    u.left.plan.value host record ≠ .null ∧ u.right.plan.value host record ≠ .null ∧
      t.plan.value host record =
        m.apply (u.left.plan.value host record) [u.right.plan.value host record] := by
  obtain ⟨a, ha, hplan, -⟩ := call_compares_eq_ok hd hm hbase ht
  have hright : right.plan ≠ .const .null := by
    intro hnull
    rw [hnull] at hrv
    exact hrv rfl
  -- present values are not of the type of `null`, so neither operand is the literal
  have hunify : unify? schema left right = some u := by
    have hlnull : left.type.base ≠ .null := hbase ▸ StaticType.ofDeclared_base_ne_null d
    have hrnull : right.type.base ≠ .null := fun hnull =>
      hrv ((hr.hasType hnull).fits hhost hrec).eq_null
    simpa [operands?, isNull, hlnull, hrnull] using hu
  obtain ⟨hleft, ha⟩ := unify?_argument? hd hbase hconst hright hunify ha
  have hbecomes := (operands?_becomes hu).2
  have hpresent := mt (hbecomes.value_eq_null_iff hr hhost hrec).mp hrv
  refine ⟨hleft ▸ hlv, hpresent, ?_⟩
  rw [hplan, Plan.value_builtin _ hlv, Plan.values, Plan.values, hleft, ha]

end TypedPlan

/-! ### Main statement -/

section

variable {schema : Schema} {root : RecordId} {host : Host ρ} {R : ρ → RecordId → Prop} {record : ρ}
  {l r : Expr} {left right : TypedPlan}

/-- `elaborate` of a call with one argument is `call` on the plans of its target and the argument. -/
private theorem elaborate_call_one (hl : elaborate schema root l = .ok left)
    (hr : elaborate schema root r = .ok right) (method : String) (offset : Nat) :
    elaborate schema root (.call l method [r] offset) =
      TypedPlan.call schema left method [right] offset := by
  simp only [elaborate, elaborateAll, hl, hr, Except.ok_bind, Except.pure_eq_ok]

/-- The answer of `CompareTo` is compared with zero as it is, integer with integer. -/
private theorem operands?_compareTo_zero {u : TypedPlan.Unified} {d : DeclaredType} {o o' : Nat}
    (hl : elaborate schema root l = .ok left) (hr : elaborate schema root r = .ok right)
    (hd : d.HasMethods) (hbase : left.type.base = d.base)
    (hu : Expr.operands? schema root (.call l "CompareTo" [r] o) (.literal (.number "0") o') =
      some u) :
    elaborate schema root (.call l "CompareTo" [r] o) = .ok u.left ∧
      u.right.plan = .const (.int 0) := by
  obtain ⟨answer, zero, ha, hz, hu⟩ := Expr.operands?_eq_some_iff.mp hu
  -- the answer is an integer, and so is zero: nothing is converted
  have hanswer : answer.type.base = .int := by
    rw [elaborate_call_one hl hr] at ha
    obtain ⟨_, -, -, htype⟩ := TypedPlan.call_compares_eq_ok hd (.inr rfl) hbase ha
    exact htype
  have hnumber : readNumber "0" = .int 0 := by decide +kernel
  have hzero : zero.plan = .const (.int 0) ∧ zero.type.base = .int := by
    cases hz
    exact ⟨congrArg Plan.const hnumber, congrArg (·.staticType.base) hnumber⟩
  rw [TypedPlan.operands?_of_base_eq (by simp [hanswer]) (hanswer.trans hzero.2.symm)] at hu
  cases hu
  exact ⟨ha, hzero.1⟩

/-- The methods that compare agree with the operators.  Where an expression of texts, numbers or truth
values stands beside another one, and both are present, an operator says of them what it says of the
answer of `CompareTo` and zero, and equality says what `Equals` answers, if both ways have a meaning. -/
theorem methods_agree (hl : elaborate schema root l = .ok left)
    (hr : elaborate schema root r = .ok right) (hlit : l.isLiteral = false)
    (hbase : left.type.base = .str ∨ left.type.base = .int ∨ left.type.base = .float ∨
      left.type.base = .bool)
    (hhost : host.Conforms schema R) (hrec : R record root)
    (hlv : left.plan.value host record ≠ .null) (hrv : right.plan.value host record ≠ .null) :
    (∀ op o o₁ o₂ o₃ b b',
      (Expr.compare op l r o).truth? schema root host record = some b →
      (Expr.compare op (.call l "CompareTo" [r] o₁) (.literal (.number "0") o₂) o₃).truth? schema root
        host record = some b' → b = b') ∧
    ∀ o o' b b', (Expr.compare .eq l r o).truth? schema root host record = some b →
      (Expr.call l "Equals" [r] o').truth? schema root host record = some b' → b = b' := by
  obtain ⟨d, hd, hbase⟩ : ∃ d : DeclaredType, d.HasMethods ∧ left.type.base = d.base := by
    rcases hbase with h | h | h | h
    · exact ⟨.str, .inr (.inr (.inr rfl)), h⟩
    · exact ⟨.int, .inr (.inl rfl), h⟩
    · exact ⟨.float, .inr (.inr (.inl rfl)), h⟩
    · exact ⟨.bool, .inl rfl, h⟩
  have hconst : left.isConstant = false := (isComputed_of_elaborate hl hlit).isConstant
  -- whichever method is called, it is applied to the values that the operator compares
  have hcall {m : Builtin} (hm : m.Compares) {u : TypedPlan.Unified} {t : TypedPlan} {offset : Nat}
      (hu : Expr.operands? schema root l r = some u)
      (ht : elaborate schema root (.call l m.name [r] offset) = .ok t) :=
    TypedPlan.call_value_of_operands (elaborate_wellTyped hr) hd hm hbase hconst hhost hrec hlv hrv
      (Expr.operands?_of_elaborate hl hr hu) ((elaborate_call_one hl hr m.name offset).symm.trans ht)
  constructor
  · intro op o o₁ o₂ o₃ b b' hop hzero
    obtain ⟨_, hplan, rfl⟩ := Expr.truth?_eq_some_iff.mp hop
    obtain ⟨u, hu, -, rfl⟩ := planFilter_compare_eq_ok_iff.mp hplan
    obtain ⟨_, hplan', rfl⟩ := Expr.truth?_eq_some_iff.mp hzero
    obtain ⟨u', hu', -, rfl⟩ := planFilter_compare_eq_ok_iff.mp hplan'
    -- `CompareTo` is applied to what the operator compares, and its answer stands beside zero
    obtain ⟨ht, hz⟩ := operands?_compareTo_zero hl hr hd hbase hu'
    obtain ⟨hlv', hrv', hvalue⟩ := hcall (.inr rfl) hu ht
    rw [Plan.value, Plan.value, hvalue, hz]
    exact (op.holds_compareTo hlv' hrv').symm
  · intro o o' b b' heq hequals
    obtain ⟨_, hplan, rfl⟩ := Expr.truth?_eq_some_iff.mp heq
    obtain ⟨u, hu, -, rfl⟩ := planFilter_compare_eq_ok_iff.mp hplan
    obtain ⟨_, hplan', rfl⟩ := Expr.truth?_eq_some_iff.mp hequals
    obtain ⟨t, ht, -, rfl⟩ := planFilter_eq_ok_iff.mp hplan'
    obtain ⟨hlv', hrv', hvalue⟩ := hcall (.inl rfl) hu ht
    rw [hvalue, Comparison.apply_equals hlv' hrv']
    rfl

/-- Sam's salary beside his age, seventeen.  A salary that is not a number differs from the age as the
answer of `CompareTo`, which is absent, differs from zero, and `Equals` says that the two are not equal; a
greater salary is greater either way; and to one that is the same number `Equals` says so. -/
theorem methods_agree_of_salary_and_age :
    let sam (earned : Float) : Sample.Record :=
      .person ⟨"Sam Smith", 17, none, earned, false, 0, none⟩
    let salary : Expr := .path ["Salary"] 0
    let age : Expr := .path ["Age"] 17
    let operator (op : Comparison) : Expr := .compare op salary age 7
    let compareTo (op : Comparison) : Expr :=
      .compare op (.call salary "CompareTo" [age] 7) (.literal (.number "0") 26) 23
    let equals : Expr := .call salary "Equals" [age] 7
    let truth? (earned : Float) (e : Expr) :=
      e.truth? Sample.schema Sample.personId Sample.host (sam earned)
    elaborate Sample.schema Sample.personId salary =
        .ok { plan := .member .root "Salary", type := ⟨.float, false⟩, offset := 0 } ∧
      elaborate Sample.schema Sample.personId age =
        .ok { plan := .member .root "Age", type := ⟨.int, false⟩, offset := 17 } ∧
      salary.isLiteral = false ∧ Sample.host.Conforms Sample.schema Sample.HasRecordType ∧
      (∀ earned, Sample.HasRecordType (sam earned) Sample.personId) ∧
      (truth? (0.0 / 0.0) (operator .ne) = some true ∧
        truth? (0.0 / 0.0) (compareTo .ne) = some true) ∧
      (truth? (0.0 / 0.0) (operator .eq) = some false ∧ truth? (0.0 / 0.0) equals = some false) ∧
      (truth? 17.5 (operator .gt) = some true ∧ truth? 17.5 (compareTo .gt) = some true) ∧
      truth? 17.0 (operator .eq) = some true ∧ truth? 17.0 equals = some true := by
  intro sam salary age operator compareTo equals truth?
  have hsalary : elaborate Sample.schema Sample.personId salary =
      .ok { plan := .member .root "Salary", type := ⟨.float, false⟩, offset := 0 } := rfl
  have hage : elaborate Sample.schema Sample.personId age =
      .ok { plan := .member .root "Age", type := ⟨.int, false⟩, offset := 17 } := rfl
  have hsam (earned : Float) : Sample.HasRecordType (sam earned) Sample.personId := rfl
  -- what the operator says carries over to the methods, whatever the salary is
  have hcompareTo {earned : Float} {op : Comparison} {b : Bool}
      (h : truth? earned (operator op) = some b) :
      truth? earned (operator op) = some b ∧ truth? earned (compareTo op) = some b := by
    obtain ⟨b', hb'⟩ : ∃ b', truth? earned (compareTo op) = some b' := ⟨_, rfl⟩
    obtain rfl : b = b' := (methods_agree hsalary hage rfl (.inr (.inr (.inl rfl)))
      Sample.host_conforms (hsam earned) nofun nofun).1 _ _ _ _ _ _ _ h hb'
    exact ⟨h, hb'⟩
  have hequals {earned : Float} {b : Bool} (h : truth? earned (operator .eq) = some b) :
      truth? earned (operator .eq) = some b ∧ truth? earned equals = some b := by
    obtain ⟨b', hb'⟩ : ∃ b', truth? earned equals = some b' := ⟨_, rfl⟩
    obtain rfl : b = b' := (methods_agree hsalary hage rfl (.inr (.inr (.inl rfl)))
      Sample.host_conforms (hsam earned) nofun nofun).2 _ _ _ _ h hb'
    exact ⟨h, hb'⟩
  exact ⟨hsalary, hage, rfl, Sample.host_conforms, hsam, hcompareTo (by decide +kernel),
    hequals (by decide +kernel), hcompareTo (by decide +kernel), hequals (by decide +kernel)⟩

end

end RecordFilter
