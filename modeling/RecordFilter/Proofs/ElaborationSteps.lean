import Mathlib.Data.List.Forall2
import RecordFilter.Predicate
import RecordFilter.Proofs.Except
/-!
# The steps of elaboration

What each step of elaboration gives when it succeeds, said once: the plan and the type of a
connective, a negation, a comparison (`compare_eq_ok_iff`) and a call (`call_eq_ok`), and when an
expression is a filter (`planFilter_eq_ok_iff`).  Operands and arguments go into a plan as they are
or at another type (`TypedPlan.Becomes`).  Proofs about elaborated expressions cite these lemmas and
do not go through the steps again.
-/

namespace RecordFilter

/-- `convertTo?` gives a plan a conversion, or leaves it as it is. -/
theorem Plan.convertTo?_eq_some {p q : Plan} {source target : BaseType}
    (h : p.convertTo? source target = some q) : q = p ∨ ∃ c, q = .convert c p := by
  -- a plan of that type stays as it is, and so does an enumeration where an integer is asked for
  unfold convertTo? at h
  split at h
  · exact .inl (Option.some.inj h).symm
  · split at h
    · exact .inr ⟨_, (Option.some.inj h).symm⟩
    · exact .inl (Option.some.inj h).symm
    · exact .inr ⟨_, (Option.some.inj h).symm⟩
    · exact .inr ⟨_, (Option.some.inj h).symm⟩
    · exact .inr ⟨_, (Option.some.inj h).symm⟩
    · exact nomatch h

/-- The plan of two truth values joined. -/
def Connective.plan : Connective → Plan → Plan → Plan
  | .and => .and
  | .or => .or

/-- The operator is defined on operands of the base type, which is that of `null` where one operand is
the literal. -/
def BaseType.allows : BaseType → Comparison → Bool
  | record _, _ => false
  | null, op | bool, op => !op.isOrdering
  | int, _ | float, _ | str, _ | enum _, _ => true

namespace TypedPlan

variable {schema : Schema} {left right target t t' : TypedPlan} {u : Unified} {offset : Nat}

/-- The second plan is the first one, as it is or at another type. -/
inductive Becomes (schema : Schema) (t : TypedPlan) : TypedPlan → Prop where
  | same : Becomes schema t t
  | coerced {expected : StaticType} {t' : TypedPlan} (h : t.coerce? schema expected = some t') :
      Becomes schema t t'

/-- `coerce?` makes another constant of a plan, or the same plan with or without a conversion. -/
theorem coerce?_eq_some {expected : StaticType} (h : t.coerce? schema expected = some t') :
    (∃ c c', t.plan = .const c ∧ convertConstant schema c t.source expected = some c' ∧
      t'.plan = .const c' ∧ t'.type = if c'.isNull then .null else ⟨expected.base, false⟩) ∨
    t.plan.convertTo? t.type.base expected.base = some t'.plan ∧
      t'.type = ⟨expected.base, t.type.nullable⟩ := by
  unfold coerce? at h
  -- a constant is converted at once, another plan when it is evaluated
  split at h
  · rename_i c hc
    obtain ⟨c', hc', rfl⟩ := Option.map_eq_some_iff.mp h
    refine .inl ⟨c, c', ?_, hc', rfl, rfl⟩
    cases hp : t.plan <;> simp_all [Plan.constant?]
  · obtain ⟨p, hp, rfl⟩ := Option.map_eq_some_iff.mp h
    exact .inr ⟨hp, rfl⟩

/-- `coerceConstant?` gives the plan at another type. -/
private theorem coerceConstant?_becomes {expected : StaticType}
    (h : t.coerceConstant? schema expected = some t') : t.Becomes schema t' := by
  unfold coerceConstant? at h
  split at h
  · exact .coerced h
  · exact nomatch h

/-- `expectBool` leaves a truth value as it is. -/
theorem expectBool_eq_ok_iff : t.expectBool schema = .ok t' ↔ t' = t ∧ t.type.base = .bool := by
  unfold expectBool
  split
  · rename_i h
    simp [h, eq_comm]
  · rename_i h
    simp [h]

/-! ### Operators -/

/-- `logical` joins two truth values. -/
theorem logical_eq_ok {op : Connective} (h : logical schema op left right offset = .ok t) :
    left.type.base = .bool ∧ right.type.base = .bool ∧
      t = { plan := op.plan left.plan right.plan, type := .bool, offset } := by
  simp only [logical, Except.bind_eq_ok_iff, expectBool_eq_ok_iff] at h
  obtain ⟨l, ⟨rfl, hl⟩, r, ⟨rfl, hr⟩, h⟩ := h
  refine ⟨hl, hr, ?_⟩
  cases op <;> exact (Except.ok.inj h).symm

/-- `TypedPlan.not` negates a truth value and keeps its type. -/
theorem not_eq_ok (h : TypedPlan.not schema target offset = .ok t) :
    target.type.base = .bool ∧ t = { plan := .not target.plan, type := target.type, offset } := by
  simp only [TypedPlan.not, Except.bind_eq_ok_iff, expectBool_eq_ok_iff] at h
  obtain ⟨_, ⟨rfl, hb⟩, h⟩ := h
  exact ⟨hb, (Except.ok.inj h).symm⟩

/-- `promote?` brings an operand to another type or leaves it. -/
private theorem promote?_becomes (h : promote? schema left right = some u) :
    left.Becomes schema u.left ∧ right.Becomes schema u.right := by
  unfold promote? at h
  -- an integer beside a double is converted; an enumeration beside an integer stays
  split at h
  · obtain ⟨l, hl, rfl⟩ := Option.map_eq_some_iff.mp h
    exact ⟨.coerced hl, .same⟩
  · obtain ⟨r, hr, rfl⟩ := Option.map_eq_some_iff.mp h
    exact ⟨.same, .coerced hr⟩
  · cases h
    exact ⟨.same, .same⟩
  · cases h
    exact ⟨.same, .same⟩
  · exact nomatch h

/-- `unify?` brings an operand to another type or leaves it. -/
private theorem unify?_becomes (h : unify? schema left right = some u) :
    left.Becomes schema u.left ∧ right.Becomes schema u.right := by
  unfold unify? at h
  split at h
  · cases h
    exact ⟨.same, .same⟩
  · split at h
    · -- a constant on the right is tried first, one on the left only after it
      rename_i hr
      cases h
      exact ⟨.same, coerceConstant?_becomes hr⟩
    · split at h
      · rename_i hl
        cases h
        exact ⟨coerceConstant?_becomes hl, .same⟩
      · exact promote?_becomes h

/-- The operands of a comparison as they are compared, if they can be: beside `null` something that may
be absent, and otherwise two operands of a common base type. -/
def operands? (schema : Schema) (left right : TypedPlan) : Option Unified :=
  if left.isNull then if right.type.nullable then some ⟨left, right, .null⟩ else none
  else if right.isNull then if left.type.nullable then some ⟨left, right, .null⟩ else none
  else unify? schema left right

/-- `promote?` brings operands to a kind of numbers. -/
private theorem promote?_base_ne_null (h : promote? schema left right = some u) : u.base ≠ .null := by
  unfold promote? at h
  split at h
  · obtain ⟨_, -, rfl⟩ := Option.map_eq_some_iff.mp h
    exact BaseType.noConfusion
  · obtain ⟨_, -, rfl⟩ := Option.map_eq_some_iff.mp h
    exact BaseType.noConfusion
  · cases h
    exact BaseType.noConfusion
  · cases h
    exact BaseType.noConfusion
  · exact nomatch h

/-- `unify?` finds no common base type `null` for operands that are not the literal. -/
private theorem unify?_base_ne_null (hl : left.isNull = false) (hr : right.isNull = false)
    (h : unify? schema left right = some u) : u.base ≠ .null := by
  simp only [isNull, beq_eq_false_iff_ne] at hl hr
  unfold unify? at h
  -- the common type is that of one of the operands, or one of numbers
  split at h
  · cases h
    exact hl
  · split at h
    · cases h
      exact hl
    · split at h
      · cases h
        exact hr
      · exact promote?_base_ne_null h

/-- Beside `null`, what may be absent is compared for equality. -/
private theorem checkNull_eq_ok_iff {op : Comparison} {null other : TypedPlan} {x : Unit} :
    checkNull schema op null other offset = .ok x ↔
      op.isOrdering = false ∧ other.type.nullable = true := by
  unfold checkNull
  cases op.isOrdering <;> cases other.type.nullable <;> simp

/-- `checkBase` and `BaseType.allows` agree on the base types of operands that are not the literal
`null`. -/
private theorem checkBase_eq_ok_iff {op : Comparison} {base : BaseType} {x : Unit} (h : base ≠ .null) :
    checkBase schema op base offset = .ok x ↔ base.allows op = true := by
  cases base with
  | null => exact absurd rfl h
  | bool => cases hop : op.isOrdering <;> simp [checkBase, BaseType.allows, hop]
  | _ => simp [checkBase, BaseType.allows]

/-- `compare` succeeds if `operands?` brings the operands together and the operator is defined on the
result. -/
theorem compare_eq_ok_iff {op : Comparison} :
    compare schema op left right offset = .ok t ↔
      ∃ u, operands? schema left right = some u ∧ u.base.allows op = true ∧
        { plan := .compare op u.left.plan u.right.plan, type := .bool, offset } = t := by
  unfold compare operands?
  -- neither operand, the right one, the left one or both are the literal
  cases hl : left.isNull <;> cases hr : right.isNull
  · simp only [Bool.or_self, Bool.false_eq_true, if_false]
    cases hu : unify? schema left right with
    | none => simp
    | some u =>
      simp only [Except.bind_eq_ok_iff, checkBase_eq_ok_iff (unify?_base_ne_null hl hr hu)]
      simp
  · simp only [Bool.or_true, Bool.false_eq_true, if_false, if_true, Except.bind_eq_ok_iff,
      checkNull_eq_ok_iff]
    cases left.type.nullable <;> simp [BaseType.allows]
  · simp only [Bool.or_false, if_true, Except.bind_eq_ok_iff, checkNull_eq_ok_iff]
    cases right.type.nullable <;> simp [BaseType.allows]
  · simp only [Bool.or_self, if_true, Except.bind_eq_ok_iff, checkNull_eq_ok_iff]
    cases right.type.nullable <;> simp [BaseType.allows]

/-- `operands?` leaves operands of one kind as they are. -/
theorem operands?_of_base_eq (hleft : left.type.base ≠ .null)
    (h : left.type.base = right.type.base) :
    operands? schema left right = some ⟨left, right, left.type.base⟩ := by
  simp [operands?, unify?, isNull, ← h, hleft]

/-- `operands?` leaves each operand as it is or brings it to another type. -/
theorem operands?_becomes (h : operands? schema left right = some u) :
    left.Becomes schema u.left ∧ right.Becomes schema u.right := by
  unfold operands? at h
  -- beside `null` both operands stay
  split at h
  · rw [Option.ite_none_right_eq_some] at h
    cases h.2
    exact ⟨.same, .same⟩
  · split at h
    · rw [Option.ite_none_right_eq_some] at h
      cases h.2
      exact ⟨.same, .same⟩
    · exact unify?_becomes h

/-- `compare` makes a plan of its operands, as they are or at another type. -/
theorem compare_eq_ok {op : Comparison} (h : compare schema op left right offset = .ok t) :
    ∃ l r, left.Becomes schema l ∧ right.Becomes schema r ∧
      t = { plan := .compare op l.plan r.plan, type := .bool, offset } := by
  obtain ⟨u, hu, -, rfl⟩ := compare_eq_ok_iff.mp h
  obtain ⟨hl, hr⟩ := operands?_becomes hu
  exact ⟨u.left, u.right, hl, hr, rfl⟩

/-! ### Calls -/

variable {args converted : List TypedPlan} {c : Candidate}

/-- The candidate can be called with the arguments: they match its parameters exactly, or they can be
converted. -/
inductive Takes (schema : Schema) (c : Candidate) (args : List TypedPlan) : List TypedPlan → Prop where
  | exact (h : c.matchesExactly args = true) : Takes schema c args args
  | converted {converted : List TypedPlan} (h : convertArgs schema c.params args = .ok converted) :
      Takes schema c args converted

/-- `convertArgs` gives each argument at another type. -/
private theorem convertArgs_becomes {params : List DeclaredType} (hlen : params.length = args.length)
    (h : convertArgs schema params args = .ok converted) :
    List.Forall₂ (Becomes schema) args converted := by
  -- along both lists, which have one length
  induction params generalizing args converted with
  | nil =>
    obtain rfl := List.length_eq_zero_iff.mp hlen.symm
    cases h
    exact .nil
  | cons param params ih =>
    cases args with
    | nil => simp at hlen
    | cons arg args =>
      simp only [convertArgs] at h
      split at h
      · rename_i hc
        obtain ⟨rest, hrest, h⟩ := Except.bind_eq_ok_iff.mp h
        cases h
        exact .cons (.coerced hc) (ih (Nat.succ.inj hlen) hrest)
      · exact nomatch h

/-- `Takes` gives the arguments to the method as they are or at other types. -/
theorem Takes.becomes (h : Takes schema c args converted) (hlen : c.params.length = args.length) :
    List.Forall₂ (Becomes schema) args converted := by
  cases h with
  | exact _ => exact List.forall₂_same.mpr fun _ _ => .same
  | converted h => exact convertArgs_becomes hlen h

/-- `convertFor` gives the candidate that it was asked about, with the converted arguments. -/
private theorem convertFor_eq_ok_iff {c' : Candidate} :
    convertFor schema args c = .ok (c', converted) ↔
      c' = c ∧ convertArgs schema c.params args = .ok converted := by
  simp only [convertFor, Except.map_eq_ok_iff, Prod.mk.injEq]
  constructor
  · rintro ⟨a, ha, rfl, rfl⟩
    exact ⟨rfl, ha⟩
  · rintro ⟨rfl, h⟩
    exact ⟨converted, h, rfl, rfl⟩

/-- `firstConvertible` finds the first candidate to which the arguments can be brought. -/
theorem firstConvertible_eq_ok_iff {first : Candidate} {others : List Candidate} :
    firstConvertible schema args first others = .ok (c, converted) ↔
      ∃ before after, first :: others = before ++ c :: after ∧
        convertArgs schema c.params args = .ok converted ∧
        ∀ b ∈ before, ∀ converted', convertArgs schema b.params args ≠ .ok converted' := by
  -- along the candidates, of which the first one is given apart
  induction others generalizing first with
  | nil =>
    simp only [firstConvertible, convertFor_eq_ok_iff]
    constructor
    · rintro ⟨rfl, h⟩
      exact ⟨[], [], rfl, h, List.forall_mem_nil _⟩
    · rintro ⟨before, after, hsplit, h, -⟩
      cases before with
      | nil =>
        cases hsplit
        exact ⟨rfl, h⟩
      | cons b before => simp at hsplit
  | cons next more ih =>
    unfold firstConvertible convertFor
    cases hfirst : convertArgs schema first.params args with
    | ok found =>
      -- the first one is taken, so nothing stands before what is found
      constructor
      · intro h
        cases h
        exact ⟨[], _, rfl, hfirst, List.forall_mem_nil _⟩
      · rintro ⟨before, after, hsplit, hc, hbefore⟩
        cases before with
        | nil =>
          cases hsplit
          cases hfirst.symm.trans hc
          rfl
        | cons b before =>
          obtain rfl : first = b := (List.cons.inj hsplit).1
          exact absurd hfirst (hbefore _ List.mem_cons_self _)
    | error e =>
      -- the first one is refused, so it stands before whatever is found later
      show (firstConvertible schema args next more).mapError (fun _ => e) = _ ↔ _
      rw [Except.mapError_eq_ok_iff, ih]
      constructor
      · rintro ⟨before, after, hsplit, hc, hbefore⟩
        have hne : ∀ converted', convertArgs schema first.params args ≠ .ok converted' := by
          simp [hfirst]
        exact ⟨first :: before, after, congrArg _ hsplit, hc, List.forall_mem_cons.mpr ⟨hne, hbefore⟩⟩
      · rintro ⟨before, after, hsplit, hc, hbefore⟩
        cases before with
        | nil =>
          cases hsplit
          exact nomatch hfirst.symm.trans hc
        | cons b before =>
          exact ⟨before, after, (List.cons.inj hsplit).2, hc, (List.forall_mem_cons.mp hbefore).2⟩

/-- `firstConvertible` keeps the error of the first candidate. -/
private theorem firstConvertible_eq_error {first : Candidate} {others : List Candidate}
    {e : ElaborationError} (h : firstConvertible schema args first others = .error e) :
    convertArgs schema first.params args = .error e := by
  cases others with
  | nil => exact Except.map_eq_error_iff.mp h
  | cons next more =>
    -- later candidates may only succeed
    unfold firstConvertible at h
    split at h
    · exact nomatch h
    · rename_i hfirst
      obtain ⟨_, -, rfl⟩ := Except.mapError_eq_error_iff.mp h
      exact Except.map_eq_error_iff.mp hfirst

/-- `firstConvertible` finds one of the candidates that it tries. -/
private theorem firstConvertible_eq_ok {first : Candidate} {others : List Candidate}
    (h : firstConvertible schema args first others = .ok (c, converted)) :
    c ∈ first :: others ∧ convertArgs schema c.params args = .ok converted := by
  obtain ⟨before, after, hsplit, hc, -⟩ := firstConvertible_eq_ok_iff.mp h
  exact ⟨hsplit ▸ List.mem_append_cons_self, hc⟩

/-- `resolve` finds one of the candidates, which takes the arguments. -/
private theorem resolve_eq_ok {first : Candidate} {others : List Candidate}
    (h : resolve schema args first others = .ok (c, converted)) :
    c ∈ first :: others ∧ Takes schema c args converted := by
  unfold resolve at h
  -- an exact match among all candidates comes before any conversion
  split at h
  · rename_i hfind
    cases h
    have hexact := List.find?_some hfind
    exact ⟨List.mem_of_find?_eq_some hfind, .exact hexact⟩
  · obtain ⟨hmem, h⟩ := firstConvertible_eq_ok h
    exact ⟨hmem, .converted h⟩

/-- `resolve` keeps the error of the first candidate. -/
theorem resolve_eq_error {first : Candidate} {others : List Candidate} {e : ElaborationError}
    (h : resolve schema args first others = .error e) :
    convertArgs schema first.params args = .error e := by
  unfold resolve at h
  split at h
  · exact nomatch h
  · exact firstConvertible_eq_error h

/-- The argument for a parameter of the type, where a method has no other: as it is if it has the type, or
else brought to it. -/
def argument? (schema : Schema) (d : DeclaredType) (arg : TypedPlan) : Option TypedPlan :=
  if arg.type.base = (StaticType.ofDeclared d).base then some arg
  else arg.coerce? schema (.ofDeclared d)

/-- `resolve` of a single candidate with one parameter asks whether that can be given the argument. -/
theorem resolve_one_eq_ok_iff {d : DeclaredType} {arg : TypedPlan} {c' : Candidate}
    (hparams : c.params = [d]) :
    resolve schema [arg] c [] = .ok (c', converted) ↔
      ∃ a, argument? schema d arg = some a ∧ c' = c ∧ converted = [a] := by
  -- a parameter never has the type of `null`, so the argument is not the literal if it matches
  have hmatches : c.matchesExactly [arg] = true ↔
      arg.type.base = (StaticType.ofDeclared d).base := by
    have hbase := StaticType.ofDeclared_base_ne_null d
    simp only [Candidate.matchesExactly, hparams, List.zip_cons_cons, List.zip_nil_right,
      List.all_cons, List.all_nil, Bool.and_true, Bool.and_eq_true, beq_iff_eq, isNull,
      Bool.not_eq_true', beq_eq_false_iff_ne]
    exact ⟨fun h => h.2.symm, fun h => ⟨h ▸ hbase, h.symm⟩⟩
  unfold resolve argument?
  by_cases hsame : arg.type.base = (StaticType.ofDeclared d).base
  · rw [if_pos hsame, List.find?_singleton, if_pos (hmatches.mpr hsame)]
    simp [eq_comm]
  · rw [if_neg hsame, List.find?_singleton, if_neg (mt hmatches.mp hsame), firstConvertible,
      convertFor_eq_ok_iff, hparams, convertArgs]
    cases arg.coerce? schema (.ofDeclared d) with
    | none => simp
    | some a =>
      simp only [convertArgs, Except.ok_bind, Except.pure_eq_ok, Except.ok.injEq, Option.some.injEq,
        exists_eq_left', eq_comm]

/-- `call` runs a method of the name and number of parameters that is known for the type of the target.
-/
theorem call_eq_ok {method : String} (h : call schema target method args offset = .ok t) :
    ∃ c converted, c ∈ Candidate.named schema target.type.base method ∧
      c.params.length = args.length ∧ Takes schema c args converted ∧
      t = { plan := c.run target.plan (converted.map (·.plan))
            type := ⟨(StaticType.ofDeclared c.returns).base,
              (StaticType.ofDeclared c.returns).nullable || target.type.nullable⟩
            offset } := by
  simp only [call] at h
  split at h
  · exact nomatch h
  · rename_i first others hcands
    obtain ⟨⟨c, converted⟩, hres, h⟩ := Except.bind_eq_ok_iff.mp h
    -- what was found was kept by the filter for its number of parameters
    obtain ⟨hmem, htakes⟩ := resolve_eq_ok hres
    rw [← hcands, List.mem_filter, beq_iff_eq] at hmem
    exact ⟨c, converted, hmem.1, hmem.2, htakes, (Except.ok.inj h).symm⟩

end TypedPlan

/-! ### Paths -/

section

variable {schema : Schema} {plan p : Plan} {type t : StaticType} {offset : Nat}

/-- What one name of a path makes of a plan and its type: it reads the member of a record, or takes the
length of a text. -/
inductive PathStep (schema : Schema) (name : String) (plan : Plan) (type : StaticType) :
    Plan → StaticType → Prop where
  | member {id m} (hbase : type.base = .record id)
      (hm : (schema.recordType id).member? name = some m) :
      PathStep schema name plan type (.member plan m.name) (.ofDeclared m.type)
  | length (hbase : type.base = .str) (hname : Text.sameName name "Length" = true) :
      PathStep schema name plan type (.length plan) ⟨.int, type.nullable⟩

/-- `followPath` goes along a path name by name. -/
theorem followPath_cons_eq_ok_iff {name : String} {names : List String} {r : Plan × StaticType} :
    followPath schema plan type offset (name :: names) = .ok r ↔
      ∃ p t, PathStep schema name plan type p t ∧
        followPath schema p t (offset + name.length + 1) names = .ok r := by
  simp only [followPath]
  constructor
  · intro h
    split at h
    · rename_i hbase
      split at h
      · rename_i hm
        exact ⟨_, _, .member hbase hm, h⟩
      · exact nomatch h
    · rename_i hbase
      split at h
      · rename_i hname
        exact ⟨_, _, .length hbase hname, h⟩
      · exact nomatch h
    -- no other type has members
    · exact nomatch h
  · rintro ⟨_, _, hstep, h⟩
    cases hstep with
    | member hbase hm => simp only [hbase, hm, h]
    | length hbase hname => simp only [hbase, hname, if_true, h]

/-- `followPath` puts offsets into errors only. -/
private theorem followPath_eq_ok_offset {names : List String} {r : Plan × StaticType} {offset' : Nat}
    (h : followPath schema plan type offset names = .ok r) :
    followPath schema plan type offset' names = .ok r := by
  induction names generalizing plan type offset offset' with
  | nil => exact h
  | cons name names ih =>
    obtain ⟨p, t, hstep, h⟩ := followPath_cons_eq_ok_iff.mp h
    exact followPath_cons_eq_ok_iff.mpr ⟨p, t, hstep, ih h⟩

/-- `followPath` goes on where another path ends. -/
theorem followPath_append {names more : List String} {r : Plan × StaticType} {offset' : Nat}
    (h : followPath schema plan type offset names = .ok (p, t))
    (hmore : followPath schema p t offset' more = .ok r) :
    followPath schema plan type offset (names ++ more) = .ok r := by
  induction names generalizing plan type offset with
  | nil =>
    -- the second path starts at another offset, which only errors show
    cases h
    exact followPath_eq_ok_offset hmore
  | cons name names ih =>
    obtain ⟨q, u, hstep, h⟩ := followPath_cons_eq_ok_iff.mp h
    exact followPath_cons_eq_ok_iff.mpr ⟨q, u, hstep, ih h⟩

end

/-! ### Filters -/

section

variable {schema : Schema} {root : RecordId} {e : Expr}

/-- `planFilter` takes expressions of the type of truth values. -/
theorem planFilter_eq_ok_iff {plan : Plan} :
    planFilter schema root e = .ok plan ↔
      ∃ t, elaborate schema root e = .ok t ∧ t.type.base = .bool ∧ t.plan = plan := by
  unfold planFilter
  simp only [Except.bind_eq_ok_iff, TypedPlan.expectBool_eq_ok_iff]
  constructor
  · rintro ⟨t, ht, _, ⟨rfl, hb⟩, hplan⟩
    exact ⟨_, ht, hb, Except.ok.inj hplan⟩
  · rintro ⟨t, ht, hb, rfl⟩
    exact ⟨t, ht, t, ⟨rfl, hb⟩, rfl⟩

/-- `Predicate.ofExpr` only wraps what `planFilter` gives. -/
theorem Predicate.ofExpr_eq_ok_iff {p : Predicate} :
    ofExpr schema root e = .ok p ↔ planFilter schema root e = .ok p.plan := by
  simp only [ofExpr, Except.map_eq_ok_iff, Except.mapError_eq_ok_iff]
  constructor
  · rintro ⟨plan, hplan, rfl⟩
    exact hplan
  · intro h
    exact ⟨p.plan, h, rfl⟩

end

end RecordFilter
