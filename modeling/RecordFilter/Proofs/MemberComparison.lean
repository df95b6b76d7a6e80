import RecordFilter.Proofs.TokenReading
/-!
# Comparisons of a member with a literal

The source `name op literal`, where the name is a single one, compiles to the comparison of the member
of that name with the constant that the literal stands for (`compile_memberComparison_iff`).  That
constant is the value of the literal, converted to the type of the member
(`TypedPlan.compare_const_eq_ok`); `null` stands for itself (`TypedPlan.exists_compare_null_iff`).
-/

namespace RecordFilter

open Grammar

/-- The text is one token, which is a path of a single name. -/
structure IsMemberName (name : String) : Prop where
  lexeme : TokenKind.identifier.IsLexeme name.toList
  noDot : '.' ∉ name.toList

namespace IsMemberName

variable {name : String}

/-- `IsMemberName` texts are names of a path. -/
theorem isSegment (h : IsMemberName name) : IsSegment name := by
  obtain ⟨⟨c, cs, hname, hc, -⟩, -⟩ := h.lexeme
  exact ⟨by simpa [hname] using hc, h.noDot⟩

/-- `IsMemberName` texts are read as a path of one name. -/
theorem isPath (h : IsMemberName name) (offset : Nat) :
    Token.IsPath ⟨.identifier, name, offset⟩ [name] where
  kind := rfl
  ne_nil := List.cons_ne_nil _ _
  text := String.intercalate_singleton
  segment := List.forall_mem_singleton.mpr h.isSegment

/-- `lexeme?` and `splitPath?` decide whether a text is such a name. -/
theorem iff_lexeme? :
    IsMemberName name ↔
      lexeme? name.toList = some (.identifier, name.length) ∧ splitPath? name = some [name] := by
  constructor
  · intro h
    have hlexeme := h.lexeme.lexeme?_eq
    rw [String.length_toList] at hlexeme
    exact ⟨hlexeme, (Token.isPath_iff.mp (h.isPath 0)).2⟩
  · rintro ⟨hlexeme, hsplit⟩
    -- the lexeme is the whole text
    have hword := isLexeme_of_lexeme? hlexeme
    rw [← String.length_toList, List.take_length] at hword
    obtain ⟨-, -, hsegment⟩ := splitPath?_eq_some_iff.mp hsplit
    exact ⟨hword, (hsegment name List.mem_cons_self).noDot⟩

end IsMemberName

/-! ### The source of a comparison -/

section

variable {schema : Schema} {root : RecordId} {name : String} {op : Comparison} {value : Literal}
  {p : Predicate}

/-- `ReadsLike` for the source: the name, the operator and the literal. -/
private theorem readsLike_memberComparison (hname : IsMemberName name) (hvalue : value.IsWritable)
    (op : Comparison) :
    ReadsLike [] (name ++ " " ++ op.symbol ++ " " ++ value.text).toList
      [⟨.identifier, name, 0⟩, ⟨.comparison op, op.symbol, 0⟩, ⟨value.kind, value.text, 0⟩] := by
  have htext : (name ++ " " ++ op.symbol ++ " " ++ value.text).toList =
      name.toList ++ (' ' :: (op.symbol.toList ++ [' ']) ++ value.text.toList) := by
    simp
  rw [htext]
  -- the name ends at the blank before the operator
  have hblank : Lexeme.Separates ' ' := Lexeme.separates_of_isBlank rfl
  have hleft : ReadsLike (' ' :: (op.symbol.toList ++ [' ']) ++ value.text.toList ++ [])
      name.toList [⟨.identifier, name, 0⟩] :=
    ReadsApart.lexeme hname.lexeme _ (by simpa using hblank)
  exact hleft.append ((ReadsLike.comparison op).append (ReadsApart.lexeme hvalue _ (by simp)))

/-- The plan of a member of the record that the filter runs on. -/
def TypedPlan.ofMember (m : Member) : TypedPlan :=
  { plan := .member .root m.name, type := .ofDeclared m.type, offset := 0 }

/-- `TypedPlan.ofMember` has the kind of the member without its optional layers. -/
theorem TypedPlan.ofMember_base {m : Member} {d : DeclaredType} (h : m.type.required = d) :
    (ofMember m).type.base = (StaticType.ofDeclared d).base := by
  rw [← h, StaticType.ofDeclared_base_required]
  rfl

/-- The plan of a literal. -/
def TypedPlan.ofLiteral (value : Literal) : TypedPlan :=
  ⟨.const value.value, value.value.staticType, 0, value.source?⟩

/-- `planFilter` plans a comparison of a member with a literal on the member that has the name. -/
private theorem planFilter_memberComparison_iff {plan : Plan} :
    planFilter schema root (.compare op (.path [name] 0) (.literal value 0) 0) = .ok plan ↔
      ∃ m, (schema.recordType root).member? name = some m ∧
        ∃ t, TypedPlan.compare schema op (.ofMember m) (.ofLiteral value) 0 = .ok t ∧
          t.plan = plan := by
  rw [planFilter_eq_ok_iff]
  simp only [elaborate, Except.bind_eq_ok_iff, followPath_cons_eq_ok_iff, Except.ok.injEq,
    Except.pure_eq_ok]
  constructor
  · rintro ⟨t, ⟨_, ⟨_, ⟨_, _, hstep, hend⟩, rfl⟩, _, rfl, ht⟩, -, hplan⟩
    cases hend
    -- the filter runs on a record, so the name is that of a member and no length
    cases hstep with
    | member hbase hm =>
      cases hbase
      exact ⟨_, hm, t, ht, hplan⟩
    | length hbase _ => exact nomatch hbase
  · rintro ⟨m, hm, t, ht, hplan⟩
    -- a comparison is a truth value, so it is a filter
    obtain ⟨_, _, -, -, rfl⟩ := TypedPlan.compare_eq_ok ht
    exact ⟨_, ⟨_, ⟨_, ⟨_, _, .member rfl hm, rfl⟩, rfl⟩, _, rfl, ht⟩, rfl, hplan⟩

/-- A comparison of a member with a literal compiles if `TypedPlan.compare` takes the two. -/
theorem compile_memberComparison_iff (hname : IsMemberName name) (hvalue : value.IsWritable) :
    compile schema root (name ++ " " ++ op.symbol ++ " " ++ value.text) = .ok p ↔
      ∃ m, (schema.recordType root).member? name = some m ∧
        ∃ t, TypedPlan.compare schema op (.ofMember m) (.ofLiteral value) 0 = .ok t ∧
          t.plan = p.plan := by
  -- name, operator and literal derive the comparison
  have hderive : OrExpr
      [⟨.identifier, name, 0⟩, ⟨.comparison op, op.symbol, 0⟩, ⟨value.kind, value.text, 0⟩]
      (.compare op (.path [name] 0) (.literal value 0) 0) :=
    .and (.unary (.compare (.compare (.path (hname.isPath 0)) rfl
      (.literal (value.isLiteral 0)))))
  rw [compile_eq_ok_iff_planFilter (readsLike_memberComparison hname hvalue op) hderive,
    planFilter_memberComparison_iff]

end

/-! ### Constants beside values -/

/-- `convertConstant` of a present constant only asks for a kind. -/
theorem convertConstant_congr {schema : Schema} {v : Scalar} {source : Option String}
    {type type' : StaticType} (hv : v ≠ .null) (h : type.base = type'.base) :
    convertConstant schema v source type = convertConstant schema v source type' := by
  obtain ⟨base, _⟩ := type
  obtain ⟨base', _⟩ := type'
  obtain rfl : base = base' := h
  cases v with
  | null => exact absurd rfl hv
  -- only the constant `null` asks whether the type may be absent
  | _ => cases base <;> rfl

/-- `convertConstant` leaves a present constant of the kind as it is. -/
theorem convertConstant_self {schema : Schema} {v : Scalar} {source : Option String}
    {type : StaticType} (hv : v ≠ .null) (h : type.base = v.staticType.base) :
    convertConstant schema v source type = some v := by
  obtain ⟨base, _⟩ := type
  obtain rfl : base = v.staticType.base := h
  cases v with
  | null => exact absurd rfl hv
  | _ => rfl

/-- `convertConstant` makes a record of no present constant. -/
theorem convertConstant_ne_record {schema : Schema} {v c : Scalar} {source : Option String}
    {type : StaticType} (hv : v ≠ .null) (h : convertConstant schema v source type = some c)
    (id : RecordId) : type.base ≠ .record id := by
  intro hbase
  cases v with
  | null => exact absurd rfl hv
  | _ => simp [convertConstant, hbase] at h

namespace TypedPlan

variable {schema : Schema} {left : TypedPlan} {v c : Scalar} {source : Option String}
  {offset offset' : Nat}

/-- `unify?` makes of a constant beside a value a value of its kind, if that is possible. -/
private theorem unify?_const (hv : v ≠ .null) (hc : convertConstant schema v source left.type = some c)
    (offset : Nat) :
    ∃ right, unify? schema left ⟨.const v, v.staticType, offset, source⟩ =
      some ⟨left, right, left.type.base⟩ ∧ right.plan = .const c := by
  -- the constant has the kind already, or is brought to it
  unfold unify?
  split
  · rename_i hbase
    rw [convertConstant_self hv hbase] at hc
    exact ⟨_, rfl, congrArg Plan.const (Option.some.inj hc)⟩
  · have hcoerce : coerceConstant? schema ⟨.const v, v.staticType, offset, source⟩ left.type =
        some ⟨.const c, if c.isNull then .null else ⟨left.type.base, false⟩, offset, source⟩ := by
      show (convertConstant schema v source left.type).map _ = _
      rw [hc]
      rfl
    rw [hcoerce]
    exact ⟨_, rfl, rfl⟩

/-- `compare` takes a value beside a present constant with what the constant becomes as a value of its
kind, if the operator is defined on that kind. -/
theorem compare_const_eq_ok {op : Comparison} (hleft : left.type.base ≠ .null) (hv : v ≠ .null)
    (hc : convertConstant schema v source left.type = some c)
    (hop : checkBase schema op left.type.base offset = .ok ()) :
    compare schema op left ⟨.const v, v.staticType, offset', source⟩ offset =
      .ok { plan := .compare op left.plan (.const c), type := .bool, offset } := by
  -- a present constant is not the literal `null`
  have hright : v.staticType.base ≠ .null := by
    cases v with
    | null => exact absurd rfl hv
    | _ => exact BaseType.noConfusion
  obtain ⟨right, hunify, hplan⟩ := unify?_const hv hc offset'
  simp [compare, isNull, hleft, hright, hunify, hop, hplan]

/-- A value beside `null` is compared for equality if it may be absent. -/
theorem exists_compare_null_iff {op : Comparison} (hleft : left.type.base ≠ .null)
    (hop : op.isOrdering = false) :
    (∃ t, compare schema op left ⟨.const .null, .null, offset', source⟩ offset = .ok t) ↔
      left.type.nullable = true := by
  cases hnullable : left.type.nullable <;>
    simp [compare, isNull, hleft, StaticType.null, checkNull, hop, hnullable,
      Except.bind_eq_ok_iff]

end TypedPlan

end RecordFilter
