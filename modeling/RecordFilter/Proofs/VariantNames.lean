import RecordFilter.Proofs.TextConstants
/-!
# Variants by name

A text beside a member of an enumeration is first read as what it suggests.  Only if that is a text is
it looked up among the names of the variants: an expression compares the member with an integer, or with
the integer of the variant that a text names (`TypedPlan.compare_enum_eq_ok_iff`), and criteria accept
the same, integers only if a variant has them (`Criteria.forMember_enum_iff`).  So the name of a variant
stands for its integer unless the name reads as something else (`variant_addressed_iff`).
-/

namespace RecordFilter

/-- `nameOf?` finds a name for the integers of variants. -/
theorem EnumType.isSome_nameOf?_iff {e : EnumType} {v : Int64} :
    (e.nameOf? v).isSome = true ↔ ∃ name, (name, v) ∈ e.variants := by
  rw [nameOf?, Option.isSome_map, List.find?_isSome]
  simp

/-- `nameOf?` finds a name for an integer that `valueOf?` finds for a name. -/
private theorem EnumType.isSome_nameOf?_of_valueOf? {e : EnumType} {text : String} {v : Int64}
    (h : e.valueOf? text = some v) : (e.nameOf? v).isSome = true := by
  obtain ⟨variant, hfind, rfl⟩ := Option.map_eq_some_iff.mp h
  exact isSome_nameOf?_iff.mpr ⟨variant.1, List.mem_of_find?_eq_some hfind⟩

/-- The integer that a value stands for beside an enumeration: itself, or that of the variant that it
names. -/
inductive EnumType.Reads (e : EnumType) : Scalar → Int64 → Prop where
  | int {i} : Reads e (.int i) i
  | name {s i} (h : e.valueOf? s = some i) : Reads e (.str s) i

theorem EnumType.Reads.unique {e : EnumType} {v : Scalar} {i j : Int64} (h : e.Reads v i)
    (h' : e.Reads v j) : i = j := by
  cases h with
  | int =>
    cases h'
    rfl
  | name h =>
    cases h' with
    | name h' => exact Option.some.inj (h.symm.trans h')

/-! ### Expressions -/

section

variable {schema : Schema} {root : RecordId} {id : EnumId} {v : Scalar} {source : Option String}

/-- `convertConstant` to an enumeration takes the integers of variants and their names. -/
theorem convertConstant_enum_iff {type : StaticType} {c : Scalar} (hv : v ≠ .null)
    (htype : type.base = .enum id) :
    convertConstant schema v source type = some c ↔
      ∃ i, (schema.enumType id).Reads v i ∧ ((schema.enumType id).nameOf? i).isSome = true ∧
        c = .int i := by
  obtain ⟨base, nullable⟩ := type
  obtain rfl : base = .enum id := htype
  cases v with
  | null => exact absurd rfl hv
  | bool | float =>
    -- no truth value and no double stands for an integer
    refine iff_of_false (fun h => by cases h) ?_
    rintro ⟨i, hreads, -⟩
    cases hreads
  | int i =>
    -- an integer is kept if some variant has it
    simp only [convertConstant, Option.map_eq_some_iff, Option.isSome_iff_exists]
    constructor
    · rintro ⟨name, hname, rfl⟩
      exact ⟨i, .int, ⟨name, hname⟩, rfl⟩
    · rintro ⟨_, hreads, ⟨name, hname⟩, rfl⟩
      cases hreads
      exact ⟨name, hname, rfl⟩
  | str s =>
    -- a text is looked up among the names, and what is found there is the integer of a variant
    simp only [convertConstant, Option.map_eq_some_iff]
    constructor
    · rintro ⟨i, hi, rfl⟩
      exact ⟨i, .name hi, EnumType.isSome_nameOf?_of_valueOf? hi, rfl⟩
    · rintro ⟨i, hreads, -, rfl⟩
      cases hreads with
      | name hi => exact ⟨i, hi, rfl⟩

/-- `unify?` makes of a constant beside a value of an enumeration the integer of a variant, or leaves an
integer. -/
private theorem TypedPlan.unify?_enum {left : TypedPlan} {offset : Nat} (hleft : left.isConstant = false)
    (hbase : left.type.base = .enum id) (hv : v ≠ .null) :
    unify? schema left ⟨.const v, v.staticType, offset, source⟩ =
      match convertConstant schema v source left.type, v with
      | some c, _ =>
        some ⟨left, ⟨.const c, ⟨.enum id, false⟩, offset, source⟩, .enum id⟩
      | none, .int i => some ⟨left, ⟨.const (.int i), ⟨.int, false⟩, offset, source⟩, .int⟩
      | none, _ => none := by
  -- the kinds differ, so the constant is converted; only if that fails can it stand beside an
  -- enumeration as an integer
  have hne : left.type.base ≠ v.staticType.base := by
    rw [hbase]
    cases v <;> exact BaseType.noConfusion
  have hcoerce : coerceConstant? schema ⟨.const v, v.staticType, offset, source⟩ left.type =
      (convertConstant schema v source left.type).map fun c =>
        ⟨.const c, if c.isNull then .null else ⟨left.type.base, false⟩, offset, source⟩ := rfl
  -- the left operand is computed and cannot be converted to the kind of the constant
  have hleftConst : left.coerceConstant? schema v.staticType = none := by
    rw [coerceConstant?, hleft]
    rfl
  unfold unify?
  rw [if_neg hne, hcoerce, hleftConst]
  cases hc : convertConstant schema v source left.type with
  | some c =>
    obtain ⟨i, -, -, rfl⟩ := (convertConstant_enum_iff hv hbase).mp hc
    simp [Scalar.isNull, hbase]
  | none =>
    cases v with
    | null => exact absurd rfl hv
    | _ => simp [promote?, hbase, Scalar.staticType, StaticType.bool]

/-- `compare` takes a value of an enumeration beside a constant with the integer that the constant
stands for.  An integer of no variant is compared as well: enumerations stand beside integers as such.
-/
theorem TypedPlan.compare_enum_eq_ok_iff {left t : TypedPlan} {offset offset' : Nat}
    (hleft : left.isConstant = false) (hbase : left.type.base = .enum id) (hv : v ≠ .null) :
    compare schema .eq left ⟨.const v, v.staticType, offset', source⟩ offset = .ok t ↔
      ∃ i, (schema.enumType id).Reads v i ∧
        { plan := .compare .eq left.plan (.const (.int i)), type := .bool, offset } = t := by
  have hnull : (left.isNull || isNull ⟨.const v, v.staticType, offset', source⟩) = false := by
    rw [isNull, hbase]
    cases v <;> first | exact absurd rfl hv | rfl
  unfold compare
  rw [hnull, if_neg Bool.false_ne_true, unify?_enum hleft hbase hv]
  cases hc : convertConstant schema v source left.type with
  | some c =>
    obtain ⟨i, hreads, -, rfl⟩ := (convertConstant_enum_iff hv hbase).mp hc
    show Except.ok _ = Except.ok t ↔ _
    rw [Except.ok.injEq]
    constructor
    · exact fun h => ⟨i, hreads, h⟩
    · rintro ⟨j, hreads', rfl⟩
      rw [hreads.unique hreads']
  | none =>
    cases v with
    | int i =>
      show Except.ok _ = Except.ok t ↔ _
      rw [Except.ok.injEq]
      constructor
      · exact fun h => ⟨i, .int, h⟩
      · rintro ⟨j, hreads, rfl⟩
        cases hreads
        rfl
    | null => exact absurd rfl hv
    | bool | float =>
      -- neither converts to the enumeration, nor stands beside an integer
      refine iff_of_false (fun h => by cases h) ?_
      rintro ⟨j, hreads, -⟩
      cases hreads
    | str s =>
      -- a variant that has the name would have been found by the conversion
      refine iff_of_false (fun h => by cases h) ?_
      rintro ⟨j, hreads, -⟩
      cases hreads with
      | name h =>
        have hsome : convertConstant schema (.str s) source left.type = some (.int j) :=
          (convertConstant_enum_iff hv hbase).mpr
            ⟨j, .name h, EnumType.isSome_nameOf?_of_valueOf? h, rfl⟩
        rw [hc] at hsome
        cases hsome

/-! ### Criteria -/

variable {m : Member} {name text : String}

/-- `isBlankName` fails for the name of a member: it starts with a letter or an underscore. -/
private theorem IsMemberName.isBlankName_eq (h : IsMemberName name) : isBlankName name = false := by
  obtain ⟨⟨c, cs, hchars, hc, -⟩, -⟩ := h.lexeme
  have hnot := Lexeme.not_isBlank_of_continuesName (Lexeme.continuesName_of_startsName hc)
  rw [isBlankName_eq_false_iff, hchars]
  exact ⟨c, List.mem_cons_self, hnot⟩

/-- `forMember` on a member of an enumeration holds the integer of a variant that the text stands for.
-/
theorem Criteria.forMember_enum_iff {c : Criteria} (hname : isBlankName name = false)
    (hm : (schema.recordType root).member? name = some m) (htype : m.type.required = .enum id) :
    forMember schema root name (.str text) .equal = .ok c ↔
      ∃ i, (schema.enumType id).Reads (inferText text) i ∧
        ((schema.enumType id).nameOf? i).isSome = true ∧ ⟨.int, m.name, .int i, .equal⟩ = c := by
  have hbase : (StaticType.ofDeclared m.type.required).base = .enum id := by rw [htype]; rfl
  have hconvert {d : Scalar} :
      convertConstant schema (inferText text) (some text) (.ofDeclared m.type.required) = some d ↔
        ∃ i, (schema.enumType id).Reads (inferText text) i ∧
          ((schema.enumType id).nameOf? i).isSome = true ∧ d = .int i :=
    convertConstant_enum_iff (inferText_ne_null text) hbase
  -- the criteria hold the name as it is declared, which is blank no more than the one that was asked
  -- for
  have hblank : isBlankName m.name = false := by
    rw [isBlankName_eq_of_sameName (RecordType.sameName_of_member? hm), hname]
  have hvalueType : valueType m.type = .int := by rw [valueType, htype]
  unfold forMember
  simp only [hname, Bool.false_eq_true, if_false, hm, Scalar.isNull, coerceScalar, hvalueType]
  cases hd : convertConstant schema (inferText text) (some text) (.ofDeclared m.type.required) with
  | none =>
    refine iff_of_false (fun h => by cases h) ?_
    rintro ⟨i, hreads, hvariant, -⟩
    rw [hconvert.mpr ⟨i, hreads, hvariant, rfl⟩] at hd
    cases hd
  | some d =>
    obtain ⟨i, hreads, hvariant, rfl⟩ := hconvert.mp hd
    -- the type is that of integers, and no comparison of texts is asked for
    have hok : ofType schema .int m.name (.int i) .equal = .ok ⟨.int, m.name, .int i, .equal⟩ := by
      simp [ofType, hblank, Scalar.isNull, CriteriaComparison.isTextOnly]
    dsimp only
    rw [hok, Except.ok.injEq]
    constructor
    · exact fun h => ⟨i, hreads, hvariant, h⟩
    · rintro ⟨j, hreads', -, rfl⟩
      rw [hreads.unique hreads']

/-! ### Names of variants -/

/-- `Reads` holds of a name of a variant and its integer if the name is read as a text, or as that
integer. -/
private theorem EnumType.reads_inferText_iff {e : EnumType} {i : Int64} (h : e.valueOf? text = some i) :
    e.Reads (inferText text) i ↔ inferText text = .str text ∨ inferText text = .int i := by
  constructor
  · intro hreads
    -- a text that is inferred is the text itself
    generalize hvalue : inferText text = value at hreads
    cases hreads with
    | int => exact .inr rfl
    | name _ => exact .inl (by rw [inferText_eq_str hvalue])
  · rintro (htext | hint)
    · rw [htext]
      exact .name h
    · rw [hint]
      exact .int

/-- Among the records whose member is absent or an integer, the filter holds of those with the given
integer. -/
def Predicate.SelectsInt (p : Predicate) (member : String) (i : Int64) : Prop :=
  ∀ (ρ : Type) (host : Host ρ) (record : ρ),
    (host.member record member = .null ∨ ∃ j, host.member record member = .int j) →
    (p.test host record = true ↔ host.member record member = .int i)

/-- `SelectsInt` holds of the comparison of a member with that integer only. -/
private theorem Predicate.selectsInt_iff {member : String} {i j : Int64} :
    (Predicate.mk (.compare .eq (.member .root member) (.const (.int i)))).SelectsInt member j ↔
      i = j := by
  have htest {ρ : Type} (host : Host ρ) (record : ρ) :
      (Predicate.mk (.compare .eq (.member .root member) (.const (.int i)))).test host record =
        Comparison.eq.holds (host.member record member) (.int i) := rfl
  have hint {ρ : Type} (k : Int64) :
      Comparison.eq.holds (.int k : Value ρ) (.int i) = true ↔ k = i := by
    show (compare k.toInt i.toInt == .eq) = true ↔ _
    rw [beq_iff_eq, Std.LawfulEqOrd.compare_eq_iff_eq, Int64.toInt_inj]
  constructor
  · -- a record that holds `i` passes
    intro h
    let host : Host Unit := ⟨fun _ _ => .int i, fun _ _ _ => .null⟩
    have hpass := (h Unit host () (.inr ⟨i, rfl⟩)).mp ((htest host ()).trans ((hint i).mpr rfl))
    exact Value.int.inj hpass
  · rintro rfl ρ host record hmember
    rw [htest]
    -- an absent member is neither equal to the integer nor the integer
    rcases hmember with hnull | ⟨k, hk⟩
    · rw [hnull]
      exact iff_of_false Bool.false_ne_true (fun h => by cases h)
    · rw [hk, hint, Value.int.injEq]

/-- `compile` of a comparison of a member of an enumeration with a text compares it with an integer that
the text stands for. -/
private theorem compile_enumComparison_iff {p : Predicate} (hname : IsMemberName name)
    (htext : '"' ∉ text.toList) (hm : (schema.recordType root).member? name = some m)
    (htype : m.type.required = .enum id) :
    compile schema root (name ++ " == \"" ++ text ++ "\"") = .ok p ↔
      ∃ i, (schema.enumType id).Reads (inferText text) i ∧
        p = ⟨.compare .eq (.member .root m.name) (.const (.int i))⟩ := by
  have hsource : name ++ " == \"" ++ text ++ "\"" =
      name ++ " " ++ Comparison.eq.symbol ++ " " ++ (Literal.string text).text := by
    rw [← String.toList_inj]
    simp [Comparison.symbol, Literal.text]
  have hbase : (TypedPlan.ofMember m).type.base = .enum id := TypedPlan.ofMember_base htype
  have hcompare {t : TypedPlan} :
      TypedPlan.compare schema .eq (.ofMember m) (.ofLiteral (.string text)) 0 = .ok t ↔
        ∃ i, (schema.enumType id).Reads (inferText text) i ∧
          { plan := .compare .eq (.member .root m.name) (.const (.int i)), type := .bool,
            offset := 0 } = t :=
    TypedPlan.compare_enum_eq_ok_iff rfl hbase (inferText_ne_null text)
  rw [hsource, compile_memberComparison_iff hname (Literal.isWritable_string htext)]
  constructor
  · rintro ⟨m', hm', t, ht, hplan⟩
    obtain rfl : m = m' := Option.some.inj (hm.symm.trans hm')
    obtain ⟨i, hreads, rfl⟩ := hcompare.mp ht
    exact ⟨i, hreads, by rw [Predicate.mk.injEq, ← hplan]⟩
  · rintro ⟨i, hreads, rfl⟩
    exact ⟨m, hm, _, hcompare.mpr ⟨i, hreads, rfl⟩, rfl⟩

/-- The name of a variant stands for the integer of the variant, beside a member of the enumeration and
in a criterion on it, unless the name reads as something else than a text: a name that reads as a truth
value, as a number with a fraction or as another integer does not. -/
theorem variant_addressed_iff {i : Int64} (hname : IsMemberName name)
    (hm : (schema.recordType root).member? name = some m) (htype : m.type.required = .enum id)
    (htext : '"' ∉ text.toList) (hvariant : (schema.enumType id).valueOf? text = some i) :
    ((∃ p, compile schema root (name ++ " == \"" ++ text ++ "\"") = .ok p ∧ p.SelectsInt m.name i) ↔
      inferText text = .str text ∨ inferText text = .int i) ∧
    ((∃ c, Criteria.forMember schema root name (.str text) .equal = .ok c ∧ c.value = .int i ∧
        c.type = .int) ↔
      inferText text = .str text ∨ inferText text = .int i) := by
  rw [← EnumType.reads_inferText_iff hvariant]
  constructor
  · constructor
    · rintro ⟨p, hp, hselects⟩
      obtain ⟨j, hreads, rfl⟩ := (compile_enumComparison_iff hname htext hm htype).mp hp
      -- records with the integer pass only if the comparison is with that integer
      rwa [Predicate.selectsInt_iff.mp hselects] at hreads
    · intro hreads
      exact ⟨_, (compile_enumComparison_iff hname htext hm htype).mpr ⟨i, hreads, rfl⟩,
        Predicate.selectsInt_iff.mpr rfl⟩
  · constructor
    · rintro ⟨c, hc, hvalue, -⟩
      obtain ⟨j, hreads, -, rfl⟩ :=
        (Criteria.forMember_enum_iff hname.isBlankName_eq hm htype).mp hc
      rwa [Scalar.int.inj hvalue] at hreads
    · intro hreads
      exact ⟨_, (Criteria.forMember_enum_iff hname.isBlankName_eq hm htype).mpr
        ⟨i, hreads, EnumType.isSome_nameOf?_of_valueOf? hvariant, rfl⟩, rfl, rfl⟩

/-- A manager is found by the name of the role, in any case. -/
theorem variant_addressed_iff_of_manager :
    IsMemberName "role" ∧
      (Sample.schema.recordType Sample.personId).member? "role" =
        some ⟨"Role", .property, .enum 0⟩ ∧
      '"' ∉ "manager".toList ∧ Sample.roles.valueOf? "manager" = some 1 ∧
      (∃ p, compile Sample.schema Sample.personId "role == \"manager\"" = .ok p ∧
        p.SelectsInt "Role" 1) ∧
      ∃ c, Criteria.forMember Sample.schema Sample.personId "role" (.str "manager") .equal = .ok c ∧
        c.value = .int 1 ∧ c.type = .int := by
  have hname : IsMemberName "role" := IsMemberName.iff_lexeme?.mpr ⟨rfl, rfl⟩
  have hm : (Sample.schema.recordType Sample.personId).member? "role" =
      some ⟨"Role", .property, .enum 0⟩ := rfl
  have htext : '"' ∉ "manager".toList := by decide
  have hvariant : Sample.roles.valueOf? "manager" = some 1 := rfl
  have hreads : inferText "manager" = .str "manager" ∨ inferText "manager" = .int 1 := .inl rfl
  obtain ⟨hcompile, hcriteria⟩ := variant_addressed_iff hname hm rfl htext hvariant
  exact ⟨hname, hm, htext, hvariant, hcompile.mpr hreads, hcriteria.mpr hreads⟩

/-- Not every variant is found by its name: `True` beside a member with the variants `False` and `True`
is a truth value. -/
theorem not_forall_variant_addressed :
    ¬ ∀ (schema : Schema) (root : RecordId) (name text : String) (m : Member) (id : EnumId)
        (i : Int64), IsMemberName name → (schema.recordType root).member? name = some m →
      m.type.required = .enum id → '"' ∉ text.toList →
      (schema.enumType id).valueOf? text = some i →
      (∃ p, compile schema root (name ++ " == \"" ++ text ++ "\"") = .ok p ∧ p.SelectsInt m.name i) ∧
        ∃ c, Criteria.forMember schema root name (.str text) .equal = .ok c ∧ c.value = .int i ∧
          c.type = .int := by
  intro h
  let schema : Schema := .ofLists [⟨"Answer", [("False", 0), ("True", 1)]⟩]
    [⟨"Vote", [⟨"Choice", .property, .enum 0⟩], []⟩]
  have hname : IsMemberName "Choice" :=
    IsMemberName.iff_lexeme?.mpr ⟨by decide +kernel, by decide +kernel⟩
  have htext : '"' ∉ "True".toList := by decide
  have hm : (schema.recordType 0).member? "Choice" = some ⟨"Choice", .property, .enum 0⟩ := by
    decide +kernel
  have hvariant : (schema.enumType 0).valueOf? "True" = some 1 := by decide +kernel
  have hvalue : inferText "True" = .bool true := by decide +kernel
  obtain ⟨⟨p, hp, -⟩, -⟩ := h schema 0 "Choice" "True" _ 0 1 hname hm rfl htext hvariant
  obtain ⟨i, hreads, -⟩ := (compile_enumComparison_iff hname htext hm rfl).mp hp
  -- a truth value is read as no integer at all
  rw [hvalue] at hreads
  cases hreads

end

end RecordFilter
