import RecordFilter.Proofs.Conformance
import RecordFilter.Proofs.MemberComparison
import RecordFilter.Sample
/-!
# Criteria agree with expressions

A criterion on a member is checked without expression text, and its value is converted on a path of its
own.  Whatever text a criterion can be made of, the expression that compares the member with that text
compiles, and it compares with the constant of the criterion; and a criterion on the absent value can be
made exactly where the comparison with `null` compiles (`criteria_agree`).
-/

namespace RecordFilter

theorem Scalar.isNull_iff {value : Scalar} : value.isNull = true ↔ value = .null := by
  cases value <;> simp [isNull]

namespace Criteria

variable {schema : Schema} {root : RecordId} {type : DeclaredType} {name text : String}
  {value : Scalar} {comparison : CriteriaComparison} {c : Criteria}

/-- `nullType` of a member, the type of a condition on the absent value, has that value exactly if the
member has it. -/
theorem acceptsNull_nullType (d : DeclaredType) : (nullType d).acceptsNull = d.acceptsNull := by
  unfold nullType
  split
  · rename_i hrecord
    -- only records and optional types are records below the optional layers
    cases d with
    | record | optional => rfl
    | _ => exact nomatch hrecord
  · split
    · rename_i hnull
      exact hnull.symm
    · rfl

/-- `Criteria.ofType` keeps what it is given. -/
theorem ofType_eq_ok (h : ofType schema type name value comparison = .ok c) :
    c = ⟨type, name, value, comparison⟩ := by
  unfold ofType at h
  split at h
  · exact nomatch h
  · split at h
    · exact nomatch h
    · split at h
      · exact nomatch h
      · exact (Except.ok.inj h).symm

/-- `ofType` takes the absent value and equality if the name is not blank and the type has the absent
value. -/
private theorem exists_ofType_null_iff :
    (∃ c, ofType schema type name .null .equal = .ok c) ↔
      isBlankName name = false ∧ type.acceptsNull = true := by
  have htext : CriteriaComparison.isTextOnly .equal = false := rfl
  unfold ofType
  simp only [htext, Bool.false_and]
  cases isBlankName name <;> cases type.acceptsNull <;> simp [Scalar.isNull]

/-- `forMember` takes the absent value, or a present one that can be brought to the type of the member.
-/
theorem forMember_eq_ok_iff :
    forMember schema root name value comparison = .ok c ↔
      isBlankName name = false ∧ ∃ m, (schema.recordType root).member? name = some m ∧
        (value = .null ∧ ofType schema (nullType m.type) m.name .null comparison = .ok c ∨
          value ≠ .null ∧ ∃ converted,
            coerceScalar schema value (.ofDeclared m.type.required) = some converted ∧
            ofType schema (valueType m.type) m.name converted comparison = .ok c) := by
  unfold forMember
  -- the checks in their order: the name, the member, the value
  cases hname : isBlankName name with
  | true => simp
  | false =>
    cases hm : (schema.recordType root).member? name with
    | none => simp
    | some m =>
      by_cases hnull : value = .null
      · simp [hnull, Scalar.isNull]
      · have hpresent : value.isNull = false := Bool.eq_false_iff.mpr (mt Scalar.isNull_iff.mp hnull)
        cases hconverted : coerceScalar schema value (.ofDeclared m.type.required) <;>
          simp [hnull, hpresent, hconverted]

/-- The member and the value of what `forMember` makes. -/
theorem forMember_eq_ok (h : forMember schema root name value comparison = .ok c) :
    ∃ m, (schema.recordType root).member? name = some m ∧
      (value = .null ∧ ofType schema (nullType m.type) m.name .null comparison = .ok c ∨
        value ≠ .null ∧ ∃ converted,
          coerceScalar schema value (.ofDeclared m.type.required) = some converted ∧
          ofType schema (valueType m.type) m.name converted comparison = .ok c) :=
  (forMember_eq_ok_iff.mp h).2

/-- `forMember` on a text holds the constant that the text stands for at the type of the member. -/
private theorem forMember_str_eq_ok (h : forMember schema root name (.str text) comparison = .ok c) :
    ∃ m, (schema.recordType root).member? name = some m ∧
      convertConstant schema (inferText text) (some text) (.ofDeclared m.type.required) =
        some c.value := by
  obtain ⟨m, hm, ⟨hnull, -⟩ | ⟨-, converted, hconverted, h⟩⟩ := forMember_eq_ok h
  · exact nomatch hnull
  · rw [ofType_eq_ok h]
    exact ⟨m, hm, hconverted⟩

/-- `forMember` takes the absent value and equality for a member that may be absent. -/
private theorem exists_forMember_null_iff (hname : isBlankName name = false) :
    (∃ c, forMember schema root name .null .equal = .ok c) ↔
      ∃ m, (schema.recordType root).member? name = some m ∧ m.type.acceptsNull = true := by
  unfold forMember
  rw [hname, if_neg Bool.false_ne_true]
  cases hm : (schema.recordType root).member? name with
  | none => simp
  | some m =>
    -- the declared spelling of the name is not blank either
    have hblank : isBlankName m.name = false := by
      rw [isBlankName_eq_of_sameName (RecordType.sameName_of_member? hm), hname]
    have hnull : Scalar.null.isNull = true := rfl
    simp only [hnull, if_true, exists_ofType_null_iff, acceptsNull_nullType, hblank, true_and,
      Option.some.injEq, exists_eq_left']

end Criteria

/-- `inferText` reads no text as the absent value. -/
theorem inferText_ne_null (text : String) : inferText text ≠ .null := by
  unfold inferText
  split
  · exact Scalar.noConfusion
  · split
    · exact Scalar.noConfusion
    · split
      · exact Scalar.noConfusion
      · split <;> exact Scalar.noConfusion

/-- `checkBase` passes equality on all kinds of values but records. -/
private theorem TypedPlan.checkBase_eq_ok {schema : Schema} {base : BaseType} {offset : Nat}
    (h : ∀ id, base ≠ .record id) : checkBase schema .eq base offset = .ok () := by
  cases base with
  | record id => exact absurd rfl (h id)
  | _ => rfl

section

variable {schema : Schema} {root : RecordId} {name text : String} {c : Criteria}

/-- `compile` of the expression for a criterion on a text compares the member with the value of the
criterion. -/
private theorem compile_of_criteria (hname : IsMemberName name) (htext : '"' ∉ text.toList)
    (hc : Criteria.forMember schema root name (.str text) .equal = .ok c) :
    ∃ m, (schema.recordType root).member? name = some m ∧
      compile schema root (name ++ " == \"" ++ text ++ "\"") =
        .ok ⟨.compare .eq (.member .root m.name) (.const c.value)⟩ := by
  obtain ⟨m, hm, hconvert⟩ := Criteria.forMember_str_eq_ok hc
  have hvalue := inferText_ne_null text
  -- criteria drop the optional layers, which the conversion does not look at
  rw [convertConstant_congr hvalue (StaticType.ofDeclared_base_required m.type)] at hconvert
  have hcompare : TypedPlan.compare schema .eq (.ofMember m) (.ofLiteral (.string text)) 0 =
      .ok { plan := .compare .eq (.member .root m.name) (.const c.value), type := .bool,
            offset := 0 } :=
    TypedPlan.compare_const_eq_ok (StaticType.ofDeclared_base_ne_null m.type) hvalue hconvert
      (TypedPlan.checkBase_eq_ok (convertConstant_ne_record hvalue hconvert))
  have hsource : name ++ " == \"" ++ text ++ "\"" =
      name ++ " " ++ Comparison.eq.symbol ++ " " ++ (Literal.string text).text := by
    rw [← String.toList_inj]
    simp [Comparison.symbol, Literal.text]
  refine ⟨m, hm, ?_⟩
  rw [hsource]
  exact (compile_memberComparison_iff hname (Literal.isWritable_string htext)).mpr
    ⟨m, hm, _, hcompare, rfl⟩

/-- The comparison with `null` compiles if the member may be absent. -/
private theorem exists_compile_null_iff (hname : IsMemberName name) :
    (∃ p, compile schema root (name ++ " == null") = .ok p) ↔
      ∃ m, (schema.recordType root).member? name = some m ∧ m.type.acceptsNull = true := by
  have hsource : name ++ " == null" =
      name ++ " " ++ Comparison.eq.symbol ++ " " ++ Literal.null.text := by
    rw [← String.toList_inj]
    simp [Comparison.symbol, Literal.text]
  rw [hsource]
  simp only [compile_memberComparison_iff hname Literal.isWritable_null]
  -- beside `null` only the type of the member counts
  have hcompare (m : Member) :
      (∃ t, TypedPlan.compare schema .eq (.ofMember m) (.ofLiteral .null) 0 = .ok t) ↔
        m.type.acceptsNull = true := by
    rw [← StaticType.ofDeclared_nullable]
    exact TypedPlan.exists_compare_null_iff (StaticType.ofDeclared_base_ne_null m.type) rfl
  constructor
  · rintro ⟨p, m, hm, t, ht, -⟩
    exact ⟨m, hm, (hcompare m).mp ⟨t, ht⟩⟩
  · rintro ⟨m, hm, hnull⟩
    obtain ⟨t, ht⟩ := (hcompare m).mpr hnull
    exact ⟨⟨t.plan⟩, m, hm, t, ht, rfl⟩

/-- Criteria and expressions agree on what a member is compared with.  If a criterion on a text can be
made, then the expression compiles and is true exactly if the member that the name means equals the
value of the criterion; and a criterion on the absent value can be made if and only if the comparison
with `null` compiles. -/
theorem criteria_agree (schema : Schema) (root : RecordId) (hname : IsMemberName name)
    (htext : '"' ∉ text.toList) :
    (∀ c, Criteria.forMember schema root name (.str text) .equal = .ok c →
      ∃ m p, (schema.recordType root).member? name = some m ∧
        compile schema root (name ++ " == \"" ++ text ++ "\"") = .ok p ∧
        ∀ (ρ : Type) (host : Host ρ) (record : ρ),
          p.test host record = Comparison.eq.holds (host.member record m.name) c.value.toValue) ∧
    ((∃ c, Criteria.forMember schema root name .null .equal = .ok c) ↔
      ∃ p, compile schema root (name ++ " == null") = .ok p) := by
  have hblank : isBlankName name = false := by
    -- a name starts with a character that is not blank
    obtain ⟨⟨d, ds, hchars, hd, -⟩, -⟩ := hname.lexeme
    have hnot := Lexeme.not_isBlank_of_continuesName (Lexeme.continuesName_of_startsName hd)
    rw [← Bool.not_eq_true, isBlankName_iff, hchars]
    intro hall
    simp [hall d List.mem_cons_self] at hnot
  constructor
  · intro c hc
    obtain ⟨m, hm, hp⟩ := compile_of_criteria hname htext hc
    exact ⟨m, _, hm, hp, fun _ _ _ => rfl⟩
  · rw [Criteria.exists_forMember_null_iff hblank, exists_compile_null_iff hname]

/-- Managers are asked for by the integer of their role, whatever the case of the member. -/
theorem criteria_agree_of_role_manager :
    Criteria.forMember Sample.schema Sample.personId "role" (.str "Manager") .equal =
      .ok ⟨.int, "Role", .int 1, .equal⟩ ∧
    ∃ p, compile Sample.schema Sample.personId "role == \"Manager\"" = .ok p ∧
      ∀ person : Sample.Person, p.test Sample.host (.person person) =
        Comparison.eq.holds (.int person.role : Value Sample.Record) (.int 1) := by
  have hname : IsMemberName "role" := IsMemberName.iff_lexeme?.mpr ⟨rfl, rfl⟩
  have hc : Criteria.forMember Sample.schema Sample.personId "role" (.str "Manager") .equal =
      .ok ⟨.int, "Role", .int 1, .equal⟩ := rfl
  obtain ⟨m, p, hm, hp, htest⟩ :=
    (criteria_agree Sample.schema Sample.personId hname (by decide)).1 _ hc
  obtain rfl : (⟨"Role", .property, .enum 0⟩ : Member) = m := Option.some.inj hm
  exact ⟨hc, p, hp, fun person => htest _ Sample.host (.person person)⟩

end

end RecordFilter
