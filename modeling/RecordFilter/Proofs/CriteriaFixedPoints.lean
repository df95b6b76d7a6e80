import RecordFilter.Proofs.CriteriaNormalForm
import RecordFilter.Proofs.NameResolution
/-!
# Criteria are made once

Criteria that are made again, from their own name, value and relation, are the same
(`forMember_idempotent`).  The declared name of a member means that member
(`RecordType.member?_name`), and a constant of the kind of the member is kept when it is converted
again (`Scalar.IsConstantOf.coerceScalar_eq`): a text stays a text even if it reads as a number, and a
variant stays the integer that its name was read as.
-/

namespace RecordFilter

/-- `member?` finds a member that some name finds by its own name too. -/
theorem RecordType.member?_name {t : RecordType} {name : String} {m : Member}
    (h : t.member? name = some m) : t.member? m.name = some m := by
  rw [member?_eq_of_sameName (sameName_of_member? h), h]

/-- `coerceScalar` gives a constant of the kind that is asked for back. -/
theorem Scalar.IsConstantOf.coerceScalar_eq {schema : Schema} {value : Scalar} {type : StaticType}
    (h : value.IsConstantOf schema type.base) : coerceScalar schema value type = some value := by
  obtain ⟨base, nullable⟩ := type
  cases h with
  | bool | int | float => rfl
  | @str text =>
    -- the text is first read as what it suggests, and then becomes itself again
    have hsource : (Literal.string text).source? = some text := rfl
    exact Literal.convertConstant_text schema hsource rfl
  | variant hname =>
    obtain ⟨name, hname⟩ := Option.isSome_iff_exists.mp hname
    simp [coerceScalar, convertConstant, hname]

/-- `coerceScalar` leaves what it gives as it is. -/
private theorem coerceScalar_coerceScalar {schema : Schema} {value converted : Scalar} {type : StaticType}
    (hvalue : value ≠ .null) (h : coerceScalar schema value type = some converted) :
    converted ≠ .null ∧ coerceScalar schema converted type = some converted := by
  obtain ⟨v, source, hv, hconvert⟩ :=
    Criteria.exists_convertConstant_of_coerceScalar hvalue h
  have hkind := isConstantOf_of_convertConstant hv hconvert
  refine ⟨?_, hkind.coerceScalar_eq⟩
  rintro rfl
  exact nomatch hkind

/-- Criteria on a member ask for the relation that was asked for, and their name means the member that
was meant.  Made again from their own name, value and relation they are the same. -/
theorem forMember_idempotent {schema : Schema} {root : RecordId} {name : String} {value : Scalar}
    {comparison : CriteriaComparison} {c : Criteria}
    (h : Criteria.forMember schema root name value comparison = .ok c) :
    c.comparison = comparison ∧
      (schema.recordType root).member? c.name = (schema.recordType root).member? name ∧
      Criteria.forMember schema root c.name c.value c.comparison = .ok c := by
  obtain ⟨-, m, hm, hcase⟩ := Criteria.forMember_eq_ok_iff.mp h
  have hself := RecordType.member?_name hm
  simp only [Criteria.forMember_eq_ok_iff]
  obtain ⟨-, hnull⟩ | ⟨hvalue, converted, hconverted, hpresent⟩ := hcase
  · -- the absent value is left, and the type again the one of the member for it
    obtain ⟨rfl, hvalid⟩ := Criteria.ofType_eq_ok_iff.mp hnull
    have hname := isBlankName_eq_false_iff.mpr hvalid.name
    exact ⟨rfl, hself.trans hm.symm, hname, m, hself, .inl ⟨rfl, hnull⟩⟩
  · obtain ⟨rfl, hvalid⟩ := Criteria.ofType_eq_ok_iff.mp hpresent
    have hname := isBlankName_eq_false_iff.mpr hvalid.name
    obtain ⟨hne, hagain⟩ := coerceScalar_coerceScalar hvalue hconverted
    exact ⟨rfl, hself.trans hm.symm, hname, m, hself, .inr ⟨hne, converted, hagain, hpresent⟩⟩

/-- A role that was given by its name, an age that was given as a text, names that read as a truth value
and as a number, a salary that is not a number, and a missing mail address. -/
theorem forMember_idempotent_of_people :
    let remade (name : String) (value : Scalar) (c : Criteria) : Prop :=
      Criteria.forMember Sample.schema Sample.personId name value c.comparison = .ok c ∧
        Criteria.forMember Sample.schema Sample.personId c.name c.value c.comparison = .ok c
    remade "role" (.str "manager") ⟨.int, "Role", .int 1, .equal⟩ ∧
      remade "AGE" (.str "18") ⟨.int, "Age", .int 18, .greaterThanOrEqual⟩ ∧
      remade "name" (.str "TRUE") ⟨.str, "Name", .str "TRUE", .notEqual⟩ ∧
      remade "name" (.str "007") ⟨.str, "Name", .str "007", .endsWith⟩ ∧
      remade "salary" (.float (0 / 0)) ⟨.float, "Salary", .float (0 / 0), .equal⟩ ∧
      remade "email" .null ⟨.optional .str, "Email", .null, .equal⟩ := by
  intro remade
  have of_made {name : String} {value : Scalar} {c : Criteria}
      (h : Criteria.forMember Sample.schema Sample.personId name value c.comparison = .ok c) :
      remade name value c :=
    ⟨h, (forMember_idempotent h).2.2⟩
  exact ⟨of_made rfl, of_made rfl, of_made rfl, of_made rfl, of_made rfl, of_made rfl⟩

end RecordFilter
