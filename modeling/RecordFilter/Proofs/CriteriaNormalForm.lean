import Mathlib.Logic.Function.Iterate
import RecordFilter.Proofs.Operands
import RecordFilter.Proofs.VariantNames
/-!
# Criteria in normal form

Criteria can be made exactly if they are valid (`Criteria.ofType_eq_ok_iff`): the name is not blank,
the absent value is one of the type, and only texts are searched.  Criteria on a member of a record
type are in normal form as well (`Criteria.IsNormal`), whatever was written: they have the declared
name, no enumeration, no optional layer around the type of a present value and one around that of an
absent one.
-/

namespace RecordFilter

/-! ### Optional layers -/

namespace DeclaredType

variable {d inner : DeclaredType}

/-- `required` takes all optional layers away. -/
@[simp] theorem required_iterate_optional (d : DeclaredType) (n : Nat) :
    (optional^[n] d).required = d.required := by
  induction n with
  | zero => rfl
  | succ n ih => rw [Function.iterate_succ_apply', required, ih]

/-- `required` only takes optional layers away: with them, the type is there again. -/
private theorem exists_eq_iterate_optional (d : DeclaredType) : ∃ n, d = optional^[n] d.required := by
  induction d with
  | optional inner ih =>
    obtain ⟨n, hn⟩ := ih
    -- the layer that was taken away is put around the others
    refine ⟨n + 1, ?_⟩
    rw [Function.iterate_succ_apply', required, ← hn]
  | _ => exact ⟨0, rfl⟩

/-- `required` leaves no optional layer. -/
private theorem required_ne_optional (d inner : DeclaredType) : d.required ≠ .optional inner := by
  induction d with
  | optional d ih => exact ih
  | _ => exact DeclaredType.noConfusion

/-- `required` leaves the type around which the layers stand. -/
private theorem required_eq_iff (h : inner.required = inner) :
    d.required = inner ↔ ∃ n, d = optional^[n] inner := by
  constructor
  · rintro rfl
    exact d.exists_eq_iterate_optional
  · rintro ⟨n, rfl⟩
    rw [required_iterate_optional, h]

/-- `acceptsNull` holds of optional types and of records. -/
private theorem acceptsNull_iff :
    d.acceptsNull = true ↔ (∃ inner, d = .optional inner) ∨ ∃ id, d = .record id := by
  cases d <;> simp [acceptsNull]

end DeclaredType

/-- The constant is present, and of the kind of the type. -/
inductive Scalar.IsOfType : Scalar → DeclaredType → Prop where
  | bool {b} : IsOfType (.bool b) .bool
  | int {i} : IsOfType (.int i) .int
  | float {x} : IsOfType (.float x) .float
  | str {s} : IsOfType (.str s) .str

/-! ### Converted constants -/

/-- The constant is present, and stands for a value of the kind; for an enumeration it is the integer of
a variant. -/
inductive Scalar.IsConstantOf (schema : Schema) : Scalar → BaseType → Prop where
  | bool {b} : IsConstantOf schema (.bool b) .bool
  | int {i} : IsConstantOf schema (.int i) .int
  | float {x} : IsConstantOf schema (.float x) .float
  | str {s} : IsConstantOf schema (.str s) .str
  | variant {i id} (h : ((schema.enumType id).nameOf? i).isSome = true) :
      IsConstantOf schema (.int i) (.enum id)

/-- `convertConstant` makes a constant of the kind that is asked for of one that is present. -/
theorem isConstantOf_of_convertConstant {schema : Schema} {v converted : Scalar}
    {source : Option String} {type : StaticType} (hv : v ≠ .null)
    (h : convertConstant schema v source type = some converted) :
    converted.IsConstantOf schema type.base := by
  have hbase := convertConstant_hasBase h
  have hpresent : converted ≠ .null := by
    rwa [ne_eq, ← Scalar.isNull_iff, isNull_of_convertConstant h, Scalar.isNull_iff]
  -- records are never the outcome, and integers of an enumeration have a name in it
  cases hb : type.base with
  | record id => exact absurd hb (convertConstant_ne_record hv h id)
  | enum id =>
    obtain ⟨i, -, hname, rfl⟩ := (convertConstant_enum_iff hv hb).mp h
    exact .variant hname
  | _ =>
    rw [hb] at hbase
    cases converted <;> first | exact absurd rfl hpresent | exact hbase.elim | constructor

namespace Criteria

variable {schema : Schema} {root : RecordId} {type : DeclaredType} {name : String} {value : Scalar}
  {comparison : CriteriaComparison} {c : Criteria} {m : Member}

/-! ### Valid criteria -/

/-- The name is not blank, the absent value is one of an optional type or of records, and only texts
are searched, under any number of optional layers. -/
structure Valid (c : Criteria) : Prop where
  name : ∃ ch ∈ c.name.toList, Text.isBlank ch = false
  null (h : c.value = .null) : (∃ inner, c.type = .optional inner) ∨ ∃ id, c.type = .record id
  search (h : c.comparison ∈ [.contains, .startsWith, .endsWith]) :
    ∃ n, c.type = DeclaredType.optional^[n] .str

/-- `isTextOnly` holds of the searches. -/
private theorem isTextOnly_iff :
    comparison.isTextOnly = true ↔ comparison ∈ [.contains, .startsWith, .endsWith] := by
  cases comparison <;> simp [CriteriaComparison.isTextOnly]

/-- `ofType` succeeds exactly if the condition is `Valid`. -/
theorem ofType_eq_ok_iff :
    ofType schema type name value comparison = .ok c ↔
      c = ⟨type, name, value, comparison⟩ ∧ c.Valid := by
  constructor
  · intro h
    obtain rfl := ofType_eq_ok h
    unfold ofType at h
    -- each check that is passed is one field
    split at h
    · exact nomatch h
    rename_i hname
    split at h
    · exact nomatch h
    rename_i hnull
    split at h
    · exact nomatch h
    rename_i hsearch
    refine ⟨rfl, isBlankName_eq_false_iff.mp (Bool.eq_false_iff.mpr hname), fun hv => ?_, fun hc => ?_⟩
    · rw [← DeclaredType.acceptsNull_iff]
      simpa [Scalar.isNull_iff.mpr hv] using hnull
    · rw [← DeclaredType.required_eq_iff rfl]
      simpa [isTextOnly_iff.mpr hc] using hsearch
  -- and each field passes its check
  · rintro ⟨rfl, hvalid⟩
    have hname : isBlankName name = false := isBlankName_eq_false_iff.mpr hvalid.name
    have hnull : (value.isNull && !type.acceptsNull) = false := by
      rw [Bool.and_eq_false_imp, Scalar.isNull_iff]
      intro hv
      rw [DeclaredType.acceptsNull_iff.mpr (hvalid.null hv), Bool.not_true]
    have hsearch : (comparison.isTextOnly && type.required != .str) = false := by
      rw [Bool.and_eq_false_imp, isTextOnly_iff, bne_eq_false_iff_eq]
      intro hc
      exact (DeclaredType.required_eq_iff rfl).mpr (hvalid.search hc)
    rw [ofType, hname, hnull, hsearch]
    rfl

/-! ### Criteria on members -/

/-- The criteria are in normal form for the member: they have its declared name and no enumeration.
A present value has the kind of the type; for an enumeration it is the integer of a variant.  For
the absent value the type is that of a record, or optional with one layer. -/
structure IsNormal (schema : Schema) (m : Member) (c : Criteria) : Prop where
  name : c.name = m.name
  noEnum (n : Nat) (id : EnumId) : c.type ≠ DeclaredType.optional^[n] (.enum id)
  null (h : c.value = .null) : (∃ id, c.type = .record id) ∨
    ∃ inner, c.type = .optional inner ∧ (∀ d, inner ≠ .optional d) ∧ ∀ id, inner ≠ .record id
  present (h : c.value ≠ .null) : c.value.IsOfType c.type
  variant {n : Nat} {id : EnumId} (hm : m.type = DeclaredType.optional^[n] (.enum id))
    (h : c.value ≠ .null) : ∃ i variant, c.value = .int i ∧ (variant, i) ∈ (schema.enumType id).variants

/-- `required` shows whether a type is an enumeration below its optional layers. -/
private theorem ne_iterate_enum {d : DeclaredType} (h : ∀ id, d.required ≠ .enum id) (n : Nat) (id : EnumId) :
    d ≠ DeclaredType.optional^[n] (.enum id) := by
  rintro rfl
  rw [DeclaredType.required_iterate_optional] at h
  exact h id rfl

/-- `nullType` of a member that may be absent: its record type, or another one with one optional layer.
-/
private theorem nullType_cases {d : DeclaredType} (h : d.acceptsNull = true) :
    (∃ id, nullType d = .record id) ∨ ∃ inner, nullType d = .optional inner ∧
      (inner = .bool ∨ inner = .int ∨ inner = .float ∨ inner = .str) := by
  have hopt := d.required_ne_optional
  unfold nullType valueType
  -- an enumeration is one of integers here
  cases hd : d.required with
  | record id => exact .inl ⟨id, rfl⟩
  | optional inner => exact absurd hd (hopt inner)
  | _ =>
    rw [h]
    exact .inr ⟨_, rfl, by simp⟩

/-- `coerceScalar` converts a present value as a constant that is present. -/
theorem exists_convertConstant_of_coerceScalar {expected : StaticType} {converted : Scalar}
    (hvalue : value ≠ .null) (h : coerceScalar schema value expected = some converted) :
    ∃ v source, v ≠ .null ∧ convertConstant schema v source expected = some converted := by
  cases value with
  -- a text is first read as what it suggests, which is never `null`
  | str text => exact ⟨_, some text, inferText_ne_null text, h⟩
  | null => exact absurd rfl hvalue
  | _ => exact ⟨_, none, hvalue, h⟩

/-- `convertConstant` to the type of a member gives a constant of the type of a condition on it. -/
private theorem isOfType_of_convertConstant {d : DeclaredType} {v converted : Scalar} {source : Option String}
    (hv : v ≠ .null) (h : convertConstant schema v source (.ofDeclared d.required) = some converted) :
    converted.IsOfType (valueType d) := by
  have hkind := isConstantOf_of_convertConstant hv h
  have hopt := d.required_ne_optional
  unfold valueType
  cases hd : d.required with
  | optional inner => exact absurd hd (hopt inner)
  -- constants of an enumeration are integers, and so is the type of a condition on it
  | _ =>
    rw [hd] at hkind
    cases hkind <;> constructor

/-- `convertConstant` to an enumeration gives the integer of a variant. -/
private theorem exists_variant_of_convertConstant {type : StaticType} {v converted : Scalar}
    {source : Option String} {id : EnumId} (hv : v ≠ .null) (htype : type.base = .enum id)
    (h : convertConstant schema v source type = some converted) :
    ∃ i variant, converted = .int i ∧ (variant, i) ∈ (schema.enumType id).variants := by
  obtain ⟨i, -, hname, rfl⟩ := (convertConstant_enum_iff hv htype).mp h
  obtain ⟨variant, hmem⟩ := EnumType.isSome_nameOf?_iff.mp hname
  exact ⟨i, variant, rfl, hmem⟩

/-- `IsNormal` holds of a condition on the absent value of a member. -/
private theorem isNormal_of_null (h : ofType schema (nullType m.type) m.name .null comparison = .ok c) :
    c.IsNormal schema m := by
  obtain ⟨rfl, hvalid⟩ := ofType_eq_ok_iff.mp h
  -- a member that is never absent, such as a bare enumeration, was refused by the check
  have hnull : m.type.acceptsNull = true := by
    rw [← acceptsNull_nullType, DeclaredType.acceptsNull_iff]
    exact hvalid.null rfl
  have habsent {p : Prop} (h : Scalar.null ≠ .null) : p := absurd rfl h
  refine ⟨rfl, ne_iterate_enum fun id => ?_, fun _ => ?_, habsent, fun _ => habsent⟩
  · -- neither a record type nor an optional scalar is an enumeration
    obtain ⟨_, h⟩ | ⟨_, h, rfl | rfl | rfl | rfl⟩ := nullType_cases hnull <;>
    · rw [h]
      exact DeclaredType.noConfusion
  · obtain h | ⟨inner, h, rfl | rfl | rfl | rfl⟩ := nullType_cases hnull
    · exact .inl h
    all_goals exact .inr ⟨_, h, fun _ => DeclaredType.noConfusion, fun _ => DeclaredType.noConfusion⟩

/-- `IsNormal` holds of a condition on a present value of a member. -/
private theorem isNormal_of_present {v converted : Scalar} {source : Option String} (hv : v ≠ .null)
    (hconverted : convertConstant schema v source (.ofDeclared m.type.required) = some converted)
    (h : ofType schema (valueType m.type) m.name converted comparison = .ok c) :
    c.IsNormal schema m := by
  obtain rfl := ofType_eq_ok h
  have htype : converted.IsOfType (valueType m.type) := isOfType_of_convertConstant hv hconverted
  refine ⟨rfl, ne_iterate_enum fun id => ?_, ?_, fun _ => htype, ?_⟩
  -- the type of the condition is that of the constant, so it is no enumeration
  · dsimp only
    generalize valueType m.type = type at htype
    cases htype <;> exact DeclaredType.noConfusion
  · -- a constant of a type is present
    rintro rfl
    exact nomatch htype
  · intro n id hm _
    refine exists_variant_of_convertConstant hv ?_ hconverted
    rw [hm, DeclaredType.required_iterate_optional]
    rfl

end Criteria

/-- Criteria are in normal form.  Those on a given type are `Valid`; those on a member of a record type
are `Valid` too, and `IsNormal` for the member that the name means. -/
theorem criteria_normal (schema : Schema) :
    (∀ type name value comparison c,
      Criteria.ofType schema type name value comparison = .ok c → c.Valid) ∧
    ∀ root name value comparison c,
      Criteria.forMember schema root name value comparison = .ok c →
      c.Valid ∧ ∃ m, (schema.recordType root).member? name = some m ∧ c.IsNormal schema m := by
  constructor
  · intro type name value comparison c h
    exact (Criteria.ofType_eq_ok_iff.mp h).2
  · intro root name value comparison c h
    obtain ⟨m, hm, ⟨-, h⟩ | ⟨hvalue, converted, hconverted, h⟩⟩ := Criteria.forMember_eq_ok h
    · exact ⟨(Criteria.ofType_eq_ok_iff.mp h).2, m, hm, Criteria.isNormal_of_null h⟩
    · obtain ⟨v, source, hv, hconvert⟩ :=
        Criteria.exists_convertConstant_of_coerceScalar hvalue hconverted
      exact ⟨(Criteria.ofType_eq_ok_iff.mp h).2, m, hm, Criteria.isNormal_of_present hv hconvert h⟩

/-- A search for mail addresses of a host is valid; a condition on managers, and one on people
without a mail address, are in normal form. -/
theorem criteria_normal_of_people :
    let search : Criteria := ⟨.optional .str, "Email", .str "@acme.test", .endsWith⟩
    let managers : Criteria := ⟨.int, "Role", .int 1, .equal⟩
    let unreachable : Criteria := ⟨.optional .str, "Email", .null, .equal⟩
    Criteria.ofType Sample.schema (.optional .str) "Email" (.str "@acme.test") .endsWith = .ok search ∧
      Criteria.forMember Sample.schema Sample.personId "role" (.str "manager") .equal = .ok managers ∧
      Criteria.forMember Sample.schema Sample.personId "EMAIL" .null .equal = .ok unreachable ∧
      search.Valid ∧
      managers.Valid ∧ managers.IsNormal Sample.schema ⟨"Role", .property, .enum 0⟩ ∧
      unreachable.Valid ∧
        unreachable.IsNormal Sample.schema ⟨"Email", .property, .optional .str⟩ := by
  intro search managers unreachable
  have hsearch : Criteria.ofType Sample.schema (.optional .str) "Email" (.str "@acme.test") .endsWith =
      .ok search := rfl
  have hmanagers : Criteria.forMember Sample.schema Sample.personId "role" (.str "manager") .equal =
      .ok managers := rfl
  have hunreachable : Criteria.forMember Sample.schema Sample.personId "EMAIL" .null .equal =
      .ok unreachable := rfl
  obtain ⟨hvalid, hnormal⟩ := criteria_normal Sample.schema
  obtain ⟨hm, _, hrole, hmn⟩ := hnormal _ _ _ _ _ hmanagers
  obtain ⟨hu, _, hmail, hun⟩ := hnormal _ _ _ _ _ hunreachable
  obtain rfl := Option.some.inj hrole
  obtain rfl := Option.some.inj hmail
  exact ⟨hsearch, hmanagers, hunreachable, hvalid _ _ _ _ _ hsearch, hm, hmn, hu, hun⟩

end RecordFilter
