import Mathlib.Data.List.Forall2
import RecordFilter.Plan
import RecordFilter.Proofs.FloatOrder
import RecordFilter.Sample
/-!
# Hosts that keep to a schema

A filter is written against declared types, but the records belong to the host.  `Value.Fits` says
that a value is absent or of a kind, and `Host.Conforms` that the records of a host answer as the
schema declares.  Which records have which type is a relation `R` that answers may not leave:
a record read from a record of a type has the declared type in its turn, around cycles too.

Conversions, comparisons and built-in methods are shown to keep to the kinds of values here, so
that no later proof looks inside them.
-/

namespace RecordFilter

variable {ρ : Type}

/-- The kind of the present values of a declared type. -/
def DeclaredType.base (d : DeclaredType) : BaseType := (StaticType.ofDeclared d).base

namespace Value

/-- The value is absent or of the kind; `R r id` says that the record `r` has the type `id`. -/
def Fits (R : ρ → RecordId → Prop) : Value ρ → BaseType → Prop
  | .null, _ => True
  | .bool _, .bool => True
  | .int _, .int | .int _, .enum _ => True
  | .float _, .float => True
  | .str _, .str => True
  | .record r, .record id => R r id
  | _, _ => False

/-- The value is a double that is not a number. -/
def IsNaN : Value ρ → Prop
  | .float x => x.isNaN = true
  | _ => False

/-- The two values are present, of one kind, and no records. -/
def SameKind : Value ρ → Value ρ → Prop
  | .bool _, .bool _ | .int _, .int _ | .float _, .float _ | .str _, .str _ => True
  | _, _ => False

end Value

/-- The records that `R` gives types answer as the schema declares.  A member must have its
declared type if some name finds it.  A method must give its declared result when it is called
with as many arguments as it has parameters, each of them absent or of the kind of its
parameter. -/
structure Host.Conforms (host : Host ρ) (schema : Schema) (R : ρ → RecordId → Prop) : Prop where
  member : ∀ {r id name m}, R r id → (schema.recordType id).member? name = some m →
    (host.member r m.name).Fits R m.type.base
  invoke : ∀ {r id m args}, R r id → m ∈ (schema.recordType id).methods →
    List.Forall₂ (fun v d => v.Fits R d.base) args m.params →
    (host.invoke r m.name args).Fits R m.returns.base

namespace Value

variable {R : ρ → RecordId → Prop} {v w : Value ρ} {b : BaseType}

/-! ### Values of a kind -/

/-- The literal `null` has no other value. -/
theorem Fits.eq_null (h : v.Fits R .null) : v = null := by
  cases v <;> simp_all [Fits]

/-- `Fits` of a record type holds of the absent value and of the records that have the type. -/
theorem Fits.record_cases {id : RecordId} (h : v.Fits R (.record id)) :
    v = null ∨ ∃ r, v = record r ∧ R r id := by
  cases v <;> simp_all [Fits]

/-- `Fits` of an enumeration holds of integers only. -/
theorem Fits.int_of_enum {id : EnumId} (h : v.Fits R (.enum id)) : v.Fits R .int := by
  cases v <;> simp_all [Fits]

/-- `SameKind` holds of present values that fit one kind, unless they are records. -/
theorem Fits.sameKind (hv : v.Fits R b) (hw : w.Fits R b) (hb : ∀ id, b ≠ .record id)
    (hvn : v ≠ null) (hwn : w ≠ null) : v.SameKind w := by
  cases b with
  -- two records of one type have no order, so they are excluded
  | record id => exact absurd rfl (hb id)
  -- any other kind is one of values with an order
  | _ => cases v <;> cases w <;> simp_all [Fits, SameKind]

/-! ### Operations on values -/

/-- `compareValues` orders values of the same kind, unless one of them is not a number. -/
theorem SameKind.compareValues_eq_none_iff (h : v.SameKind w) :
    compareValues v w = none ↔ v.IsNaN ∨ w.IsNaN := by
  -- only doubles may lack an order
  cases v <;> cases w <;> simp_all [SameKind, compareValues, IsNaN, compareFloats_eq_none_iff]

/-- `toFloat` makes doubles of integers. -/
theorem Fits.toFloat (h : v.Fits R .int) : v.toFloat.Fits R .float := by
  cases v <;> simp_all [Fits, Value.toFloat, asFloat?]

/-- `toFloat` loses no integer. -/
theorem Fits.eq_null_of_toFloat (h : v.Fits R .int) (hv : v.toFloat = null) : v = null := by
  cases v <;> simp_all [Fits, Value.toFloat, asFloat?]

/-- `toText` gives texts, or nothing. -/
theorem fits_toText (v : Value ρ) : v.toText.Fits R .str := by
  cases v <;> trivial

/-- `toText` loses no values but records. -/
theorem Fits.eq_null_of_toText (h : v.Fits R b) (hb : ∀ id, b ≠ .record id)
    (hv : v.toText = null) : v = null := by
  cases v with
  | record r =>
    -- a present record fits only the kinds that are excluded
    cases b <;> simp_all [Fits]
  | _ => simp_all [toText]

end Value

/-! ### Built-in methods -/

namespace Builtin

variable {R : ρ → RecordId → Prop}

/-- `onText` gives texts, or nothing. -/
private theorem onText_fits (target : Value ρ) (f : List Char → List Char) :
    (onText target f).Fits R .str := by
  cases target <;> trivial

/-- `onTexts` gives what the function gives, or nothing. -/
private theorem onTexts_fits (target arg : Value ρ) {f : List Char → List Char → Value ρ}
    {b : BaseType} (hf : ∀ s p, (f s p).Fits R b) : (onTexts target arg f).Fits R b := by
  unfold onTexts
  split
  · exact hf _ _
  · trivial

/-- `Builtin.apply` gives the declared result of the method, or nothing, whatever its target and
arguments are. -/
theorem apply_fits (m : Builtin) (target : Value ρ) (args : List (Value ρ)) :
    (m.apply target args).Fits R m.returns.base := by
  -- the three searches differ only in the question they ask of two texts
  have bool (f : List Char → List Char → Bool) :
      (onTexts target (args.headD .null) fun s p => .bool (f s p)).Fits R .bool :=
    onTexts_fits _ _ fun _ _ => trivial
  cases m with
  | contains => exact bool Text.contains
  | startsWith => exact bool Text.startsWith
  | endsWith => exact bool Text.endsWith
  | equals => trivial
  | indexOf =>
    -- the place of the first occurrence, or minus one
    simp only [apply]
    apply onTexts_fits
    intro s p
    split <;> trivial
  | compareTo =>
    -- an order as an integer, or nothing beside what is absent or has no order
    simp only [apply]
    split
    · trivial
    · split <;> trivial
  | toLower => exact onText_fits _ _
  | toUpper => exact onText_fits _ _
  | trim => exact onText_fits _ _
  | toText => exact target.fits_toText

end Builtin

/-! ### The sample records -/

/-- `member?` finds the only property that matches the name, or the only field when no property does. -/
theorem RecordType.member?_eq_some_iff_matching {t : RecordType} {name : String} {m : Member} :
    t.member? name = some m ↔ t.matching .property name = [m] ∨
      t.matching .property name = [] ∧ t.matching .field name = [m] := by
  unfold member?
  -- one property decides, several are ambiguous, and without any the fields are asked
  split
  · rename_i hproperty
    simp [hproperty]
  · rename_i hproperty
    simp [hproperty]
  · rename_i hproperty
    rw [hproperty]
    split
    · rename_i hfield
      simp [hfield]
    · rename_i hfield
      simpa using hfield m

/-- `member?` finds a member that is the only one of its kind to match the name. -/
private theorem RecordType.exists_matching_of_member? {t : RecordType} {name : String} {m : Member}
    (h : t.member? name = some m) : ∃ kind, t.matching kind name = [m] := by
  obtain h | ⟨-, h⟩ := member?_eq_some_iff_matching.mp h
  · exact ⟨_, h⟩
  · exact ⟨_, h⟩

/-- `member?` finds one of the members of the type. -/
theorem RecordType.mem_of_member? {t : RecordType} {name : String} {m : Member}
    (h : t.member? name = some m) : m ∈ t.members := by
  obtain ⟨kind, hk⟩ := exists_matching_of_member? h
  exact List.mem_of_mem_filter (hk ▸ List.mem_singleton_self m)

/-- `member?` finds a member that has the name but for case. -/
theorem RecordType.sameName_of_member? {t : RecordType} {name : String} {m : Member}
    (h : t.member? name = some m) : Text.sameName m.name name = true := by
  obtain ⟨kind, hk⟩ := exists_matching_of_member? h
  have hmem : m ∈ t.matching kind name := hk ▸ List.mem_singleton_self m
  exact (Bool.and_eq_true_iff.mp (List.mem_filter.mp hmem).2).2

namespace Sample

/-- The record types of the samples. -/
def HasRecordType : Record → RecordId → Prop
  | .person _, id => id = personId
  | .company _, id => id = companyId

/-- A text that may be missing fits its member. -/
private theorem optionalText_fits (s : Option String) : (optionalText s).Fits HasRecordType .str := by
  cases s <;> trivial

/-- A company that may be missing fits its member. -/
private theorem optionalCompany_fits (c : Option Company) :
    (optionalCompany c).Fits HasRecordType (.record companyId) := by
  cases c with
  | none => trivial
  | some c => exact (rfl : companyId = companyId)

/-- `Sample.host` answers as the schema of people and companies declares. -/
theorem host_conforms : host.Conforms schema HasRecordType where
  member := by
    intro r id name m hr hm
    -- there are few members: each is checked, whatever name found it
    replace hm := RecordType.mem_of_member? hm
    revert m
    cases r with
    | person p =>
      cases hr
      show ∀ m ∈ personType.members, _
      simp only [personType, List.forall_mem_cons]
      exact ⟨trivial, trivial, optionalText_fits _, trivial, trivial, trivial,
        optionalCompany_fits _, List.forall_mem_nil _⟩
    | company c =>
      cases hr
      show ∀ m ∈ companyType.members, _
      simp only [companyType, List.forall_mem_cons]
      exact ⟨trivial, trivial, List.forall_mem_nil _⟩
  invoke _ _ _ := trivial

end Sample

end RecordFilter
