import RecordFilter.Proofs.Conformance
/-!
# Types of plans

Running a plan never fails: what has the wrong kind is silently absent.  `Plan.HasType` is the
discipline under which this does not happen.  A plan of a type has values of that type on every
host that conforms to the schema (`HasType.fits`), and so have all the plans inside it
(`HasType.of_within`).  Two consequences are drawn from the latter: conversions lose nothing,
and values that are compared are of one kind.
-/

namespace RecordFilter

/-- The method exists on targets of the declared type. -/
def Builtin.AppliesTo (m : Builtin) (d : DeclaredType) : Prop :=
  (d = .bool ∨ d = .int ∨ d = .float ∨ d = .str) ∧ (m.isTextOnly = true → d = .str)

/-- `AppliesTo` holds of no records. -/
theorem Builtin.AppliesTo.base_ne_record {m : Builtin} {d : DeclaredType} (h : m.AppliesTo d)
    (id : RecordId) : d.base ≠ .record id := by
  obtain ⟨rfl | rfl | rfl | rfl, -⟩ := h <;> exact BaseType.noConfusion

/-- Values of the two kinds can be compared: they are of one kind and no records, or one of them
is the literal `null`. -/
def BaseType.ComparesWith (b c : BaseType) : Prop :=
  b = .null ∨ c = .null ∨ (b = c ∧ ∀ id, b ≠ .record id)

/-- The constant is absent or of the kind. -/
def Scalar.HasBase : Scalar → BaseType → Prop
  | .null, _ => True
  | .bool _, .bool => True
  | .int _, .int | .int _, .enum _ => True
  | .float _, .float => True
  | .str _, .str => True
  | _, _ => False

namespace Plan

/-! ### The typing rules -/

mutual

/-- The plan runs on records of the type `root` and has values of the kind. -/
inductive HasType (schema : Schema) (root : RecordId) : Plan → BaseType → Prop where
  | const {value b} (hv : value.HasBase b) : HasType schema root (.const value) b
  | root : HasType schema root .root (.record root)
  | member {target id name m} (ht : HasType schema root target (.record id))
      (hm : (schema.recordType id).member? name = some m) :
      HasType schema root (.member target m.name) m.type.base
  | length {target} (ht : HasType schema root target .str) : HasType schema root (.length target) .int
  | and {left right} (hl : HasType schema root left .bool) (hr : HasType schema root right .bool) :
      HasType schema root (.and left right) .bool
  | or {left right} (hl : HasType schema root left .bool) (hr : HasType schema root right .bool) :
      HasType schema root (.or left right) .bool
  | not {operand} (ho : HasType schema root operand .bool) : HasType schema root (.not operand) .bool
  | compare {op left right b c} (hl : HasType schema root left b) (hr : HasType schema root right c)
      (hbc : b.ComparesWith c) : HasType schema root (.compare op left right) .bool
  | builtin {m d target args} (ht : HasType schema root target d.base) (hd : m.AppliesTo d)
      (ha : HaveTypes schema root args (m.params d)) :
      HasType schema root (.builtin m target args) m.returns.base
  | invoke {m id target args} (ht : HasType schema root target (.record id))
      (hm : m ∈ (schema.recordType id).methods) (ha : HaveTypes schema root args m.params) :
      HasType schema root (.invoke target m.name args) m.returns.base
  | toFloat {operand} (ho : HasType schema root operand .int) :
      HasType schema root (.convert .toFloat operand) .float
  | toText {operand b} (ho : HasType schema root operand b) (hb : ∀ id, b ≠ .record id) :
      HasType schema root (.convert .toText operand) .str
  | enumAsInt {p id} (hp : HasType schema root p (.enum id)) : HasType schema root p .int

/-- The plans have values of the kinds of the declared types, in their order. -/
inductive HaveTypes (schema : Schema) (root : RecordId) : List Plan → List DeclaredType → Prop where
  | nil : HaveTypes schema root [] []
  | cons {p ps d ds} (hp : HasType schema root p d.base) (hps : HaveTypes schema root ps ds) :
      HaveTypes schema root (p :: ps) (d :: ds)

end

/-! ### Soundness -/

section

variable {ρ : Type} {schema : Schema} {root : RecordId} {host : Host ρ} {R : ρ → RecordId → Prop}
  {record : ρ}

/-- `Scalar.toValue` of a constant of a kind fits the kind. -/
private theorem fits_toValue {value : Scalar} {b : BaseType} (h : value.HasBase b) :
    (value.toValue : Value ρ).Fits R b := by
  cases value <;> cases b <;> simp_all [Scalar.HasBase, Scalar.toValue, Value.Fits]

mutual

/-- `HasType` plans have values of their type.  The induction follows the typing rules. -/
theorem HasType.fits {p : Plan} {b : BaseType} (h : HasType schema root p b)
    (hhost : host.Conforms schema R) (hrec : R record root) : (p.value host record).Fits R b := by
  match h with
  | .const hv => exact fits_toValue hv
  | .root => exact hrec
  | .member ht hm =>
    -- an absent target has absent members, a present one is a record that the host knows
    simp only [value]
    rcases (ht.fits hhost hrec).record_cases with hnull | ⟨r, hr, hid⟩
    · rw [hnull]
      trivial
    · rw [hr]
      exact hhost.member hid hm
  | .length ht =>
    simp only [value]
    split <;> trivial
  -- connectives and comparisons make truth values of whatever their operands are
  | .and hl hr => trivial
  | .or hl hr => trivial
  | .not ho => trivial
  | .compare hl hr hbc => trivial
  | .builtin (m := m) ht hd ha =>
    simp only [value]
    split
    · trivial
    · exact m.apply_fits _ _
  | .invoke ht hm ha =>
    -- the host answers as declared only because the arguments fit the parameters
    simp only [value]
    rcases (ht.fits hhost hrec).record_cases with hnull | ⟨r, hr, hid⟩
    · rw [hnull]
      trivial
    · rw [hr]
      exact hhost.invoke hid hm (ha.fits hhost hrec)
  | .toFloat ho => exact (ho.fits hhost hrec).toFloat
  | .toText ho hb => exact Value.fits_toText _
  | .enumAsInt hp => exact (hp.fits hhost hrec).int_of_enum

theorem HaveTypes.fits {ps : List Plan} {ds : List DeclaredType} (h : HaveTypes schema root ps ds)
    (hhost : host.Conforms schema R) (hrec : R record root) :
    List.Forall₂ (fun v d => v.Fits R d.base) (values host record ps) ds := by
  match h with
  | .nil => exact .nil
  | .cons hp hps => exact .cons (hp.fits hhost hrec) (hps.fits hhost hrec)

end

end

/-! ### The plans inside a plan -/

/-- The plans right below a plan. -/
def children : Plan → List Plan
  | const _ | root => []
  | member target _ | length target => [target]
  | and left right | or left right | compare _ left right => [left, right]
  | not operand | convert _ operand => [operand]
  | builtin _ target args | invoke target _ args => target :: args

/-- The first plan is the second one, or stands somewhere below it. -/
inductive Within : Plan → Plan → Prop where
  | refl {p : Plan} : Within p p
  | child {q c p : Plan} (hc : c ∈ p.children) (hq : Within q c) : Within q p

/-- Running the first plan compares the values of the other two. -/
inductive Compares : Plan → Plan → Plan → Prop where
  | operator {op left right} : Compares (.compare op left right) left right
  | equals {target arg more} : Compares (.builtin .equals target (arg :: more)) target arg
  | compareTo {target arg more} : Compares (.builtin .compareTo target (arg :: more)) target arg

section

variable {schema : Schema} {root : RecordId}

private theorem HaveTypes.of_mem {ps : List Plan} {ds : List DeclaredType} {q : Plan}
    (h : HaveTypes schema root ps ds) (hq : q ∈ ps) : ∃ c, HasType schema root q c := by
  match h with
  | .nil => exact nomatch hq
  | .cons hp hps =>
    rcases List.mem_cons.mp hq with rfl | hq
    · exact ⟨_, hp⟩
    · exact hps.of_mem hq

/-- `HasType` plans have plans right below them that have types. -/
private theorem HasType.of_mem_children {p q : Plan} {b : BaseType} (h : HasType schema root p b)
    (hq : q ∈ p.children) : ∃ c, HasType schema root q c := by
  match h with
  | .const _ | .root => exact nomatch hq
  | .member ho _ | .length ho | .not ho | .toFloat ho | .toText ho _ =>
    rw [children, List.mem_singleton] at hq
    exact ⟨_, hq ▸ ho⟩
  | .and hl hr | .or hl hr | .compare hl hr _ =>
    rw [children, List.mem_pair] at hq
    rcases hq with rfl | rfl
    · exact ⟨_, hl⟩
    · exact ⟨_, hr⟩
  | .builtin ht _ ha | .invoke ht _ ha =>
    rw [children, List.mem_cons] at hq
    rcases hq with rfl | hq
    · exact ⟨_, ht⟩
    · exact ha.of_mem hq
  -- the plan itself is typed again here, not one below it
  | .enumAsInt hp => exact hp.of_mem_children hq

/-- `HasType` plans have only plans inside that have types. -/
theorem HasType.of_within {p q : Plan} {b : BaseType} (h : HasType schema root p b)
    (hq : q.Within p) : ∃ c, HasType schema root q c := by
  induction hq generalizing b with
  | refl => exact ⟨b, h⟩
  | child hc _ ih =>
    obtain ⟨c, hcc⟩ := h.of_mem_children hc
    exact ih hcc

/-- `HasType` plans compare plans of kinds that can be compared. -/
private theorem HasType.comparesWith {n p q : Plan} {b : BaseType} (h : HasType schema root n b)
    (hc : n.Compares p q) :
    ∃ b c, HasType schema root p b ∧ HasType schema root q c ∧ b.ComparesWith c := by
  cases hc with
  | operator =>
    cases h with
    | compare hl hr hbc => exact ⟨_, _, hl, hr, hbc⟩
    -- a comparison is no enumeration
    | enumAsInt hp => cases hp
  | equals =>
    cases h with
    | builtin ht hd ha =>
      -- the parameter is declared with the type of the target
      cases ha with
      | cons hp hps => exact ⟨_, _, ht, hp, Or.inr (Or.inr ⟨rfl, hd.base_ne_record⟩)⟩
    | enumAsInt hp => cases hp
  | compareTo =>
    cases h with
    | builtin ht hd ha =>
      cases ha with
      | cons hp hps => exact ⟨_, _, ht, hp, Or.inr (Or.inr ⟨rfl, hd.base_ne_record⟩)⟩
    | enumAsInt hp => cases hp

variable {ρ : Type} {host : Host ρ} {R : ρ → RecordId → Prop} {record : ρ}

/-- `HasType` conversions lose no value. -/
theorem HasType.eq_null_of_convert {c : Conversion} {p : Plan} {b : BaseType}
    (h : HasType schema root (.convert c p) b) (hhost : host.Conforms schema R)
    (hrec : R record root) (hv : (convert c p).value host record = .null) :
    p.value host record = .null := by
  cases h with
  | toFloat ho => exact (ho.fits hhost hrec).eq_null_of_toFloat hv
  | toText ho hb => exact (ho.fits hhost hrec).eq_null_of_toText hb hv
  | enumAsInt hp => cases hp

/-- `HasType` plans compare present values of the same kind. -/
theorem HasType.sameKind_of_compares {n p q : Plan} {b : BaseType} (h : HasType schema root n b)
    (hhost : host.Conforms schema R) (hrec : R record root) (hc : n.Compares p q)
    (hp : p.value host record ≠ .null) (hq : q.value host record ≠ .null) :
    (p.value host record).SameKind (q.value host record) := by
  obtain ⟨b, c, hpb, hqc, rfl | rfl | ⟨rfl, hb⟩⟩ := h.comparesWith hc
  -- an operand of the kind of `null` is absent, which both operands are not
  · exact absurd (hpb.fits hhost hrec).eq_null hp
  · exact absurd (hqc.fits hhost hrec).eq_null hq
  · exact (hpb.fits hhost hrec).sameKind (hqc.fits hhost hrec) hb hp hq

end

end Plan

end RecordFilter
