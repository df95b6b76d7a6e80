import RecordFilter.Proofs.TypeSoundness
/-!
# Where values get lost

A static type has the absent value if the declaration that it comes from has it.  A plan whose type
does not have it can be absent all the same, in three places: the members of an absent record are
absent, whatever their types; a search for an absent text has no answer; and there is no order
between doubles of which one is not a number.  `Plan.LosesValue` says that a value passes through
such a place.

On a record that keeps to the schema, these are the only places.  Each step of elaboration keeps
track of them (`Plan.Tracks`), so a plan whose type does not have the absent value is absent exactly
if it loses its value (`value_eq_null_iff_losesValue`).
-/

namespace RecordFilter

variable {ρ : Type}

/-- The records answer as the schema declares, and a member is present if its type does not have the
absent value.  Nothing of the kind is asked of methods: the result of a call on a record may always
be absent, because the record may be. -/
structure Host.ConformsStrictly (host : Host ρ) (schema : Schema) (R : ρ → RecordId → Prop) : Prop
    extends host.Conforms schema R where
  present : ∀ {r id name m}, R r id → (schema.recordType id).member? name = some m →
    m.type.acceptsNull = false → host.member r m.name ≠ .null

/-! ### Built-in methods without an answer -/

/-- `isNull` is false of a present value. -/
theorem Value.isNull_eq_false {v : Value ρ} (h : v ≠ .null) : v.isNull = false := by
  cases v <;> simp_all [isNull]

/-- `Value.bool` is present. -/
private theorem Value.bool_ne_null (b : Bool) : (bool b : Value ρ) ≠ null := by simp

/-- `Value.int` is present. -/
private theorem Value.int_ne_null (i : Int64) : (int i : Value ρ) ≠ null := by simp

/-- Constants other than `null` are present. -/
private theorem Scalar.toValue_ne_null {value : Scalar} (h : value.isNull = false) :
    (value.toValue : Value ρ) ≠ .null := by
  cases value <;> simp_all [isNull, toValue]

/-- `compareValues` has no order for what is not a number. -/
private theorem compareValues_eq_none {v w : Value ρ} (h : v.IsNaN ∨ w.IsNaN) : compareValues v w = none := by
  cases v <;> cases w <;> simp_all [Value.IsNaN, compareValues, compareFloats_eq_none_iff]

namespace Builtin

/-- The method looks for its argument in its target. -/
def isSearch : Builtin → Bool
  | contains | startsWith | endsWith | indexOf => true
  | _ => false

/-- The method has no answer for the target and the arguments. -/
inductive Unanswered : Builtin → Value ρ → List (Value ρ) → Prop where
  /-- An absent text is searched for. -/
  | search {m target more} (hm : m.isSearch = true) : Unanswered m target (.null :: more)
  /-- One of two doubles is not a number, so that they have no order. -/
  | unordered {target arg more} (ha : arg ≠ .null) (hn : target.IsNaN ∨ arg.IsNaN) :
      Unanswered .compareTo target (arg :: more)

/-- The place of the second text in the first, or minus one. -/
def indexAnswer (s p : List Char) : Value ρ :=
  match Text.indexOf? p s with
  | some i => .int (countInt64 i)
  | none => .int (-1)

/-- `indexAnswer` always answers. -/
private theorem indexAnswer_ne_null (s p : List Char) : (indexAnswer s p : Value ρ) ≠ .null := by
  unfold indexAnswer
  split <;> exact Value.int_ne_null _

/-- `onTexts` is what a search asks, and every question of two texts has an answer. -/
private theorem exists_onTexts {m : Builtin} (hm : m.isSearch = true) :
    ∃ f : List Char → List Char → Value ρ, (∀ s p, f s p ≠ .null) ∧
      ∀ target args, m.apply target args = onTexts target (args.headD .null) f := by
  have hbool (f : List Char → List Char → Bool) (s p : List Char) :
      (.bool (f s p) : Value ρ) ≠ .null := Value.bool_ne_null _
  cases m with
  | contains => exact ⟨fun s p => .bool (Text.contains s p), hbool Text.contains, fun _ _ => rfl⟩
  | startsWith => exact ⟨fun s p => .bool (Text.startsWith s p), hbool Text.startsWith, fun _ _ => rfl⟩
  | endsWith => exact ⟨fun s p => .bool (Text.endsWith s p), hbool Text.endsWith, fun _ _ => rfl⟩
  | indexOf => exact ⟨indexAnswer, indexAnswer_ne_null, fun _ _ => rfl⟩
  -- no other method is a search
  | _ => simp [isSearch] at hm

/-- `CompareTo` of a present argument gives the order of the two, if they have one. -/
theorem apply_compareTo {target arg : Value ρ} (ha : arg ≠ .null) (more : List (Value ρ)) :
    compareTo.apply target (arg :: more) =
      match compareValues target arg with
      | some order => .int (orderInt order)
      | none => .null := by
  simp only [apply, List.headD_cons]
  exact if_neg (Bool.eq_false_iff.mp (Value.isNull_eq_false ha))

/-- `Unanswered` calls give nothing. -/
private theorem Unanswered.apply_eq_null {m : Builtin} {target : Value ρ} {args : List (Value ρ)}
    (h : m.Unanswered target args) : m.apply target args = .null := by
  cases h with
  | search hm =>
    obtain ⟨f, -, happly⟩ := exists_onTexts hm
    rw [happly]
    -- whatever the target is, the second text is missing
    cases target <;> rfl
  | unordered ha hn => rw [apply_compareTo ha, compareValues_eq_none hn]

variable {R : ρ → RecordId → Prop} {m : Builtin} {d : DeclaredType} {target arg : Value ρ}
  {args : List (Value ρ)}

/-- `onText` of a present text is a text. -/
private theorem onText_ne_null (ht : target.Fits R .str) (htn : target ≠ .null) (f : List Char → List Char) :
    onText target f ≠ .null := by
  cases target <;> simp_all [onText, Value.Fits]

/-- `onTexts` with a present text has an answer, unless the second one is absent. -/
private theorem eq_null_of_onTexts (ht : target.Fits R .str) (htn : target ≠ .null)
    (ha : arg.Fits R .str) {f : List Char → List Char → Value ρ} (hf : ∀ s p, f s p ≠ .null)
    (h : onTexts target arg f = .null) : arg = .null := by
  cases target <;> cases arg <;> simp_all [onTexts, Value.Fits]

/-- `Unanswered` searches in a present text are those for an absent one. -/
private theorem unanswered_of_search (hs : m.isSearch = true) (ht : target.Fits R .str)
    (htn : target ≠ .null) (ha : List.Forall₂ (fun v (d : DeclaredType) => v.Fits R d.base) args [.str])
    (h : m.apply target args = .null) : m.Unanswered target args := by
  obtain ⟨arg, more, harg, -, rfl⟩ := List.forall₂_cons_right_iff.mp ha
  obtain ⟨f, hf, happly⟩ := exists_onTexts hs
  rw [happly, List.headD_cons] at h
  obtain rfl := eq_null_of_onTexts ht htn harg hf h
  exact .search hs

/-- `Unanswered` are all calls without an answer on a present target and arguments of the types of the
method. -/
private theorem unanswered_of_apply (hm : m.AppliesTo d) (ht : target.Fits R d.base) (htn : target ≠ .null)
    (ha : List.Forall₂ (fun v d => v.Fits R d.base) args (m.params d))
    (h : m.apply target args = .null) : m.Unanswered target args := by
  -- methods of texts only are called on texts
  have htext (hm' : m.isTextOnly = true) : target.Fits R .str := by
    rw [hm.2 hm'] at ht
    exact ht
  cases m with
  | contains | startsWith | endsWith | indexOf => exact unanswered_of_search rfl (htext rfl) htn ha h
  | equals => exact nomatch h
  | compareTo =>
    obtain ⟨arg, more, harg, -, rfl⟩ := List.forall₂_cons_right_iff.mp ha
    by_cases hnull : arg = .null
    · -- whatever is present comes after what is absent
      subst hnull
      exact nomatch h
    · rw [apply_compareTo hnull] at h
      have hsame := ht.sameKind harg hm.base_ne_record htn hnull
      split at h
      · exact nomatch h
      · rename_i hnone
        exact .unordered hnull (hsame.compareValues_eq_none_iff.mp hnone)
  | toLower | toUpper | trim => exact absurd h (onText_ne_null (htext rfl) htn _)
  | toText => exact absurd (ht.eq_null_of_toText hm.base_ne_record h) htn

end Builtin

/-! ### Plans that lose their values -/

/-- `ofDeclared` of a type of records has the absent value. -/
private theorem StaticType.nullable_of_record {d : DeclaredType} {id : RecordId}
    (h : (ofDeclared d).base = .record id) : (ofDeclared d).nullable = true := by
  cases d with
  | record | optional => rfl
  | _ => exact nomatch h

namespace Plan

/-- The value of the plan, or of one that it makes its own value from, gets lost although its type
does not say so. -/
inductive LosesValue (host : Host ρ) (record : ρ) : Plan → Prop where
  /-- A member of an absent record is read. -/
  | member {target name} (h : target.value host record = .null) :
      LosesValue host record (.member target name)
  /-- A built-in method has no answer. -/
  | unanswered {m target args}
      (h : m.Unanswered (target.value host record) (values host record args)) :
      LosesValue host record (.builtin m target args)
  | length {target} (h : LosesValue host record target) : LosesValue host record (.length target)
  | builtin {m target args} (h : LosesValue host record target) :
      LosesValue host record (.builtin m target args)
  | convert {c operand} (h : LosesValue host record operand) :
      LosesValue host record (.convert c operand)

variable {host : Host ρ} {record : ρ} {p : Plan}

/-- `LosesValue` plans are absent, on whatever record. -/
private theorem LosesValue.value_eq_null (h : p.LosesValue host record) : p.value host record = .null := by
  -- what is made of an absent value is absent
  induction h with
  | member h => simp only [value, h]
  | unanswered h =>
    simp only [value]
    -- an absent target is not asked at all
    split
    · rfl
    · exact h.apply_eq_null
  | length h ih => simp only [value, ih]
  | builtin h ih => simp only [value, ih]
  | @convert c operand h ih =>
    simp only [value, ih]
    cases c <;> rfl

/-- The type says of an absent plan that it may be absent, unless the plan loses its value; and it says
so of every record. -/
structure Tracks (host : Host ρ) (record : ρ) (p : Plan) (type : StaticType) : Prop where
  nullable_of_record : ∀ id, type.base = .record id → type.nullable = true
  losesValue : type.nullable = false → p.value host record = .null → p.LosesValue host record

variable {type : StaticType} {schema : Schema} {root : RecordId} {R : ρ → RecordId → Prop}

/-- `Tracks` says nothing of a plan that is never absent. -/
private theorem Tracks.of_ne_null (hb : ∀ id, type.base ≠ .record id) (h : p.value host record ≠ .null) :
    p.Tracks host record type :=
  ⟨fun id hid => absurd hid (hb id), fun _ hv => absurd hv h⟩

/-- Only the constant `null` is absent, and its type says so. -/
theorem Tracks.const (value : Scalar) : (Plan.const value).Tracks host record value.staticType := by
  cases value with
  | null => exact ⟨fun _ => nofun, nofun⟩
  -- every other constant is present
  | _ => exact .of_ne_null (fun _ => nofun) nofun

/-- `Tracks` a member: of a record that is present it has a value, if its declared type says so. -/
theorem Tracks.member {id : RecordId} {name : String} {m : Member} (hp : HasType schema root p (.record id))
    (hm : (schema.recordType id).member? name = some m) (hhost : host.ConformsStrictly schema R)
    (hrec : R record root) : (Plan.member p m.name).Tracks host record (.ofDeclared m.type) where
  nullable_of_record _ h := StaticType.nullable_of_record h
  losesValue hnull hv := by
    rw [StaticType.ofDeclared_nullable] at hnull
    -- the record may be absent; if it is present, it has what the member declares
    rcases (hp.fits hhost.toConforms hrec).record_cases with hp | ⟨r, hr, hid⟩
    · exact .member hp
    · simp only [value, hr] at hv
      exact absurd hv (hhost.present hid hm hnull)

/-- `Tracks` a length: it is absent where the text is. -/
theorem Tracks.length (hp : HasType schema root p .str) (ht : p.Tracks host record type)
    (hhost : host.ConformsStrictly schema R) (hrec : R record root) :
    (Plan.length p).Tracks host record ⟨.int, type.nullable⟩ where
  nullable_of_record _ h := nomatch h
  losesValue hnull hv := by
    have hfits := hp.fits hhost.toConforms hrec
    -- a text that is present has a length
    have hpv : p.value host record = .null := by
      simp only [value] at hv
      cases hval : p.value host record <;> simp_all [Value.Fits]
    exact .length (ht.losesValue hnull hpv)

/-- `Tracks` a plan at another type: it is absent where it was before. -/
theorem Tracks.coerce {t t' : TypedPlan} {expected : StaticType} (ht : t.WellTyped schema root)
    (htracks : t.plan.Tracks host record t.type) (hhost : host.Conforms schema R)
    (hrec : R record root) (h : t.coerce? schema expected = some t')
    (hnull : t'.type.nullable = false) (hv : t'.plan.value host record = .null) :
    t'.plan.LosesValue host record := by
  have htyped : HasType schema root t'.plan expected.base := ht.coerce h
  rcases TypedPlan.coerce?_eq_some h with ⟨c, c', -, -, hplan, htype⟩ | ⟨hconvert, htype⟩
  · -- the type of an absent constant has the absent value
    rw [hplan] at hv
    cases hc' : c'.isNull with
    | true =>
      rw [htype, hc'] at hnull
      exact nomatch hnull
    | false => exact absurd hv (Scalar.toValue_ne_null hc')
  · -- a conversion loses no value, so the value was lost before it
    rw [htype] at hnull
    rcases convertTo?_eq_some hconvert with hplan | ⟨c, hplan⟩
    · rw [hplan] at hv ⊢
      exact htracks.losesValue hnull hv
    · rw [hplan] at hv htyped ⊢
      exact .convert (htracks.losesValue hnull (htyped.eq_null_of_convert hhost hrec hv))

/-- `Tracks` a call: it is absent if its target is, if a record answers so, or if a built-in method has
no answer. -/
theorem Tracks.call {target t : TypedPlan} {method : String} {args : List TypedPlan} {offset : Nat}
    (ht : target.WellTyped schema root) (htracks : target.plan.Tracks host record target.type)
    (hargs : ∀ a ∈ args, a.WellTyped schema root) (hhost : host.Conforms schema R)
    (hrec : R record root) (h : TypedPlan.call schema target method args offset = .ok t) :
    t.plan.Tracks host record t.type := by
  obtain ⟨c, converted, hc, hlen, htakes, rfl⟩ := TypedPlan.call_eq_ok h
  have hconverted := htakes.haveTypes hargs hlen
  constructor
  · intro id hid
    rw [StaticType.nullable_of_record hid]
    rfl
  · intro hnull hv
    replace hnull := (Bool.or_eq_false_iff.mp hnull).2
    rcases Candidate.mem_named hc with ⟨id, m, hbase, -, -, rfl⟩ | ⟨d, b, hbase, hb, rfl⟩
    · -- a record may be absent, and so may what is called on it
      rw [htracks.nullable_of_record id hbase] at hnull
      exact nomatch hnull
    · have htd : HasType schema root target.plan d.base := ht.hasType hbase
      simp only [Candidate.ofBuiltin, value] at hv ⊢
      split at hv
      · -- either the target is absent, or the method has no answer for it
        rename_i htv
        exact .builtin (htracks.losesValue hnull htv)
      · rename_i htv
        exact .unanswered (Builtin.unanswered_of_apply hb (htd.fits hhost hrec) htv
          (hconverted.fits hhost hrec) hv)

/-- `followPath` keeps track of absent records. -/
private theorem followPath_tracks {type t : StaticType} {offset : Nat} {names : List String} {q : Plan}
    (hp : HasType schema root p type.base) (htracks : p.Tracks host record type)
    (hhost : host.ConformsStrictly schema R) (hrec : R record root)
    (h : followPath schema p type offset names = .ok (q, t)) : q.Tracks host record t := by
  induction names generalizing p type offset with
  | nil =>
    cases h
    exact htracks
  | cons name names ih =>
    obtain ⟨q, u, hstep, h⟩ := followPath_cons_eq_ok_iff.mp h
    -- each step needs the type of the plan that it starts from
    cases hstep with
    | member hbase hm =>
      rw [hbase] at hp
      exact ih (.member hp hm) (.member hp hm hhost hrec) h
    | length hbase _ =>
      rw [hbase] at hp
      exact ih (.length hp) (.length hp htracks hhost hrec) h

/-- `elaborate` gives plans that are absent only where their type or a lost value says so. -/
private theorem elaborate_tracks {e : Expr} {t : TypedPlan} (h : elaborate schema root e = .ok t)
    (hhost : host.ConformsStrictly schema R) (hrec : R record root) :
    t.plan.Tracks host record t.type := by
  cases e with
  -- operators make truth values of whatever their operands are
  | logical op left right offset =>
    simp only [elaborate, Except.bind_eq_ok_iff] at h
    obtain ⟨l, -, r, -, h⟩ := h
    obtain ⟨-, -, rfl⟩ := TypedPlan.logical_eq_ok h
    exact .of_ne_null (fun _ => BaseType.noConfusion) (by cases op <;> exact Value.bool_ne_null _)
  | compare op left right offset =>
    simp only [elaborate, Except.bind_eq_ok_iff] at h
    obtain ⟨l, -, r, -, h⟩ := h
    obtain ⟨_, _, -, -, rfl⟩ := TypedPlan.compare_eq_ok h
    exact .of_ne_null (fun _ => BaseType.noConfusion) (Value.bool_ne_null _)
  | not operand offset =>
    simp only [elaborate, Except.bind_eq_ok_iff] at h
    obtain ⟨o, -, h⟩ := h
    obtain ⟨hb, rfl⟩ := TypedPlan.not_eq_ok h
    exact .of_ne_null (fun _ hid => by simp [hb] at hid) (Value.bool_ne_null _)
  | path names offset =>
    simp only [elaborate, Except.bind_eq_ok_iff] at h
    obtain ⟨⟨q, type⟩, hq, h⟩ := h
    cases h
    have hroot : HasType schema root .root (StaticType.record root).base := .root
    -- the record itself is never absent, but has the type of records
    exact followPath_tracks hroot ⟨fun _ _ => rfl, fun h => Bool.noConfusion h⟩ hhost hrec hq
  | literal literal offset =>
    cases h
    exact .const literal.value
  | call target method args offset =>
    simp only [elaborate, Except.bind_eq_ok_iff] at h
    obtain ⟨u, hu, as, has, h⟩ := h
    exact .call (elaborate_wellTyped hu) (elaborate_tracks hu hhost hrec)
      (elaborateAll_wellTyped has) hhost.toConforms hrec h

end Plan

/-! ### Values of expressions -/

section

variable {schema : Schema} {root : RecordId} {host : Host ρ} {R : ρ → RecordId → Prop} {record : ρ}

/-- On a record that keeps to the schema, an expression whose type does not have the absent value is
absent exactly if it loses its value.  The same holds of the expression at any other type that it is
brought to. -/
theorem value_eq_null_iff_losesValue {e : Expr} {t : TypedPlan}
    (he : elaborate schema root e = .ok t) (hhost : host.ConformsStrictly schema R)
    (hrec : R record root) :
    (t.type.nullable = false →
      (t.plan.value host record = .null ↔ t.plan.LosesValue host record)) ∧
    ∀ expected t', t.coerce? schema expected = some t' → t'.type.nullable = false →
      (t'.plan.value host record = .null ↔ t'.plan.LosesValue host record) := by
  have htracks := Plan.elaborate_tracks he hhost hrec
  constructor
  · intro hnull
    exact ⟨htracks.losesValue hnull, Plan.LosesValue.value_eq_null⟩
  · intro expected t' ht' hnull
    have hcoerce := htracks.coerce (elaborate_wellTyped he) hhost.toConforms hrec ht' hnull
    exact ⟨hcoerce, Plan.LosesValue.value_eq_null⟩

end

namespace Sample

/-- What people and companies declare without the absent value is present. -/
private theorem host_conformsStrictly : host.ConformsStrictly schema HasRecordType where
  toConforms := host_conforms
  present := by
    intro r id name m hr hm
    replace hm := RecordType.mem_of_member? hm
    revert m
    cases r with
    | person p =>
      cases hr
      show ∀ m ∈ personType.members, _
      -- only the mail address and the company may be absent
      simp [personType, DeclaredType.acceptsNull, host, member]
    | company c =>
      cases hr
      show ∀ m ∈ companyType.members, _
      simp [companyType, host, member]

end Sample

/-- None of these three expressions has a type with the absent value, and all of them are absent for
someone who has no company, no mail address and no number for a salary. -/
theorem absent_although_not_nullable :
    let sam : Sample.Person := ⟨"Sam Smith", 17, none, 0.0 / 0.0, false, 0, none⟩
    let name : Plan := .member (.member .root "Company") "Name"
    let contains : Plan := .builtin .contains (.member .root "Name") [.member .root "Email"]
    let order : Plan := .builtin .compareTo (.member .root "Salary") [.member .root "Salary"]
    elaborate Sample.schema Sample.personId (.path ["Company", "Name"] 0) =
        .ok { plan := name, type := ⟨.str, false⟩, offset := 0 } ∧
      elaborate Sample.schema Sample.personId
        (.call (.path ["Name"] 0) "Contains" [.path ["Email"] 14] 5) =
        .ok { plan := contains, type := ⟨.bool, false⟩, offset := 5 } ∧
      elaborate Sample.schema Sample.personId
        (.call (.path ["Salary"] 0) "CompareTo" [.path ["Salary"] 17] 7) =
        .ok { plan := order, type := ⟨.int, false⟩, offset := 7 } ∧
      Sample.host.ConformsStrictly Sample.schema Sample.HasRecordType ∧
      Sample.HasRecordType (.person sam) Sample.personId ∧
      name.value Sample.host (.person sam) = .null ∧
      contains.value Sample.host (.person sam) = .null ∧
      order.value Sample.host (.person sam) = .null := by
  intro sam name contains order
  have hnan : (0.0 / 0.0 : Float).isNaN = true := by decide
  have horder : order.LosesValue Sample.host (.person sam) := .unanswered (.unordered nofun (.inl hnan))
  exact ⟨rfl, rfl, rfl, Sample.host_conformsStrictly, rfl, rfl, rfl, horder.value_eq_null⟩

/-- Whether the name of a company contains that of its employee is a truth value for whoever has a
company, and is lost for whoever has none. -/
theorem value_eq_null_iff_losesValue_of_company_name :
    let sam : Sample.Person := ⟨"Sam Smith", 17, none, 0.0, false, 0, none⟩
    let john : Sample.Person :=
      ⟨"John Doe", 34, some "john@acme.test", 92000.0, true, 0, some ⟨"Acme Corp", 1200⟩⟩
    let contains : Plan :=
      .builtin .contains (.member (.member .root "Company") "Name") [.member .root "Name"]
    elaborate Sample.schema Sample.personId
        (.call (.path ["Company", "Name"] 0) "Contains" [.path ["Name"] 22] 13) =
      .ok { plan := contains, type := .bool, offset := 13 } ∧
      Sample.host.ConformsStrictly Sample.schema Sample.HasRecordType ∧
      Sample.HasRecordType (.person sam) Sample.personId ∧
      Sample.HasRecordType (.person john) Sample.personId ∧
      contains.LosesValue Sample.host (.person sam) ∧
      ¬ contains.LosesValue Sample.host (.person john) := by
  intro sam john contains
  have he : elaborate Sample.schema Sample.personId
      (.call (.path ["Company", "Name"] 0) "Contains" [.path ["Name"] 22] 13) =
      .ok { plan := contains, type := .bool, offset := 13 } := rfl
  have hsam : Sample.HasRecordType (.person sam) Sample.personId := rfl
  have hjohn : Sample.HasRecordType (.person john) Sample.personId := rfl
  have hiff {p : Sample.Person} (hp : Sample.HasRecordType (.person p) Sample.personId) :=
    (value_eq_null_iff_losesValue he Sample.host_conformsStrictly hp).1 rfl
  exact ⟨he, Sample.host_conformsStrictly, hsam, hjohn, (hiff hsam).mp rfl,
    fun h => nomatch (hiff hjohn).mpr h⟩

end RecordFilter
