import RecordFilter.Proofs.ElaborationSteps
import RecordFilter.Proofs.PlanTyping
/-!
# Elaborated expressions keep their static types

Elaboration computes a static type beside every plan.  Each of its steps (following a path, bringing
a value to another type, finding a common type of two operands, choosing among methods) is shown to
give a plan of the type it announces.  Together they say that the plan of an expression is well
typed (`elaborate_wellTyped`), and with it that the expression never has a value of another kind
(`value_fits_type`).
-/

namespace RecordFilter

open Plan

/-- `convertConstant` gives constants of the expected kind. -/
theorem convertConstant_hasBase {schema : Schema} {value converted : Scalar}
    {source : Option String} {expected : StaticType}
    (h : convertConstant schema value source expected = some converted) :
    converted.HasBase expected.base := by
  unfold convertConstant at h
  generalize expected.base = b at h ⊢
  split at h
  case h_1 =>
    -- `null` stays `null`, whatever is expected
    rw [Option.ite_none_right_eq_some] at h
    cases h.2
    trivial
  case h_6 | h_11 | h_12 =>
    -- the conversion itself may fail
    obtain ⟨_, _, rfl⟩ := Option.map_eq_some_iff.mp h
    trivial
  case h_13 => exact nomatch h
  all_goals
    cases h
    trivial

namespace Plan

variable {schema : Schema} {root : RecordId}

/-- `convertTo?` gives plans of the kind that is asked for. -/
private theorem HasType.convertTo {p q : Plan} {source target : BaseType} (h : HasType schema root p source)
    (hq : p.convertTo? source target = some q) : HasType schema root q target := by
  unfold convertTo? at hq
  split at hq
  · -- nothing to do
    rename_i heq
    cases hq
    exact heq ▸ h
  · split at hq
    · cases hq
      exact .toFloat h
    · cases hq
      exact .enumAsInt h
    -- the three kinds that have texts
    · cases hq
      exact .toText h fun _ => BaseType.noConfusion
    · cases hq
      exact .toText h fun _ => BaseType.noConfusion
    · cases hq
      exact .toText h fun _ => BaseType.noConfusion
    · exact nomatch hq

end Plan

namespace TypedPlan

variable {schema : Schema} {root : RecordId}

/-- The plan has the type that stands beside it. -/
def WellTyped (schema : Schema) (root : RecordId) (t : TypedPlan) : Prop :=
  HasType schema root t.plan t.type.base

/-- `coerce?` gives plans of the kind of the expected type. -/
theorem WellTyped.coerce {t t' : TypedPlan} {expected : StaticType}
    (h : t.WellTyped schema root) (ht : t.coerce? schema expected = some t') :
    HasType schema root t'.plan expected.base := by
  unfold coerce? at ht
  split at ht
  -- a constant is converted now, any other plan when it runs
  · obtain ⟨c, hc, rfl⟩ := Option.map_eq_some_iff.mp ht
    exact .const (convertConstant_hasBase hc)
  · obtain ⟨p, hp, rfl⟩ := Option.map_eq_some_iff.mp ht
    exact HasType.convertTo h hp

/-- `coerceConstant?` gives a plan of the expected base type. -/
private theorem WellTyped.coerceConstant {t t' : TypedPlan} {expected : StaticType}
    (h : t.WellTyped schema root) (ht : t.coerceConstant? schema expected = some t') :
    HasType schema root t'.plan expected.base := by
  unfold coerceConstant? at ht
  split at ht
  · exact h.coerce ht
  · exact nomatch ht

/-! ### Operators -/

/-- `WellTyped` plans have the kind of their type, under whatever name that goes. -/
theorem WellTyped.hasType {t : TypedPlan} {b : BaseType} (h : t.WellTyped schema root)
    (hb : t.type.base = b) : HasType schema root t.plan b :=
  hb ▸ h

/-- `promote?` gives operands of the common kind. -/
private theorem promote?_hasType {left right : TypedPlan} {u : Unified} (hl : left.WellTyped schema root)
    (hr : right.WellTyped schema root) (h : promote? schema left right = some u) :
    HasType schema root u.left.plan u.base ∧ HasType schema root u.right.plan u.base := by
  unfold promote? at h
  split at h
  -- an integer beside a double becomes one; an enumeration beside an integer stays as it is
  · rename_i hlb hrb
    obtain ⟨l, hl', rfl⟩ := Option.map_eq_some_iff.mp h
    exact ⟨hl.coerce hl', hr.hasType hrb⟩
  · rename_i hlb hrb
    obtain ⟨r, hr', rfl⟩ := Option.map_eq_some_iff.mp h
    exact ⟨hl.hasType hlb, hr.coerce hr'⟩
  · rename_i hlb hrb
    cases h
    exact ⟨.enumAsInt (hl.hasType hlb), hr.hasType hrb⟩
  · rename_i hlb hrb
    cases h
    exact ⟨hl.hasType hlb, .enumAsInt (hr.hasType hrb)⟩
  · exact nomatch h

/-- `unify?` gives operands of the common kind. -/
private theorem unify?_hasType {left right : TypedPlan} {u : Unified} (hl : left.WellTyped schema root)
    (hr : right.WellTyped schema root) (h : unify? schema left right = some u) :
    HasType schema root u.left.plan u.base ∧ HasType schema root u.right.plan u.base := by
  unfold unify? at h
  split at h
  · -- one kind from the start
    rename_i heq
    cases h
    exact ⟨hl, hr.hasType heq.symm⟩
  · split at h
    · -- the right operand is a constant that takes the type of the left one
      rename_i hr'
      cases h
      exact ⟨hl, hr.coerceConstant hr'⟩
    · split at h
      · -- the left operand is one that takes the type of the right one
        rename_i hl'
        cases h
        exact ⟨hl.coerceConstant hl', hr⟩
      · exact promote?_hasType hl hr h

/-- `WellTyped` is kept by `logical`. -/
theorem WellTyped.logical {op : Connective} {left right t : TypedPlan} {offset : Nat}
    (hl : left.WellTyped schema root) (hr : right.WellTyped schema root)
    (h : TypedPlan.logical schema op left right offset = .ok t) : t.WellTyped schema root := by
  obtain ⟨hlb, hrb, rfl⟩ := logical_eq_ok h
  cases op with
  | and => exact HasType.and (hl.hasType hlb) (hr.hasType hrb)
  | or => exact HasType.or (hl.hasType hlb) (hr.hasType hrb)

/-- `WellTyped` is kept by `TypedPlan.not`. -/
theorem WellTyped.not {operand t : TypedPlan} {offset : Nat} (ho : operand.WellTyped schema root)
    (h : TypedPlan.not schema operand offset = .ok t) : t.WellTyped schema root := by
  obtain ⟨hb, rfl⟩ := not_eq_ok h
  show HasType schema root _ operand.type.base
  rw [hb]
  exact HasType.not (ho.hasType hb)

/-- `operands?` gives operands of kinds that can be compared. -/
private theorem operands?_hasType {op : Comparison} {left right : TypedPlan} {u : Unified}
    (hl : left.WellTyped schema root) (hr : right.WellTyped schema root)
    (h : operands? schema left right = some u) (hop : u.base.allows op = true) :
    ∃ b c, HasType schema root u.left.plan b ∧ HasType schema root u.right.plan c ∧
      b.ComparesWith c := by
  unfold operands? at h
  split at h
  · rename_i hnull
    rw [Option.ite_none_right_eq_some] at h
    cases h.2
    exact ⟨_, _, hl, hr, .inl (beq_iff_eq.mp hnull)⟩
  · split at h
    · rename_i hnull
      rw [Option.ite_none_right_eq_some] at h
      cases h.2
      exact ⟨_, _, hl, hr, .inr (.inl (beq_iff_eq.mp hnull))⟩
    · -- both operands are brought to a kind that the operator is defined on, which is no record
      obtain ⟨hul, hur⟩ := unify?_hasType hl hr h
      refine ⟨_, _, hul, hur, .inr (.inr ⟨rfl, fun id hid => ?_⟩)⟩
      rw [hid] at hop
      cases hop

/-- `WellTyped` is kept by `compare`, whose operands come to one kind. -/
theorem WellTyped.compare {op : Comparison} {left right t : TypedPlan} {offset : Nat}
    (hl : left.WellTyped schema root) (hr : right.WellTyped schema root)
    (h : TypedPlan.compare schema op left right offset = .ok t) : t.WellTyped schema root := by
  obtain ⟨u, hu, hop, rfl⟩ := compare_eq_ok_iff.mp h
  obtain ⟨b, c, hb, hc, hbc⟩ := operands?_hasType hl hr hu hop
  exact HasType.compare hb hc hbc

end TypedPlan

/-! ### Calls -/

namespace Candidate

variable {schema : Schema} {root : RecordId}

/-- `Candidate.builtins` has methods that exist on the type of the target. -/
private theorem exists_of_mem_builtins {target : DeclaredType} {name : String} {c : Candidate}
    (ht : target = .bool ∨ target = .int ∨ target = .float ∨ target = .str)
    (h : c ∈ builtins target name) : ∃ b : Builtin, c = ofBuiltin target b ∧ b.AppliesTo target := by
  unfold builtins at h
  split at h
  · split at h
    · exact nomatch h
    · rename_i b _ htext
      rw [List.mem_singleton] at h
      refine ⟨b, h, ht, fun hb => ?_⟩
      simpa [hb] using htext
  · exact nomatch h

/-- `Candidate.named` has the methods of the record type of the target, by their name, and the built-in
methods that exist on the type of the target. -/
theorem mem_named {base : BaseType} {name : String} {c : Candidate} (h : c ∈ named schema base name) :
    (∃ id m, base = .record id ∧ m ∈ (schema.recordType id).methods ∧ m.name = name ∧
      c = ofMethod m) ∨
    ∃ d b, base = d.base ∧ b.AppliesTo d ∧ c = ofBuiltin d b := by
  -- the kinds with built-in methods are treated alike
  have builtin {d : DeclaredType} (hd : d = .bool ∨ d = .int ∨ d = .float ∨ d = .str)
      (hc : c ∈ builtins d name) : ∃ d' b, d.base = d'.base ∧ b.AppliesTo d' ∧ c = ofBuiltin d' b := by
    obtain ⟨b, hc, hb⟩ := exists_of_mem_builtins hd hc
    exact ⟨d, b, rfl, hb, hc⟩
  cases base with
  | record id =>
    obtain ⟨m, hm, rfl⟩ := List.mem_map.mp h
    obtain ⟨hm, hname⟩ := List.mem_filter.mp hm
    exact .inl ⟨id, m, rfl, hm, beq_iff_eq.mp hname, rfl⟩
  | bool => exact .inr (builtin (.inl rfl) h)
  | int => exact .inr (builtin (.inr (.inl rfl)) h)
  | float => exact .inr (builtin (.inr (.inr (.inl rfl))) h)
  | str => exact .inr (builtin (.inr (.inr (.inr rfl))) h)
  | null | enum id => exact nomatch h

/-- `Candidate.run` on a target and arguments of the types of the candidate has its declared result. -/
private theorem run_hasType {base : BaseType} {name : String} {c : Candidate} {target : Plan}
    {args : List Plan} (hc : c ∈ named schema base name) (ht : HasType schema root target base)
    (ha : HaveTypes schema root args c.params) :
    HasType schema root (c.run target args) c.returns.base := by
  rcases mem_named hc with ⟨id, m, rfl, hm, -, rfl⟩ | ⟨d, b, rfl, hb, rfl⟩
  · exact .invoke ht hm ha
  · exact .builtin ht hb ha

end Candidate

namespace TypedPlan

variable {schema : Schema} {root : RecordId}

/-- Arguments that match the parameters exactly have their types. -/
private theorem haveTypes_of_matchesExactly {args : List TypedPlan} {c : Candidate}
    (hargs : ∀ a ∈ args, a.WellTyped schema root) (hlen : c.params.length = args.length)
    (h : c.matchesExactly args = true) :
    HaveTypes schema root (args.map (·.plan)) c.params := by
  unfold Candidate.matchesExactly at h
  -- the parameters are all that is left of the candidate, so the induction can be on them
  generalize c.params = params at hlen h ⊢
  induction params generalizing args with
  | nil =>
    obtain rfl := List.length_eq_zero_iff.mp hlen.symm
    exact .nil
  | cons param params ih =>
    cases args with
    | nil => exact nomatch hlen
    | cons arg args =>
      rw [List.zip_cons_cons, List.all_cons, Bool.and_eq_true, Bool.and_eq_true, beq_iff_eq] at h
      rw [List.forall_mem_cons] at hargs
      exact .cons (hargs.1.hasType h.1.2.symm) (ih hargs.2 (Nat.succ.inj hlen) h.2)

/-- Arguments that `convertArgs` gives have the types of the parameters. -/
private theorem haveTypes_of_convertArgs {params : List DeclaredType} {args converted : List TypedPlan}
    (hargs : ∀ a ∈ args, a.WellTyped schema root) (hlen : params.length = args.length)
    (h : convertArgs schema params args = .ok converted) :
    HaveTypes schema root (converted.map (·.plan)) params := by
  -- along both lists, which have one length
  induction params generalizing args converted with
  | nil =>
    obtain rfl := List.length_eq_zero_iff.mp hlen.symm
    cases h
    exact .nil
  | cons param params ih =>
    cases args with
    | nil => simp at hlen
    | cons arg args =>
      rw [List.forall_mem_cons] at hargs
      simp only [convertArgs] at h
      split at h
      · rename_i hc
        obtain ⟨rest, hrest, h⟩ := Except.bind_eq_ok_iff.mp h
        cases h
        exact .cons (hargs.1.coerce hc) (ih hargs.2 (Nat.succ.inj hlen) hrest)
      · cases h

/-- `Takes` gives arguments of the types of the parameters. -/
theorem Takes.haveTypes {args converted : List TypedPlan} {c : Candidate}
    (h : Takes schema c args converted) (hargs : ∀ a ∈ args, a.WellTyped schema root)
    (hlen : c.params.length = args.length) :
    HaveTypes schema root (converted.map (·.plan)) c.params := by
  cases h with
  | exact h => exact haveTypes_of_matchesExactly hargs hlen h
  | converted h => exact haveTypes_of_convertArgs hargs hlen h

/-- `WellTyped` is kept by `call`, whose candidate takes arguments of its parameter types. -/
theorem WellTyped.call {target t : TypedPlan} {method : String} {args : List TypedPlan}
    {offset : Nat} (ht : target.WellTyped schema root)
    (hargs : ∀ a ∈ args, a.WellTyped schema root)
    (h : TypedPlan.call schema target method args offset = .ok t) : t.WellTyped schema root := by
  obtain ⟨c, converted, hc, hlen, htakes, rfl⟩ := call_eq_ok h
  exact Candidate.run_hasType hc ht (htakes.haveTypes hargs hlen)

end TypedPlan

/-! ### Expressions -/

section

variable {schema : Schema} {root : RecordId}

/-- `followPath` from a plan of a type gives a plan of the type that is announced. -/
private theorem followPath_hasType {plan p : Plan} {type t : StaticType} {offset : Nat}
    {names : List String} (hp : HasType schema root plan type.base)
    (h : followPath schema plan type offset names = .ok (p, t)) :
    HasType schema root p t.base := by
  induction names generalizing plan type offset with
  | nil =>
    cases h
    exact hp
  | cons name names ih =>
    obtain ⟨q, u, hstep, h⟩ := followPath_cons_eq_ok_iff.mp h
    refine ih ?_ h
    cases hstep with
    | member hbase hm => exact .member (hbase ▸ hp) hm
    | length hbase _ => exact .length (hbase ▸ hp)

/-- A constant is of its own static type. -/
private theorem Scalar.hasBase_staticType (value : Scalar) : value.HasBase value.staticType.base := by
  cases value <;> trivial

mutual

/-- `elaborate` gives plans of their types. -/
theorem elaborate_wellTyped {e : Expr} {t : TypedPlan} (h : elaborate schema root e = .ok t) :
    t.WellTyped schema root := by
  match e with
  | .logical op left right offset =>
    simp only [elaborate, Except.bind_eq_ok_iff] at h
    obtain ⟨l, hl, r, hr, h⟩ := h
    exact (elaborate_wellTyped hl).logical (elaborate_wellTyped hr) h
  | .compare op left right offset =>
    simp only [elaborate, Except.bind_eq_ok_iff] at h
    obtain ⟨l, hl, r, hr, h⟩ := h
    exact (elaborate_wellTyped hl).compare (elaborate_wellTyped hr) h
  | .not operand offset =>
    simp only [elaborate, Except.bind_eq_ok_iff] at h
    obtain ⟨o, ho, h⟩ := h
    exact (elaborate_wellTyped ho).not h
  | .path names offset =>
    simp only [elaborate, Except.bind_eq_ok_iff] at h
    obtain ⟨⟨p, type⟩, hp, h⟩ := h
    cases h
    -- a path starts at the record itself
    have hroot : HasType schema root .root (StaticType.record root).base := .root
    exact followPath_hasType hroot hp
  | .literal literal offset =>
    cases h
    exact HasType.const literal.value.hasBase_staticType
  | .call target method args offset =>
    simp only [elaborate, Except.bind_eq_ok_iff] at h
    obtain ⟨t, ht, as, has, h⟩ := h
    exact (elaborate_wellTyped ht).call (elaborateAll_wellTyped has) h

/-- `elaborate_wellTyped` for each of some expressions. -/
theorem elaborateAll_wellTyped {es : List Expr} {ts : List TypedPlan}
    (h : elaborateAll schema root es = .ok ts) : ∀ t ∈ ts, t.WellTyped schema root := by
  match es with
  | [] =>
    cases h
    exact List.forall_mem_nil _
  | e :: es =>
    simp only [elaborateAll, Except.bind_eq_ok_iff] at h
    obtain ⟨t, ht, ts, hts, h⟩ := h
    cases h
    exact List.forall_mem_cons.mpr ⟨elaborate_wellTyped ht, elaborateAll_wellTyped hts⟩

end

/-! ### Values of expressions -/

variable {ρ : Type} {host : Host ρ} {R : ρ → RecordId → Prop} {record : ρ}

/-- On a record that keeps to the schema, an expression is absent or of the kind of its static
type; its conversions are absent only where their operands are; and what it compares, by an
operator or by a built-in method, is of one kind, so that only a double that is not a number has
no order.  The same holds of each part of an expression, which is an expression itself. -/
theorem value_fits_type {e : Expr} {t : TypedPlan} (he : elaborate schema root e = .ok t)
    (hhost : host.Conforms schema R) (hrec : R record root) :
    (t.plan.value host record).Fits R t.type.base ∧
      (∀ c p, (Plan.convert c p).Within t.plan → (Plan.convert c p).value host record = .null →
        p.value host record = .null) ∧
      ∀ n p q : Plan, n.Within t.plan → n.Compares p q → p.value host record ≠ .null →
        q.value host record ≠ .null →
        (p.value host record).SameKind (q.value host record) ∧
          (compareValues (p.value host record) (q.value host record) = none ↔
            (p.value host record).IsNaN ∨ (q.value host record).IsNaN) := by
  have ht : t.WellTyped schema root := elaborate_wellTyped he
  refine ⟨ht.fits hhost hrec, ?_, ?_⟩
  -- whatever stands inside a typed plan is typed, and so the rules say what it converts or compares
  · intro c p hwithin hnull
    obtain ⟨b, hb⟩ := ht.of_within hwithin
    exact hb.eq_null_of_convert hhost hrec hnull
  · intro n p q hwithin hcompares hp hq
    obtain ⟨b, hb⟩ := ht.of_within hwithin
    have hsame := hb.sameKind_of_compares hhost hrec hcompares hp hq
    exact ⟨hsame, hsame.compareValues_eq_none_iff⟩

/-- A person of the samples: the types of a member of an employer and of a member of the person
say that they can be compared. -/
theorem value_fits_type_of_employees_gt_age :
    let p : Sample.Person :=
      ⟨"John Doe", 34, some "john@acme.test", 92000.0, true, 0, some ⟨"Acme Corp", 1200⟩⟩
    let employees : Plan := .member (.member .root "Company") "Employees"
    let age : Plan := .member .root "Age"
    elaborate Sample.schema Sample.personId
        (.compare .gt (.path ["Company", "Employees"] 0) (.path ["Age"] 20) 18) =
      .ok { plan := .compare .gt employees age, type := .bool, offset := 18 } ∧
      Sample.host.Conforms Sample.schema Sample.HasRecordType ∧
      Sample.HasRecordType (.person p) Sample.personId ∧
      (employees.value Sample.host (.person p)).SameKind (age.value Sample.host (.person p)) := by
  intro p employees age
  have he : elaborate Sample.schema Sample.personId
      (.compare .gt (.path ["Company", "Employees"] 0) (.path ["Age"] 20) 18) =
      .ok { plan := .compare .gt employees age, type := .bool, offset := 18 } := rfl
  have hp : Sample.HasRecordType (.person p) Sample.personId := rfl
  have h := value_fits_type he Sample.host_conforms hp
  have hemployees : employees.value Sample.host (.person p) ≠ .null := nofun
  have hage : age.value Sample.host (.person p) ≠ .null := nofun
  exact ⟨he, Sample.host_conforms, hp, (h.2.2 _ _ _ .refl .operator hemployees hage).1⟩

end

end RecordFilter
