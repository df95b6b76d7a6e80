import RecordFilter.Proofs.ElaborationSteps
import RecordFilter.Proofs.ExprPlaces
/-!
# Elaboration errors point at what they name

An error about a member, a method or an operator has the offset at which that name or operator
stands, and an error about a type has the offset of a node of the expression
(`elaborate_error`).  The offset of a member inside of a path is counted along the names before it
(`followPath_error`).
-/

namespace RecordFilter

/-- What the error names stands at its offset; an error about a type has one of the offsets. -/
def ElaborationError.Locates (cs : List Char) (offsets : Nat → Prop) : ElaborationError → Prop
  | unknownMember name _ offset | unknownMethod name _ _ offset
  | unsupportedOperator name _ offset => PointsAt cs offset name
  | typeMismatch _ _ offset => offsets offset

namespace TypedPlan

variable {schema : Schema} {cs : List Char} {offsets : Nat → Prop} {e : ElaborationError}
  {left right t target : TypedPlan} {args : List TypedPlan} {offset : Nat}

/-! ### Operators -/

/-- `expectBool` blames what is no truth value. -/
private theorem expectBool_error (h : t.expectBool schema = .error e) (ht : offsets t.offset) :
    e.Locates cs offsets := by
  unfold expectBool at h
  split at h
  · simp at h
  · cases h
    exact ht

/-- `logical` blames an operand that is no truth value. -/
private theorem logical_error {op : Connective} (h : logical schema op left right offset = .error e)
    (hl : offsets left.offset) (hr : offsets right.offset) : e.Locates cs offsets := by
  simp only [logical, Except.bind_eq_error_iff] at h
  -- the left operand is looked at first, and what joins the two cannot fail
  rcases h with h | ⟨_, _, h | ⟨_, _, h⟩⟩
  · exact expectBool_error h hl
  · exact expectBool_error h hr
  · simp at h

/-- `TypedPlan.not` blames an operand that is no truth value. -/
private theorem not_error (h : TypedPlan.not schema t offset = .error e) (ht : offsets t.offset) :
    e.Locates cs offsets := by
  simp only [TypedPlan.not, Except.bind_eq_error_iff] at h
  rcases h with h | ⟨_, _, h⟩
  · exact expectBool_error h ht
  · simp at h

/-- A comparison with `null` blames the operator or the `null`. -/
private theorem checkNull_error {op : Comparison} (h : checkNull schema op left right offset = .error e)
    (hop : PointsAt cs offset op.symbol) (hl : offsets left.offset) : e.Locates cs offsets := by
  unfold checkNull at h
  -- an order is refused first, then what cannot be absent
  split at h
  · cases h
    exact hop
  · split at h
    · cases h
      exact hl
    · simp at h

/-- `checkBase` blames the operator that is not defined on a base type. -/
private theorem checkBase_error {op : Comparison} {base : BaseType}
    (h : checkBase schema op base offset = .error e) (hop : PointsAt cs offset op.symbol) :
    e.Locates cs offsets := by
  unfold checkBase at h
  split at h
  · cases h
    exact hop
  · split at h
    · cases h
      exact hop
    · simp at h
  · simp at h

/-- `incomparable` blames one of the operands or the operator. -/
private theorem incomparable_locates (hl : offsets left.offset) (hr : offsets right.offset)
    (ho : offsets offset) : (incomparable schema left right offset).Locates cs offsets := by
  unfold incomparable
  -- a constant is blamed before the operator, the right one first
  split
  · exact hr
  · split
    · exact hl
    · exact ho

/-- `compare` blames its operator or one of its operands. -/
private theorem compare_error {op : Comparison} (h : compare schema op left right offset = .error e)
    (hop : PointsAt cs offset op.symbol) (ho : offsets offset) (hl : offsets left.offset)
    (hr : offsets right.offset) : e.Locates cs offsets := by
  unfold compare at h
  split at h
  · -- the blame goes to the side that is the literal `null`
    split at h
    · rcases Except.bind_eq_error_iff.mp h with h | ⟨_, _, h⟩
      · exact checkNull_error h hop hl
      · simp at h
    · rcases Except.bind_eq_error_iff.mp h with h | ⟨_, _, h⟩
      · exact checkNull_error h hop hr
      · simp at h
  · split at h
    · cases h
      exact incomparable_locates hl hr ho
    · rcases Except.bind_eq_error_iff.mp h with h | ⟨_, _, h⟩
      · exact checkBase_error h hop
      · simp at h

/-! ### Calls -/

/-- `convertArgs` blames arguments one by one. -/
private theorem convertArgs_error {params : List DeclaredType}
    (h : convertArgs schema params args = .error e) (hargs : ∀ a ∈ args, offsets a.offset) :
    e.Locates cs offsets := by
  induction params generalizing args with
  | nil => cases h
  | cons param params ih =>
    cases args with
    | nil => cases h
    | cons a args =>
      rw [List.forall_mem_cons] at hargs
      simp only [convertArgs] at h
      -- an argument that converts leaves the blame to a later one
      split at h
      · rcases Except.bind_eq_error_iff.mp h with h | ⟨_, _, h⟩
        · exact ih h hargs.2
        · simp at h
      · cases h
        exact hargs.1

/-- `call` blames its method or one of its arguments. -/
private theorem call_error {method : String} (h : call schema target method args offset = .error e)
    (hm : PointsAt cs offset method) (hargs : ∀ a ∈ args, offsets a.offset) :
    e.Locates cs offsets := by
  simp only [call] at h
  split at h
  · cases h
    exact hm
  · rcases Except.bind_eq_error_iff.mp h with h | ⟨_, _, h⟩
    · -- if no candidate takes the arguments, one of them is blamed
      exact convertArgs_error (resolve_eq_error h) hargs
    · simp at h

/-! ### Offsets of plans -/

/-- `logical` keeps the offset of its operator. -/
private theorem logical_offset {op : Connective} (h : logical schema op left right offset = .ok t) :
    t.offset = offset := by
  obtain ⟨-, -, rfl⟩ := logical_eq_ok h
  rfl

/-- `TypedPlan.not` keeps the offset of its prefix. -/
private theorem not_offset (h : TypedPlan.not schema target offset = .ok t) : t.offset = offset := by
  obtain ⟨-, rfl⟩ := not_eq_ok h
  rfl

/-- `compare` keeps the offset of its operator. -/
private theorem compare_offset {op : Comparison} (h : compare schema op left right offset = .ok t) :
    t.offset = offset := by
  obtain ⟨_, _, -, -, rfl⟩ := compare_eq_ok h
  rfl

/-- `call` keeps the offset of its method. -/
private theorem call_offset {method : String} (h : call schema target method args offset = .ok t) :
    t.offset = offset := by
  obtain ⟨_, _, -, -, -, rfl⟩ := call_eq_ok h
  rfl

end TypedPlan

/-! ### Expressions -/

section

variable {schema : Schema} {root : RecordId} {cs : List Char} {offsets : Nat → Prop}

/-- `followPath` finds a name that is no member in the path, at its offset. -/
theorem followPath_error {plan : Plan} {type : StaticType} {offset : Nat} {names : List String}
    {e : ElaborationError} (h : followPath schema plan type offset names = .error e)
    (hpath : PointsAt cs offset (".".intercalate names)) : e.Locates cs offsets := by
  induction names generalizing plan type offset with
  | nil => cases h
  | cons name names ih =>
    -- the first name stands where the path does, with or without a dot after it
    have hname : PointsAt cs offset name := by
      cases names with
      | nil => rwa [String.intercalate_singleton] at hpath
      | cons next more =>
        rw [String.intercalate_cons_cons] at hpath
        exact hpath.left.left
    -- the last name has no dot after it, but then nothing follows that could fail
    have hnext (plan : Plan) (type : StaticType)
        (h : followPath schema plan type (offset + name.length + 1) names = .error e) :
        e.Locates cs offsets := by
      cases names with
      | nil => cases h
      | cons next more =>
        rw [String.intercalate_cons_cons] at hpath
        have hright := hpath.right
        rw [String.length_append, ← Nat.add_assoc] at hright
        exact ih h hright
    -- a name is looked up in a record, or is the length of a text; otherwise it is blamed
    simp only [followPath] at h
    split at h
    · split at h
      · exact hnext _ _ h
      · cases h
        exact hname
    · split at h
      · exact hnext _ _ h
      · cases h
        exact hname
    · cases h
      exact hname

/-- `elaborate` keeps the offset of an expression. -/
private theorem elaborate_offset {e : Expr} {t : TypedPlan} (h : elaborate schema root e = .ok t) :
    t.offset = e.offset := by
  cases e with
  | logical op l r o =>
    simp only [elaborate, Except.bind_eq_ok_iff] at h
    obtain ⟨_, _, _, _, h⟩ := h
    exact TypedPlan.logical_offset h
  | compare op l r o =>
    simp only [elaborate, Except.bind_eq_ok_iff] at h
    obtain ⟨_, _, _, _, h⟩ := h
    exact TypedPlan.compare_offset h
  | not e o =>
    simp only [elaborate, Except.bind_eq_ok_iff] at h
    obtain ⟨_, _, h⟩ := h
    exact TypedPlan.not_offset h
  | path names o =>
    simp only [elaborate, Except.bind_eq_ok_iff] at h
    obtain ⟨_, _, h⟩ := h
    cases h
    rfl
  | literal value o =>
    cases h
    rfl
  | call target method args o =>
    simp only [elaborate, Except.bind_eq_ok_iff] at h
    obtain ⟨_, _, _, _, h⟩ := h
    exact TypedPlan.call_offset h

/-- `elaborateAll` gives no offset but those of its expressions. -/
private theorem elaborateAll_offset {es : List Expr} {ts : List TypedPlan}
    (h : elaborateAll schema root es = .ok ts) : ∀ t ∈ ts, ∃ e ∈ es, t.offset = e.offset := by
  induction es generalizing ts with
  | nil =>
    cases h
    exact List.forall_mem_nil _
  | cons e es ih =>
    simp only [elaborateAll, Except.bind_eq_ok_iff] at h
    obtain ⟨t, ht, ts, hts, h⟩ := h
    cases h
    rw [List.forall_mem_cons]
    refine ⟨⟨e, List.mem_cons_self, elaborate_offset ht⟩, fun t' ht' => ?_⟩
    obtain ⟨e', he', hoff⟩ := ih hts t' ht'
    exact ⟨e', List.mem_cons_of_mem _ he', hoff⟩

/-- `nodesAll` has the expressions themselves. -/
private theorem Expr.mem_nodesAll {e : Expr} {es : List Expr} (h : e ∈ es) : e ∈ nodesAll es := by
  induction es with
  | nil => simp at h
  | cons e' es ih =>
    rw [nodesAll, List.mem_append]
    rcases List.mem_cons.mp h with rfl | h
    · exact .inl e.mem_nodes
    · exact .inr (ih h)

mutual

/-- `elaborate` fails with an error that points at what it names, or has the offset of a node. -/
theorem elaborate_error {e : Expr} {err : ElaborationError}
    (h : elaborate schema root e = .error err) (hs : ∀ n ∈ e.nodes, n.StandsIn cs)
    (ho : ∀ n ∈ e.nodes, offsets n.offset) : err.Locates cs offsets := by
  match e with
  | .logical op l r o =>
    rw [Expr.nodes, List.forall_mem_cons, List.forall_mem_append] at hs ho
    simp only [elaborate, Except.bind_eq_error_iff] at h
    rcases h with h | ⟨tl, htl, h | ⟨tr, htr, h⟩⟩
    · exact elaborate_error h hs.2.1 ho.2.1
    · exact elaborate_error h hs.2.2 ho.2.2
    · refine TypedPlan.logical_error h ?_ ?_
      · exact elaborate_offset htl ▸ ho.2.1 l l.mem_nodes
      · exact elaborate_offset htr ▸ ho.2.2 r r.mem_nodes
  | .compare op l r o =>
    rw [Expr.nodes, List.forall_mem_cons, List.forall_mem_append] at hs ho
    simp only [elaborate, Except.bind_eq_error_iff] at h
    rcases h with h | ⟨tl, htl, h | ⟨tr, htr, h⟩⟩
    · exact elaborate_error h hs.2.1 ho.2.1
    · exact elaborate_error h hs.2.2 ho.2.2
    · refine TypedPlan.compare_error h hs.1.pointsAt ho.1 ?_ ?_
      · exact elaborate_offset htl ▸ ho.2.1 l l.mem_nodes
      · exact elaborate_offset htr ▸ ho.2.2 r r.mem_nodes
  | .not e o =>
    rw [Expr.nodes, List.forall_mem_cons] at hs ho
    simp only [elaborate, Except.bind_eq_error_iff] at h
    rcases h with h | ⟨t, ht, h⟩
    · exact elaborate_error h hs.2 ho.2
    · exact TypedPlan.not_error h (elaborate_offset ht ▸ ho.2 e e.mem_nodes)
  | .path names o =>
    rw [Expr.nodes, List.forall_mem_singleton] at hs
    simp only [elaborate, Except.bind_eq_error_iff] at h
    rcases h with h | ⟨_, _, h⟩
    · exact followPath_error h hs.pointsAt
    · simp at h
  | .literal value o => cases h
  | .call target method args o =>
    rw [Expr.nodes, List.forall_mem_cons, List.forall_mem_append] at hs ho
    simp only [elaborate, Except.bind_eq_error_iff] at h
    rcases h with h | ⟨t, ht, h | ⟨ts, hts, h⟩⟩
    · exact elaborate_error h hs.2.1 ho.2.1
    · exact elaborateAll_error h hs.2.2 ho.2.2
    · -- an argument is blamed at the offset of its expression
      refine TypedPlan.call_error h hs.1.pointsAt fun a ha => ?_
      obtain ⟨e, he, hoff⟩ := elaborateAll_offset hts a ha
      exact hoff ▸ ho.2.2 e (Expr.mem_nodesAll he)

/-- `elaborate_error` for the first of some expressions that has no meaning. -/
private theorem elaborateAll_error {es : List Expr} {err : ElaborationError}
    (h : elaborateAll schema root es = .error err) (hs : ∀ n ∈ Expr.nodesAll es, n.StandsIn cs)
    (ho : ∀ n ∈ Expr.nodesAll es, offsets n.offset) : err.Locates cs offsets := by
  match es with
  | [] => cases h
  | e :: es =>
    rw [Expr.nodesAll, List.forall_mem_append] at hs ho
    simp only [elaborateAll, Except.bind_eq_error_iff] at h
    rcases h with h | ⟨_, _, h | ⟨_, _, h⟩⟩
    · exact elaborate_error h hs.1 ho.1
    · exact elaborateAll_error h hs.2 ho.2
    · simp at h

end

/-- `planFilter` fails with an error that points at what it names, or has the offset of a node. -/
theorem planFilter_error {e : Expr} {err : ElaborationError}
    (h : planFilter schema root e = .error err) (hs : ∀ n ∈ e.nodes, n.StandsIn cs) :
    err.Locates cs fun o => ∃ n ∈ e.nodes, n.offset = o := by
  simp only [planFilter, Except.bind_eq_error_iff] at h
  rcases h with h | ⟨t, ht, h | ⟨_, _, h⟩⟩
  · exact elaborate_error h hs fun n hn => ⟨n, hn, rfl⟩
  · exact TypedPlan.expectBool_error h ⟨e, e.mem_nodes, (elaborate_offset ht).symm⟩
  · simp at h

end

end RecordFilter
