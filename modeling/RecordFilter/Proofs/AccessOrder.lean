import RecordFilter.Proofs.DeclaredAccess
/-!
# Filters ask in the order of the source

The questions that a filter can ask stand in its expression: `Expr.occurrences` lists them from left to
right, the questions of operands, targets and arguments before the question that needs them.  Each
stands under guards, which say of other parts of the expression what they must be for it to be asked:
the right operand of `&&` or `||` needs a left one that does not decide, a name of a path or a method
call needs a record, and the arguments of a built-in method need a target that is present.

Running the filter asks the questions whose guards hold, each once and in their order, and no others
(`accesses_in_order`).  This holds on every record, also on one that does not keep to the schema.
-/

namespace RecordFilter

variable {ρ : Type}

/-- The record that a value is, if it is one. -/
def Value.record? : Value ρ → Option ρ
  | record r => some r
  | _ => none

/-- The kind is one of records. -/
def BaseType.isRecord : BaseType → Bool
  | record _ => true
  | _ => false

/-- `BaseType.isRecord` finds the types of records and no others. -/
private theorem BaseType.isRecord_iff {b : BaseType} : b.isRecord = true ↔ ∃ id, b = .record id := by
  cases b <;> simp [isRecord]

/-! ### Questions in an expression -/

/-- A question, whatever record it is put to. -/
inductive Question where
  /-- A member is read. -/
  | read (member : String)
  /-- A method is called. -/
  | call (method : String)
deriving DecidableEq

namespace Access

/-- What is asked. -/
def question : Access ρ → Question
  | read _ member => .read member
  | call _ method _ => .call method

/-- The record that is asked. -/
def record : Access ρ → ρ
  | read r _ | call r _ _ => r

end Access

/-- What part of an expression must be for another part to run. -/
inductive Guard where
  /-- The left operand of `&&` is true. -/
  | isTrue (e : Expr)
  /-- The left operand of `||` is not true. -/
  | isNotTrue (e : Expr)
  /-- The target of a built-in method is present. -/
  | isPresent (e : Expr)
  /-- What a member is read from, or a method is called on, is a record. -/
  | isRecord (e : Expr)

/-- A place in an expression where a question is asked. -/
structure Occurrence where
  /-- The question. -/
  question : Question
  /-- The part of the expression that is asked. -/
  target : Expr
  /-- What must hold for the question to be asked. -/
  guards : List Guard

/-- The place, if it lies in a part that runs only under the guard. -/
def Occurrence.guardedBy (g : Guard) (o : Occurrence) : Occurrence := { o with guards := g :: o.guards }

/-- The right operand runs only if the left one does not decide. -/
def Connective.guard : Connective → Expr → Guard
  | and => .isTrue
  | or => .isNotTrue

namespace Expr

/-- The expression has a type of records. -/
def hasRecordType (schema : Schema) (root : RecordId) (e : Expr) : Bool :=
  match elaborate schema root e with
  | .ok t => t.type.base.isRecord
  | .error _ => false

/-- The reads of the names of a path that come after the names in `before`, which lead to a value of
the type.  The length of a text reads nothing. -/
def pathOccurrences (schema : Schema) (offset : Nat) (before : List String) (type : StaticType) :
    List String → List Occurrence
  | [] => []
  | name :: names =>
    match type.base with
    | .record id =>
      match (schema.recordType id).member? name with
      | some m =>
        ⟨.read m.name, .path before offset, [.isRecord (.path before offset)]⟩ ::
          pathOccurrences schema offset (before ++ [name]) (.ofDeclared m.type) names
      | none => []
    | _ => pathOccurrences schema offset (before ++ [name]) ⟨.int, type.nullable⟩ names

mutual

/-- The questions in an expression, in the order of the source. -/
def occurrences (schema : Schema) (root : RecordId) : Expr → List Occurrence
  | logical op left right _ =>
    left.occurrences schema root ++
      (right.occurrences schema root).map (.guardedBy (op.guard left))
  | compare _ left right _ => left.occurrences schema root ++ right.occurrences schema root
  | not operand _ => operand.occurrences schema root
  | path names offset => pathOccurrences schema offset [] (.record root) names
  | literal _ _ => []
  | call target method args _ =>
    target.occurrences schema root ++
      if target.hasRecordType schema root then
        (occurrencesAll schema root args).map (.guardedBy (.isRecord target)) ++
          [⟨.call method, target, [.isRecord target]⟩]
      else
        (occurrencesAll schema root args).map (.guardedBy (.isPresent target))

/-- The questions in expressions, one expression after the other. -/
def occurrencesAll (schema : Schema) (root : RecordId) : List Expr → List Occurrence
  | [] => []
  | e :: es => e.occurrences schema root ++ occurrencesAll schema root es

end

end Expr

/-! ### Questions that are asked -/

section

variable (schema : Schema) (root : RecordId) (host : Host ρ) (record : ρ)

/-- The value of an expression on a record, if it has a meaning. -/
def Expr.value (e : Expr) : Value ρ :=
  match elaborate schema root e with
  | .ok t => t.plan.value host record
  | .error _ => .null

/-- The guard holds on the record. -/
def Guard.holds : Guard → Bool
  | isTrue e => (e.value schema root host record).isTrue
  | isNotTrue e => !(e.value schema root host record).isTrue
  | isPresent e => !(e.value schema root host record).isNull
  | isRecord e => (e.value schema root host record).record?.isSome

/-- All guards of the place hold on the record. -/
def Occurrence.fires (o : Occurrence) : Bool := o.guards.all (·.holds schema root host record)

/-- The access is the question of the place, put to the record that its target is. -/
def Occurrence.Makes (o : Occurrence) (a : Access ρ) : Prop :=
  a.question = o.question ∧ o.target.value schema root host record = .record a.record

/-- The accesses are those that the places make whose guards hold. -/
def Asks (os : List Occurrence) (as : List (Access ρ)) : Prop :=
  List.Forall₂ (Occurrence.Makes schema root host record)
    (os.filter (·.fires schema root host record)) as

end

variable {schema : Schema} {root : RecordId} {host : Host ρ} {record : ρ}

/-- `Expr.value` of an expression that has a meaning is what its plan gives. -/
private theorem Expr.value_eq {e : Expr} {t : TypedPlan} (h : elaborate schema root e = .ok t)
    (host : Host ρ) (record : ρ) : e.value schema root host record = t.plan.value host record := by
  rw [Expr.value, h]

/-- `Expr.hasRecordType` of an expression that has a meaning looks at the type of its plan. -/
private theorem Expr.hasRecordType_eq {e : Expr} {t : TypedPlan} (h : elaborate schema root e = .ok t) :
    e.hasRecordType schema root = t.type.base.isRecord := by
  rw [Expr.hasRecordType, h]

/-- A guard that `Occurrence.guardedBy` adds is one more condition of `Occurrence.fires`. -/
@[simp] theorem Occurrence.fires_guardedBy (g : Guard) (o : Occurrence) :
    (o.guardedBy g).fires schema root host record =
      (g.holds schema root host record && o.fires schema root host record) := rfl

namespace Asks

variable {os os' : List Occurrence} {as as' : List (Access ρ)}

/-- `Asks` for no places: nothing is asked. -/
theorem nil : Asks schema root host record [] [] := List.Forall₂.nil

/-- `Asks` goes along the places: what two lists of them ask is asked one after the other. -/
theorem append (h : Asks schema root host record os as) (h' : Asks schema root host record os' as') :
    Asks schema root host record (os ++ os') (as ++ as') := by
  unfold Asks
  rw [List.filter_append]
  exact List.rel_append h h'

/-- What `Occurrence.guardedBy` puts under a guard is asked only if the guard holds. -/
private theorem guarded (h : Asks schema root host record os as) (g : Guard) :
    Asks schema root host record (os.map (.guardedBy g))
      (if g.holds schema root host record then as else []) := by
  unfold Asks
  cases hg : g.holds schema root host record with
  -- under a guard that holds, the same places fire as without it
  | true =>
    have hfilter : (os.map (Occurrence.guardedBy g)).filter (Occurrence.fires schema root host record) =
        (os.filter (Occurrence.fires schema root host record)).map (Occurrence.guardedBy g) := by
      simp [List.filter_map, Function.comp_def, hg]
    rw [hfilter, List.forall₂_map_left_iff]
    exact h
  -- under a guard that fails, no place fires
  | false =>
    have hfilter :
        (os.map (Occurrence.guardedBy g)).filter (Occurrence.fires schema root host record) = [] := by
      simp [List.filter_map, Function.comp_def, hg]
    rw [hfilter]
    exact .nil

/-- A question under the guard `isRecord` is asked if there is a record. -/
theorem single {e : Expr} {q : Question} {access : ρ → Access ρ}
    (hq : ∀ r, (access r).question = q) (hr : ∀ r, (access r).record = r) :
    Asks schema root host record [⟨q, e, [.isRecord e]⟩]
      ((e.value schema root host record).record?.map access).toList := by
  -- the only guard of the place is that its target is a record
  have hfires : (⟨q, e, [.isRecord e]⟩ : Occurrence).fires schema root host record =
      (e.value schema root host record).record?.isSome := Bool.and_true _
  unfold Asks
  rw [List.filter_singleton, hfires]
  cases hv : e.value schema root host record with
  | record r => exact .cons ⟨hq r, by rw [hr, hv]⟩ .nil
  | _ => exact .nil

/-- The questions of the accesses are those of the places that fire. -/
private theorem map_question (h : Asks schema root host record os as) :
    (os.filter (·.fires schema root host record)).map (·.question) = as.map Access.question := by
  -- both lists go along with `Forall₂`, and what a place makes is its question
  rw [← List.forall₂_eq_eq_eq, List.forall₂_map_left_iff, List.forall₂_map_right_iff]
  exact h.imp fun _ _ hmakes => hmakes.1.symm

end Asks

/-! ### Accesses of plans -/

namespace Plan

/-- A connective runs its right plan if `Connective.guard` of its left operand holds. -/
private theorem accesses_connective (op : Connective) {e : Expr} {left : TypedPlan} {right : Plan}
    (he : elaborate schema root e = .ok left) :
    (op.plan left.plan right).accesses host record =
      left.plan.accesses host record ++
        if (op.guard e).holds schema root host record then right.accesses host record else [] := by
  cases op with
  | and => rw [Connective.guard, Guard.holds, Expr.value_eq he, Connective.plan, accesses]
  | or =>
    rw [Connective.guard, Guard.holds, Expr.value_eq he, Connective.plan, accesses]
    -- `||` runs its right plan where the guard is that the left one is not true
    cases (left.plan.value host record).isTrue <;> rfl

/-- `Plan.member` reads from the record that its target is, and from no other value. -/
private theorem accesses_member (target : Plan) (name : String) :
    (member target name).accesses host record =
      target.accesses host record ++
        ((target.value host record).record?.map (.read · name)).toList := by
  rw [accesses]
  cases target.value host record <;> rfl

/-- `Plan.builtin` runs its arguments unless its target is absent. -/
private theorem accesses_builtin (method : Builtin) (target : Plan) (args : List Plan) :
    (builtin method target args).accesses host record =
      target.accesses host record ++
        if !(target.value host record).isNull then accessesAll host record args else [] := by
  rw [accesses]
  cases target.value host record <;> rfl

/-- `Plan.invoke` runs its arguments and then calls, if its target is a record. -/
private theorem accesses_invoke (target : Plan) (method : String) (args : List Plan) :
    (invoke target method args).accesses host record =
      target.accesses host record ++
        ((if (target.value host record).record?.isSome then accessesAll host record args else []) ++
          ((target.value host record).record?.map
            (.call · method (values host record args))).toList) := by
  rw [accesses]
  cases target.value host record <;> rfl

end Plan

namespace TypedPlan

/-- `Becomes` leaves the questions of a plan as they are. -/
private theorem Becomes.accesses_eq {t t' : TypedPlan} (h : t.Becomes schema t') :
    t'.plan.accesses host record = t.plan.accesses host record := by
  cases h with
  | same => rfl
  | coerced h =>
    -- constants ask nothing, and a conversion asks nothing of its own
    rcases coerce?_eq_some h with ⟨c, c', hc, -, hc', -⟩ | ⟨hconvert, -⟩
    · rw [hc, hc']
      rfl
    · rcases Plan.convertTo?_eq_some hconvert with hplan | ⟨conversion, hplan⟩ <;> rw [hplan]
      rfl

/-- `Becomes.accesses_eq` for each of some plans. -/
private theorem Becomes.accessesAll_eq {ts ts' : List TypedPlan} (h : List.Forall₂ (Becomes schema) ts ts') :
    Plan.accessesAll host record (ts'.map (·.plan)) =
      Plan.accessesAll host record (ts.map (·.plan)) := by
  induction h with
  | nil => rfl
  | cons h _ ih => rw [List.map_cons, List.map_cons, Plan.accessesAll, Plan.accessesAll, h.accesses_eq, ih]

end TypedPlan

/-! ### Expressions ask as they say -/

/-- What `followPath` makes of the rest of a path asks for its names, one after the other. -/
private theorem followPath_asks (before : List String) {names : List String} {p q : Plan} {type t : StaticType}
    {offset offset' : Nat}
    (hbefore : followPath schema .root (.record root) offset before = .ok (p, type))
    (h : followPath schema p type offset' names = .ok (q, t)) :
    ∃ as, q.accesses host record = p.accesses host record ++ as ∧
      Asks schema root host record (Expr.pathOccurrences schema offset before type names) as := by
  -- the names that came before are kept, because the places of the rest say what they lead to
  induction names generalizing before p type offset' with
  | nil =>
    cases h
    exact ⟨[], (List.append_nil _).symm, .nil⟩
  | cons name names ih =>
    obtain ⟨p', type', hstep, h⟩ := followPath_cons_eq_ok_iff.mp h
    -- the names up to this one lead to where the step leads
    have hname : followPath schema p type 0 [name] = .ok (p', type') :=
      followPath_cons_eq_ok_iff.mpr ⟨p', type', hstep, rfl⟩
    have hsofar := followPath_append hbefore hname
    obtain ⟨as, has, hasks⟩ := ih _ hsofar h
    cases hstep with
    | member hbase hm =>
      have hpath : elaborate schema root (.path before offset) = .ok ⟨p, type, offset, none⟩ := by
        rw [elaborate, hbefore]
        rfl
      rw [Plan.accesses_member, List.append_assoc] at has
      refine ⟨_, has, ?_⟩
      simp only [Expr.pathOccurrences, hbase, hm]
      rw [← List.singleton_append, ← Expr.value_eq hpath]
      exact .append (.single (fun _ => rfl) fun _ => rfl) hasks
    | length hbase _ =>
      -- the length of a text is no question
      refine ⟨as, has, ?_⟩
      rw [Expr.pathOccurrences, hbase]
      exact hasks

/-- What `TypedPlan.call` makes asks for the target, then for the arguments, and then for itself. -/
private theorem TypedPlan.call_asks {e : Expr} {target t : TypedPlan} {method : String} {es : List Expr}
    {args : List TypedPlan} {offset : Nat} (he : elaborate schema root e = .ok target)
    (htarget : Asks schema root host record (e.occurrences schema root)
      (target.plan.accesses host record))
    (hargs : Asks schema root host record (Expr.occurrencesAll schema root es)
      (Plan.accessesAll host record (args.map (·.plan))))
    (h : TypedPlan.call schema target method args offset = .ok t) :
    Asks schema root host record ((Expr.call e method es offset).occurrences schema root)
      (t.plan.accesses host record) := by
  obtain ⟨c, converted, hc, hlen, htakes, rfl⟩ := call_eq_ok h
  rw [← Becomes.accessesAll_eq (htakes.becomes hlen)] at hargs
  rw [Expr.occurrences]
  have hvalue := Expr.value_eq he host record
  -- a method that a record declares is asked itself, after its arguments; a built-in method is not
  rcases Candidate.mem_named hc with ⟨id, m, hbase, -, hname, rfl⟩ | ⟨d, b, hbase, hb, rfl⟩
  · have htype : e.hasRecordType schema root = true := by
      rw [Expr.hasRecordType_eq he, hbase]
      rfl
    simp only [Candidate.ofMethod]
    rw [if_pos htype, Plan.accesses_invoke, ← hvalue]
    refine htarget.append (.append (hargs.guarded (.isRecord e)) ?_)
    exact .single (fun _ => by rw [hname]; rfl) fun _ => rfl
  · have htype : ¬ e.hasRecordType schema root = true := by
      rw [Expr.hasRecordType_eq he, hbase, BaseType.isRecord_iff, not_exists]
      exact hb.base_ne_record
    simp only [Candidate.ofBuiltin]
    rw [if_neg htype, Plan.accesses_builtin, ← hvalue]
    exact htarget.append (hargs.guarded (.isPresent e))

mutual

/-- What `elaborate` makes of an expression asks those of its `occurrences` whose guards hold. -/
private theorem elaborate_asks {e : Expr} {t : TypedPlan} (h : elaborate schema root e = .ok t) :
    Asks schema root host record (e.occurrences schema root) (t.plan.accesses host record) := by
  match e with
  | .logical op left right offset =>
    simp only [elaborate, Except.bind_eq_ok_iff] at h
    obtain ⟨l, hl, r, hr, h⟩ := h
    obtain ⟨-, -, rfl⟩ := TypedPlan.logical_eq_ok h
    rw [Expr.occurrences, Plan.accesses_connective op hl]
    exact (elaborate_asks hl).append ((elaborate_asks hr).guarded (op.guard left))
  | .compare op left right offset =>
    simp only [elaborate, Except.bind_eq_ok_iff] at h
    obtain ⟨l, hl, r, hr, h⟩ := h
    obtain ⟨l', r', hl', hr', rfl⟩ := TypedPlan.compare_eq_ok h
    rw [Expr.occurrences, Plan.accesses, hl'.accesses_eq, hr'.accesses_eq]
    exact (elaborate_asks hl).append (elaborate_asks hr)
  | .not operand offset =>
    simp only [elaborate, Except.bind_eq_ok_iff] at h
    obtain ⟨o, ho, h⟩ := h
    obtain ⟨-, rfl⟩ := TypedPlan.not_eq_ok h
    rw [Expr.occurrences, Plan.accesses]
    exact elaborate_asks ho
  | .path names offset =>
    simp only [elaborate, Except.bind_eq_ok_iff] at h
    obtain ⟨⟨q, type⟩, hq, h⟩ := h
    cases h
    obtain ⟨as, has, hasks⟩ := followPath_asks [] rfl hq
    rw [has]
    exact hasks
  | .literal literal offset =>
    cases h
    exact .nil
  | .call target method args offset =>
    simp only [elaborate, Except.bind_eq_ok_iff] at h
    obtain ⟨u, hu, as, has, h⟩ := h
    exact TypedPlan.call_asks hu (elaborate_asks hu) (elaborateAll_asks has) h

/-- Expressions ask, one after the other, the questions in `Expr.occurrencesAll`. -/
private theorem elaborateAll_asks {es : List Expr} {ts : List TypedPlan}
    (h : elaborateAll schema root es = .ok ts) :
    Asks schema root host record (Expr.occurrencesAll schema root es)
      (Plan.accessesAll host record (ts.map (·.plan))) := by
  match es with
  | [] =>
    cases h
    exact .nil
  | e :: es =>
    simp only [elaborateAll, Except.bind_eq_ok_iff] at h
    obtain ⟨t, ht, ts, hts, h⟩ := h
    cases h
    exact (elaborate_asks ht).append (elaborateAll_asks hts)

end

/-! ### Filters -/

/-- Of the questions in its expression (`Expr.occurrences`), a filter asks those whose guards hold, each
once and in the order of the source, of the records that their targets are.  So what it asks is what
stands there, with some questions left out; each of these for a guard that fails, which is not that the
record that the filter runs on is one. -/
theorem accesses_in_order {e : Expr} {p : Predicate} (hp : Predicate.ofExpr schema root e = .ok p)
    (host : Host ρ) (record : ρ) :
    List.Forall₂ (Occurrence.Makes schema root host record)
        ((e.occurrences schema root).filter (·.fires schema root host record))
        (p.accesses host record) ∧
      List.Sublist ((p.accesses host record).map Access.question)
        ((e.occurrences schema root).map (·.question)) ∧
      ∀ o ∈ e.occurrences schema root, o.fires schema root host record = false →
        ∃ g ∈ o.guards, g.holds schema root host record = false ∧
          ∀ offset, g ≠ .isRecord (.path [] offset) := by
  obtain ⟨t, ht, -, hplan⟩ := planFilter_eq_ok_iff.mp (Predicate.ofExpr_eq_ok_iff.mp hp)
  have hasks : Asks schema root host record (e.occurrences schema root) (p.accesses host record) := by
    rw [Predicate.accesses, ← hplan]
    exact elaborate_asks ht
  refine ⟨hasks, ?_, ?_⟩
  -- filtering only leaves places out
  · rw [← hasks.map_question]
    exact List.filter_sublist.map _
  · intro o _ hfires
    -- what does not fire has a guard that fails
    rw [Occurrence.fires, List.all_eq_false] at hfires
    obtain ⟨g, hg, hholds⟩ := hfires
    refine ⟨g, hg, Bool.eq_false_iff.mpr hholds, ?_⟩
    rintro offset rfl
    -- a path without names is the record itself
    exact hholds rfl

/-- An account is asked for its backer first.  Only if there is one, it is asked for its limit, and the
backer whether it covers that; and only if the backer does, the account is asked for its limit again. -/
theorem accesses_in_order_of_backer_covers_limit :
    let backer : Sample.Account := .mk 500 none
    let backed : Sample.Account := .mk 200 (some backer)
    let e : Expr :=
      .logical .and (.call (.path ["backer"] 0) "Covers" [.path ["limit"] 14] 7)
        (.compare .gt (.path ["limit"] 24) (.literal (.number "1") 32) 30) 21
    let covers : Plan :=
      .invoke (.member .root "Backer") "Covers" [.convert .toFloat (.member .root "Limit")]
    let p : Predicate := ⟨.and covers (.compare .gt (.member .root "Limit") (.const (.int 1)))⟩
    let places := e.occurrences Sample.Account.schema Sample.Account.accountId
    let fired (a : Sample.Account) := places.filter
      (·.fires Sample.Account.schema Sample.Account.accountId Sample.Account.host a)
    Predicate.ofExpr Sample.Account.schema Sample.Account.accountId e = .ok p ∧
      places.map (·.question) = [.read "Backer", .read "Limit", .call "Covers", .read "Limit"] ∧
      p.accesses Sample.Account.host backer = [.read backer "Backer"] ∧
      p.accesses Sample.Account.host backed =
        [.read backed "Backer", .read backed "Limit",
          .call backer "Covers" [.float (int64Float 200)], .read backed "Limit"] ∧
      List.Forall₂ (Occurrence.Makes Sample.Account.schema Sample.Account.accountId
        Sample.Account.host backer) (fired backer) [.read backer "Backer"] ∧
      (fired backed).length = 4 := by
  intro backer backed e covers p places fired
  have hp : Predicate.ofExpr Sample.Account.schema Sample.Account.accountId e = .ok p := rfl
  have hbacked := (accesses_in_order hp Sample.Account.host backed).1
  exact ⟨hp, rfl, rfl, rfl, (accesses_in_order hp Sample.Account.host backer).1, hbacked.length_eq⟩

end RecordFilter
