import RecordFilter.Proofs.TypeSoundness
/-!
# Filters ask only what is declared

A host answers any question: to a name that it does not know it says that there is no such value, and
a filter goes on with that.  So a question with a wrong name, or with arguments that the method was
not declared for, would go unnoticed.  `Access.Declared` says that a question is put to a record as
its type declares it.  On a record that keeps to the schema, a filter puts no other questions
(`accesses_declared`): names are spelled as they were declared, whatever the filter spells, and
arguments are converted before the call.
-/

namespace RecordFilter

variable {ρ : Type}

/-- The question is declared for the type of the record that it is put to: a member by its name, or
a method by its name, with as many arguments as it has parameters, each of them absent or of the kind
of its parameter. -/
inductive Access.Declared (schema : Schema) (R : ρ → RecordId → Prop) : Access ρ → Prop where
  | read {r id m} (hr : R r id) (hm : m ∈ (schema.recordType id).members) :
      Declared schema R (.read r m.name)
  | call {r id m args} (hr : R r id) (hm : m ∈ (schema.recordType id).methods)
      (ha : List.Forall₂ (fun v d => v.Fits R d.base) args m.params) :
      Declared schema R (.call r m.name args)

namespace Plan

variable {schema : Schema} {root : RecordId} {host : Host ρ} {R : ρ → RecordId → Prop} {record : ρ}

mutual

/-- `HasType` plans ask declared questions.  The induction follows the typing rules. -/
private theorem HasType.declared_of_mem {p : Plan} {b : BaseType} {a : Access ρ}
    (h : HasType schema root p b) (hhost : host.Conforms schema R) (hrec : R record root)
    (ha : a ∈ p.accesses host record) : a.Declared schema R := by
  -- a question is one of a part, or is put by the plan itself, which only `member` and `invoke` do
  match h with
  | .const _ | .root => exact nomatch ha
  | .member ht hm =>
    rcases List.mem_append.mp ha with ha | ha
    · exact ht.declared_of_mem hhost hrec ha
    · -- only a record is read, and it has the type in which the name was looked up
      rcases (ht.fits hhost hrec).record_cases with hv | ⟨r, hv, hr⟩ <;> rw [hv] at ha
      · exact nomatch ha
      · rw [List.mem_singleton.mp ha]
        exact .read hr (RecordType.mem_of_member? hm)
  | .length ho | .not ho | .toFloat ho | .toText ho _ => exact ho.declared_of_mem hhost hrec ha
  | .and hl hr =>
    rcases List.mem_append.mp ha with ha | ha
    · exact hl.declared_of_mem hhost hrec ha
    · split at ha
      · exact hr.declared_of_mem hhost hrec ha
      · exact nomatch ha
  | .or hl hr =>
    rcases List.mem_append.mp ha with ha | ha
    · exact hl.declared_of_mem hhost hrec ha
    · split at ha
      · exact nomatch ha
      · exact hr.declared_of_mem hhost hrec ha
  | .compare hl hr _ =>
    rcases List.mem_append.mp ha with ha | ha
    · exact hl.declared_of_mem hhost hrec ha
    · exact hr.declared_of_mem hhost hrec ha
  | .builtin ht _ hargs =>
    rcases List.mem_append.mp ha with ha | ha
    · exact ht.declared_of_mem hhost hrec ha
    · split at ha
      · exact nomatch ha
      · exact hargs.declared_of_mem hhost hrec ha
  | .invoke ht hm hargs =>
    rcases List.mem_append.mp ha with ha | ha
    · exact ht.declared_of_mem hhost hrec ha
    · -- the arguments ask questions of their own before the call itself
      rcases (ht.fits hhost hrec).record_cases with hv | ⟨r, hv, hr⟩ <;> rw [hv] at ha
      · exact nomatch ha
      · rcases List.mem_append.mp ha with ha | ha
        · exact hargs.declared_of_mem hhost hrec ha
        · rw [List.mem_singleton.mp ha]
          exact .call hr hm (hargs.fits hhost hrec)
  | .enumAsInt hp => exact hp.declared_of_mem hhost hrec ha

private theorem HaveTypes.declared_of_mem {ps : List Plan} {ds : List DeclaredType} {a : Access ρ}
    (h : HaveTypes schema root ps ds) (hhost : host.Conforms schema R) (hrec : R record root)
    (ha : a ∈ accessesAll host record ps) : a.Declared schema R := by
  match h with
  | .nil => exact nomatch ha
  | .cons hp hps =>
    rcases List.mem_append.mp ha with ha | ha
    · exact hp.declared_of_mem hhost hrec ha
    · exact hps.declared_of_mem hhost hrec ha

end

end Plan

/-! ### Sample accounts -/

namespace Sample

/-- An account with its limit, and the account that backs it, if there is one. -/
inductive Account where
  | mk (limit : Int64) (backer : Option Account)

namespace Account

/-- The number of the record type of accounts. -/
def accountId : RecordId := 0

/-- The record type of accounts: they can be asked whether they cover an amount, and whether they
back another account. -/
def type : RecordType where
  name := "Account"
  members := [⟨"Limit", .property, .int⟩, ⟨"Backer", .property, .record accountId⟩]
  methods := [⟨"Covers", [.float], .bool⟩, ⟨"Backs", [.record accountId], .bool⟩]

/-- The schema of accounts. -/
def schema : Schema := .ofLists [] [type]

/-- Accounts have limits and backers, cover what is within their limit, and back accounts with a
smaller one. -/
def host : Host Account where
  member
    | mk limit _, "Limit" => .int limit
    | mk _ (some backer), "Backer" => .record backer
    | _, _ => .null
  invoke
    | mk limit _, "Covers", [.float amount] => .bool (decide (amount ≤ int64Float limit))
    | mk limit _, "Backs", [.record (mk other _)] => .bool (decide (other < limit))
    | _, _, _ => .null

/-- Every record is an account. -/
def IsAccount (_ : Account) (id : RecordId) : Prop := id = accountId

/-- `Account.host` answers as the schema of accounts declares. -/
theorem host_conforms : host.Conforms schema IsAccount where
  member := by
    intro r id name m hr hm
    cases hr
    replace hm := RecordType.mem_of_member? hm
    revert m
    show ∀ m ∈ type.members, _
    simp only [type, List.forall_mem_cons]
    -- the limit is an integer; the backer is absent or another account
    obtain ⟨limit, _ | backer⟩ := r
    · exact ⟨trivial, trivial, List.forall_mem_nil _⟩
    · exact ⟨trivial, (rfl : accountId = accountId), List.forall_mem_nil _⟩
  invoke := by
    intro r id m args hr hm ha
    cases hr
    clear ha
    revert m
    -- whatever the arguments are, the answer is a truth value or absent
    show ∀ m ∈ type.methods, _
    simp only [type, List.forall_mem_cons]
    refine ⟨?_, ?_, List.forall_mem_nil _⟩ <;>
    · simp only [host]
      split <;> trivial

end Account

end Sample

/-! ### Filters -/

section

variable {schema : Schema} {root : RecordId} {host : Host ρ} {R : ρ → RecordId → Prop} {record : ρ}

/-- On a record that keeps to the schema, a filter asks only what is declared for the records that it
asks. -/
theorem accesses_declared {e : Expr} {p : Predicate} (hp : Predicate.ofExpr schema root e = .ok p)
    (hhost : host.Conforms schema R) (hrec : R record root) :
    ∀ a ∈ p.accesses host record, a.Declared schema R := by
  obtain ⟨t, ht, -, hplan⟩ := planFilter_eq_ok_iff.mp (Predicate.ofExpr_eq_ok_iff.mp hp)
  -- what was elaborated has a type, and plans with a type ask declared questions
  intro a ha
  rw [Predicate.accesses, ← hplan] at ha
  exact (elaborate_wellTyped ht).declared_of_mem hhost hrec ha

/-- A filter in lower case reads `Backer` and `Limit`, and calls the method with the limit as a
double, for which alone it is declared. -/
theorem accesses_declared_of_backer_covers_limit :
    let backer : Sample.Account := .mk 500 none
    let account : Sample.Account := .mk 200 (some backer)
    let covers : Plan :=
      .invoke (.member .root "Backer") "Covers" [.convert .toFloat (.member .root "Limit")]
    let asked : List (Access Sample.Account) :=
      [.read account "Backer", .read account "Limit",
        .call backer "Covers" [.float (int64Float 200)]]
    Predicate.ofExpr Sample.Account.schema Sample.Account.accountId
        (.call (.path ["backer"] 0) "Covers" [.path ["limit"] 14] 7) = .ok ⟨covers⟩ ∧
      Sample.Account.host.Conforms Sample.Account.schema Sample.Account.IsAccount ∧
      Sample.Account.IsAccount account Sample.Account.accountId ∧
      covers.accesses Sample.Account.host account = asked ∧
      ∀ a ∈ asked, a.Declared Sample.Account.schema Sample.Account.IsAccount := by
  intro backer account covers asked
  have hp : Predicate.ofExpr Sample.Account.schema Sample.Account.accountId
      (.call (.path ["backer"] 0) "Covers" [.path ["limit"] 14] 7) = .ok ⟨covers⟩ := rfl
  have hrec : Sample.Account.IsAccount account Sample.Account.accountId := rfl
  have hasked : covers.accesses Sample.Account.host account = asked := rfl
  refine ⟨hp, Sample.Account.host_conforms, hrec, hasked, ?_⟩
  exact hasked ▸ accesses_declared hp Sample.Account.host_conforms hrec

end

end RecordFilter
