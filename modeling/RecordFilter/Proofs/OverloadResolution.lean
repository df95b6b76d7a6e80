import RecordFilter.Proofs.ElaborationSteps
/-!
# The choice among methods of one name

Which method a call means, among the methods of its name and number of parameters, is said as a
relation (`Candidate.Resolves`): the first one that matches the arguments exactly, or, if none does,
the first one to which they can be brought.  There is one at most (`Candidate.Resolves.unique`), and
a call is the call of that one (`overload_resolution`).  Methods that are declared after the others
change what is meant only by a better match (`Candidate.Resolves.append`).
-/

namespace RecordFilter

namespace Candidate

/-- The candidates of a call: what has exactly its name and its number of parameters, in the order of
declaration. -/
def forCall (schema : Schema) (base : BaseType) (name : String) (arity : Nat) : List Candidate :=
  (named schema base name).filter (·.params.length == arity)

/-- Every argument is of the kind of its parameter, and none is the literal `null`. -/
def Matches (c : Candidate) (args : List TypedPlan) : Prop :=
  List.Forall₂ (fun d arg => (StaticType.ofDeclared d).base = arg.type.base ∧ arg.isNull = false)
    c.params args

/-- Every argument can be brought to the type of its parameter, and `converted` is what becomes of
them. -/
def Converts (schema : Schema) (c : Candidate) (args converted : List TypedPlan) : Prop :=
  List.Forall₂ (fun p t => p.2.coerce? schema (.ofDeclared p.1) = some t) (c.params.zip args) converted

/-- The call of the candidate on a target. -/
def called (c : Candidate) (target : TypedPlan) (args : List TypedPlan) (offset : Nat) : TypedPlan where
  plan := c.run target.plan (args.map (·.plan))
  type := ⟨(StaticType.ofDeclared c.returns).base,
    (StaticType.ofDeclared c.returns).nullable || target.type.nullable⟩
  offset

/-- `matchesExactly` decides `Matches` for as many arguments as there are parameters. -/
theorem matchesExactly_iff {c : Candidate} {args : List TypedPlan}
    (hlen : c.params.length = args.length) : c.matchesExactly args = true ↔ c.Matches args := by
  unfold matchesExactly Matches
  generalize c.params = params at hlen ⊢
  -- `zip` drops what is left over, so the lengths must agree
  induction params generalizing args with
  | nil =>
    obtain rfl := List.length_eq_zero_iff.mp hlen.symm
    simp
  | cons param params ih =>
    cases args with
    | nil => simp at hlen
    | cons arg args =>
      rw [List.zip_cons_cons, List.all_cons, Bool.and_eq_true, ih (Nat.succ.inj hlen),
        List.forall₂_cons]
      simp [and_comm]

end Candidate

namespace TypedPlan

variable {schema : Schema} {args converted : List TypedPlan} {params : List DeclaredType}
  {c first : Candidate} {others : List Candidate} {e : ElaborationError}

/-! ### Arguments -/

/-- `convertArgs` succeeds if each argument can be brought to its parameter. -/
private theorem convertArgs_eq_ok_iff :
    convertArgs schema params args = .ok converted ↔
      List.Forall₂ (fun p t => p.2.coerce? schema (.ofDeclared p.1) = some t) (params.zip args)
        converted := by
  induction params generalizing args converted with
  | nil => simp [convertArgs, eq_comm]
  | cons param params ih =>
    cases args with
    | nil => simp [convertArgs, eq_comm]
    | cons arg args =>
      simp only [convertArgs, List.zip_cons_cons, List.forall₂_cons_left_iff]
      cases arg.coerce? schema (.ofDeclared param) with
      | none => simp
      | some t =>
        simp only [Except.bind_eq_ok_iff, ih, Except.pure_eq_ok, Except.ok.injEq]
        constructor
        · rintro ⟨rest, hrest, rfl⟩
          exact ⟨t, rest, rfl, hrest, rfl⟩
        · rintro ⟨_, rest, ht, hrest, rfl⟩
          cases ht
          exact ⟨rest, hrest, rfl⟩

/-- The argument is the first one that cannot be brought to its parameter, which is of the type. -/
inductive FirstInconvertible (schema : Schema) :
    List DeclaredType → List TypedPlan → DeclaredType → TypedPlan → Prop where
  | here {d ds arg args} (h : arg.coerce? schema (.ofDeclared d) = none) :
      FirstInconvertible schema (d :: ds) (arg :: args) d arg
  | later {d ds arg args d' arg'} (h : (arg.coerce? schema (.ofDeclared d)).isSome = true)
      (hrest : FirstInconvertible schema ds args d' arg') :
      FirstInconvertible schema (d :: ds) (arg :: args) d' arg'

/-- `convertArgs` fails at the first argument that cannot be brought to its parameter. -/
private theorem convertArgs_eq_error_iff :
    convertArgs schema params args = .error e ↔
      ∃ d arg, FirstInconvertible schema params args d arg ∧
        e = arg.mismatch schema (.ofDeclared d) := by
  induction params generalizing args with
  | nil => exact iff_of_false (fun h => nomatch h) (fun ⟨_, _, h, _⟩ => nomatch h)
  | cons param params ih =>
    cases args with
    | nil => exact iff_of_false (fun h => nomatch h) (fun ⟨_, _, h, _⟩ => nomatch h)
    | cons arg args =>
      simp only [convertArgs]
      -- either the first argument is the one, or it is among those after it
      cases hc : arg.coerce? schema (.ofDeclared param) with
      | none =>
        constructor
        · intro h
          cases h
          exact ⟨param, arg, .here hc, rfl⟩
        · rintro ⟨_, _, hfirst, rfl⟩
          cases hfirst with
          | here _ => rfl
          | later h _ => simp [hc] at h
      | some t =>
        have hsome : (arg.coerce? schema (.ofDeclared param)).isSome = true := by simp [hc]
        simp only [Except.bind_eq_error_iff, ih, Except.pure_eq_ok, reduceCtorEq, and_false,
          exists_false, or_false]
        constructor
        · rintro ⟨d, a, hfirst, he⟩
          exact ⟨d, a, .later hsome hfirst, he⟩
        · rintro ⟨d, a, hfirst, he⟩
          cases hfirst with
          | here h => simp [hc] at h
          | later _ hfirst => exact ⟨d, a, hfirst, he⟩

end TypedPlan

namespace Candidate

variable {schema : Schema} {candidates others : List Candidate} {c c' first : Candidate}
  {args converted converted' : List TypedPlan} {i j : Nat}

/-- `Converts` says that `convertArgs` succeeds. -/
private theorem converts_iff :
    c.Converts schema args converted ↔ TypedPlan.convertArgs schema c.params args = .ok converted :=
  TypedPlan.convertArgs_eq_ok_iff.symm

/-! ### The candidate that is meant -/

/-- Among the candidates, a call with the arguments means the one at the position `i`, and is made
with the arguments `converted`: the first one that matches exactly, with the arguments as they are;
or, if none does, the first one to whose parameters all arguments can be brought. -/
inductive Resolves (schema : Schema) (candidates : List Candidate) (args : List TypedPlan) :
    Nat → Candidate → List TypedPlan → Prop where
  | exact {before c after} (hsplit : candidates = before ++ c :: after) (hc : c.Matches args)
      (hbefore : ∀ b ∈ before, ¬ b.Matches args) :
      Resolves schema candidates args before.length c args
  | converted {before c after converted} (hsplit : candidates = before ++ c :: after)
      (hnone : ∀ b ∈ candidates, ¬ b.Matches args) (hc : c.Converts schema args converted)
      (hbefore : ∀ b ∈ before, ∀ converted', ¬ b.Converts schema args converted') :
      Resolves schema candidates args before.length c converted

/-- Two first elements of one kind are one. -/
private theorem eq_of_first {α : Type} {p : α → Prop} {before before' after after' : List α} {a a' : α}
    (h : before ++ a :: after = before' ++ a' :: after') (ha : p a) (ha' : p a')
    (hbefore : ∀ b ∈ before, ¬ p b) (hbefore' : ∀ b ∈ before', ¬ p b) : before = before' ∧ a = a' := by
  -- if one list went on after the other, it would hold the first element of the other
  induction before generalizing before' with
  | nil =>
    cases before' with
    | nil => exact ⟨rfl, (List.cons.inj h).1⟩
    | cons b before' =>
      obtain rfl : a = b := (List.cons.inj h).1
      exact absurd ha (hbefore' _ List.mem_cons_self)
  | cons b before ih =>
    cases before' with
    | nil =>
      obtain rfl : b = a' := (List.cons.inj h).1
      exact absurd ha' (hbefore _ List.mem_cons_self)
    | cons b' before' =>
      rw [List.forall_mem_cons] at hbefore hbefore'
      obtain ⟨rfl, hrest⟩ := List.cons.inj h
      obtain ⟨rfl, rfl⟩ := ih hrest hbefore.2 hbefore'.2
      exact ⟨rfl, rfl⟩

/-- Where there is an element of a kind, there is a first one. -/
private theorem exists_first {α : Type} {p : α → Prop} {l : List α} (h : ∃ a ∈ l, p a) :
    ∃ before a after, l = before ++ a :: after ∧ p a ∧ ∀ b ∈ before, ¬ p b := by
  classical
  obtain ⟨a, ha, hp⟩ := h
  have hsome : (l.find? fun a => decide (p a)).isSome = true :=
    List.find?_isSome.mpr ⟨a, ha, decide_eq_true hp⟩
  obtain ⟨first, hfirst⟩ := Option.isSome_iff_exists.mp hsome
  obtain ⟨hpfirst, before, after, hsplit, hbefore⟩ := List.find?_eq_some_iff_append.mp hfirst
  exact ⟨before, first, after, hsplit, of_decide_eq_true hpfirst, by simpa using hbefore⟩

/-- `Resolves` means one of the candidates, which takes the arguments. -/
private theorem Resolves.mem (h : Resolves schema candidates args i c converted) :
    c ∈ candidates ∧ (c.Matches args ∨ c.Converts schema args converted) := by
  cases h with
  | exact hsplit hc _ => exact ⟨hsplit ▸ List.mem_append_cons_self, .inl hc⟩
  | converted hsplit _ hc _ => exact ⟨hsplit ▸ List.mem_append_cons_self, .inr hc⟩

/-- `Resolves` means some candidate exactly if one takes the arguments. -/
private theorem exists_resolves_iff :
    (∃ i c converted, Resolves schema candidates args i c converted) ↔
      ∃ c ∈ candidates, c.Matches args ∨ ∃ converted, c.Converts schema args converted := by
  constructor
  · rintro ⟨i, c, converted, h⟩
    -- what is meant takes the arguments, as they are or converted
    obtain ⟨hmem, hmatch | hconv⟩ := h.mem
    · exact ⟨c, hmem, .inl hmatch⟩
    · exact ⟨c, hmem, .inr ⟨converted, hconv⟩⟩
  · rintro ⟨c, hmem, htakes⟩
    -- an exact match goes before any conversion
    by_cases hexact : ∃ b ∈ candidates, b.Matches args
    · obtain ⟨before, b, after, hsplit, hb, hbefore⟩ := exists_first hexact
      exact ⟨_, b, args, .exact hsplit hb hbefore⟩
    · have hnone : ∀ b ∈ candidates, ¬ b.Matches args := fun b hb hmatch => hexact ⟨b, hb, hmatch⟩
      have hconv := htakes.resolve_left (hnone c hmem)
      obtain ⟨before, b, after, hsplit, ⟨converted, hb⟩, hbefore⟩ :=
        exists_first (p := fun b => ∃ converted, b.Converts schema args converted) ⟨c, hmem, hconv⟩
      have hearlier : ∀ b ∈ before, ∀ converted', ¬ b.Converts schema args converted' :=
        fun b hb converted' h => hbefore b hb ⟨converted', h⟩
      exact ⟨_, b, converted, .converted hsplit hnone hb hearlier⟩

/-- `Resolves` means one candidate at most. -/
theorem Resolves.unique (h : Resolves schema candidates args i c converted)
    (h' : Resolves schema candidates args j c' converted') :
    i = j ∧ c = c' ∧ converted = converted' := by
  cases h with
  | exact hsplit hc hbefore =>
    cases h' with
    | exact hsplit' hc' hbefore' =>
      obtain ⟨rfl, rfl⟩ := eq_of_first (hsplit.symm.trans hsplit') hc hc' hbefore hbefore'
      exact ⟨rfl, rfl, rfl⟩
    | converted _ hnone' _ _ => exact absurd hc (hnone' _ (hsplit ▸ List.mem_append_cons_self))
  | converted hsplit hnone hc hbefore =>
    cases h' with
    | exact hsplit' hc' _ => exact absurd hc' (hnone _ (hsplit' ▸ List.mem_append_cons_self))
    | converted hsplit' _ hc' hbefore' =>
      -- the position is that of the first that converts, and conversion has one result
      have hfirst := eq_of_first (p := fun b => ∃ t, b.Converts schema args t)
        (hsplit.symm.trans hsplit') ⟨_, hc⟩ ⟨_, hc'⟩ (fun b hb ⟨t, ht⟩ => hbefore b hb t ht)
        (fun b hb ⟨t, ht⟩ => hbefore' b hb t ht)
      obtain ⟨rfl, rfl⟩ := hfirst
      rw [converts_iff] at hc hc'
      exact ⟨rfl, rfl, Except.ok.inj (hc.symm.trans hc')⟩

/-- `Resolves` with candidates that come after all others is the same, unless one of these matches
exactly and none of the others does. -/
theorem Resolves.append (h : Resolves schema candidates args i c converted) (more : List Candidate) :
    Resolves schema (candidates ++ more) args i c converted ∨
      (∀ b ∈ candidates, ¬ b.Matches args) ∧ ∃ b ∈ more, b.Matches args := by
  -- what comes later is not before the candidate
  have happend {before after : List Candidate} {c : Candidate}
      (hsplit : candidates = before ++ c :: after) :
      candidates ++ more = before ++ c :: (after ++ more) := by
    rw [hsplit, List.append_assoc, List.cons_append]
  cases h with
  | exact hsplit hc hbefore => exact .inl (.exact (happend hsplit) hc hbefore)
  | converted hsplit hnone hc hbefore =>
    -- a conversion stays meant as long as nothing that is added matches exactly
    by_cases hmore : ∃ b ∈ more, b.Matches args
    · exact .inr ⟨hnone, hmore⟩
    · have hnone' : ∀ b ∈ candidates ++ more, ¬ b.Matches args :=
        List.forall_mem_append.mpr ⟨hnone, fun b hb hmatch => hmore ⟨b, hb, hmatch⟩⟩
      exact .inl (.converted (happend hsplit) hnone' hc hbefore)

/-- `resolve` finds the candidate that is meant. -/
private theorem resolve_eq_ok_iff (harity : ∀ b ∈ first :: others, b.params.length = args.length) :
    TypedPlan.resolve schema args first others = .ok (c, converted) ↔
      ∃ i, Resolves schema (first :: others) args i c converted := by
  unfold TypedPlan.resolve
  cases hfind : (first :: others).find? (·.matchesExactly args) with
  | some found =>
    obtain ⟨hexact, before, after, hsplit, hbefore⟩ := List.find?_eq_some_iff_append.mp hfind
    -- the candidate that is found is the first exact match, which is meant and is the only one
    have hfound : Resolves schema (first :: others) args before.length found args := by
      refine .exact hsplit ((matchesExactly_iff ?_).mp hexact) fun b hb hmatch => ?_
      · exact harity _ (hsplit ▸ List.mem_append_cons_self)
      · have hlen := harity b (hsplit ▸ List.mem_append_left _ hb)
        simpa [(matchesExactly_iff hlen).mpr hmatch] using hbefore b hb
    constructor
    · intro h
      cases h
      exact ⟨_, hfound⟩
    · rintro ⟨i, h⟩
      obtain ⟨-, rfl, rfl⟩ := h.unique hfound
      rfl
  | none =>
    -- without an exact match both sides go by conversion
    have hnone : ∀ b ∈ first :: others, ¬ b.Matches args := fun b hb hmatch =>
      List.find?_eq_none.mp hfind b hb ((matchesExactly_iff (harity b hb)).mpr hmatch)
    simp only [TypedPlan.firstConvertible_eq_ok_iff, ne_eq, ← converts_iff]
    constructor
    · rintro ⟨before, after, hsplit, hc, hbefore⟩
      exact ⟨_, .converted hsplit hnone hc hbefore⟩
    · rintro ⟨i, h⟩
      cases h with
      | exact hsplit hc _ => exact absurd hc (hnone _ (hsplit ▸ List.mem_append_cons_self))
      | converted hsplit _ hc hbefore => exact ⟨_, _, hsplit, hc, hbefore⟩

end Candidate

/-! ### Calls -/

/-- The schema with further methods of its record types, declared after those that are there. -/
def Schema.withMethods (schema : Schema) (more : RecordId → List Method) : Schema where
  enumType := schema.enumType
  recordType id :=
    { schema.recordType id with methods := (schema.recordType id).methods ++ more id }

namespace Candidate

variable {schema : Schema}

/-- `forCall` only has candidates with the number of parameters. -/
private theorem length_params_of_mem_forCall {base : BaseType} {name : String} {arity : Nat} {c : Candidate}
    (h : c ∈ forCall schema base name arity) : c.params.length = arity :=
  beq_iff_eq.mp (List.mem_filter.mp h).2

/-- `withMethods` adds candidates of the name and number of parameters of the methods. -/
private theorem exists_forCall_withMethods (schema : Schema) (more : RecordId → List Method) (base : BaseType)
    (name : String) (arity : Nat) :
    ∃ added, forCall (schema.withMethods more) base name arity =
        forCall schema base name arity ++ added ∧
      ∀ c ∈ added, ∃ id m, base = .record id ∧ m ∈ more id ∧ m.name = name ∧
        m.params.length = arity ∧ c = ofMethod m := by
  cases base with
  | record id =>
    refine ⟨(((more id).filter fun m => m.name == name).map ofMethod).filter
      (·.params.length == arity), ?_, ?_⟩
    · -- methods are declared in a list, and the filters keep its order
      simp only [forCall, named, RecordType.methodsNamed, Schema.withMethods, List.filter_append,
        List.map_append]
    · intro c hc
      rw [List.mem_filter, List.mem_map] at hc
      obtain ⟨⟨m, hm, rfl⟩, hlen⟩ := hc
      rw [List.mem_filter, beq_iff_eq] at hm
      exact ⟨id, m, rfl, hm.1, hm.2, beq_iff_eq.mp hlen, rfl⟩
  -- only record types have methods that are declared
  | _ => exact ⟨[], (List.append_nil _).symm, List.forall_mem_nil _⟩

/-- `Resolves` among given candidates does not depend on the methods of the schema: what an argument can
be brought to only depends on its enumerations. -/
private theorem resolves_withMethods {more : RecordId → List Method} {candidates : List Candidate}
    {args converted : List TypedPlan} {i : Nat} {c : Candidate} :
    Resolves (schema.withMethods more) candidates args i c converted ↔
      Resolves schema candidates args i c converted := by
  constructor
  -- `Converts` unfolds to the same proposition in both schemas
  all_goals
    intro h
    cases h with
    | exact hsplit hc hbefore => exact .exact hsplit hc hbefore
    | converted hsplit hnone hc hbefore => exact .converted hsplit hnone hc hbefore

end Candidate

namespace Sample.Ledger

/-- The number of the record type of ledgers. -/
def ledgerId : RecordId := 0

/-- The method for integers. -/
def holdsInt : Method := ⟨"Holds", [.int], .bool⟩

/-- The method for texts. -/
def holdsStr : Method := ⟨"Holds", [.str], .bool⟩

/-- The method for doubles. -/
def holdsFloat : Method := ⟨"Holds", [.float], .bool⟩

/-- The schema of ledgers: they can be asked whether they hold an integer or a text. -/
def schema : Schema := .ofLists [] [⟨"Ledger", [], [holdsInt, holdsStr]⟩]

end Sample.Ledger

section

variable {schema : Schema} {target : TypedPlan} {method : String} {args : List TypedPlan}
  {first : Candidate} {others : List Candidate} {offset : Nat}

open Candidate TypedPlan

/-- `call` fails without candidates. -/
private theorem call_of_forCall_nil (h : forCall schema target.type.base method args.length = []) :
    call schema target method args offset =
      .error (.unknownMethod method (target.type.base.name schema) args.length offset) := by
  rw [forCall] at h
  simp only [call, h]

/-- `call` with candidates calls the one that `resolve` finds. -/
private theorem call_of_forCall_cons
    (h : forCall schema target.type.base method args.length = first :: others) :
    call schema target method args offset =
      (resolve schema args first others).map fun r => r.1.called target r.2 offset := by
  rw [forCall] at h
  simp only [call, h]
  cases resolve schema args first others <;> rfl

/-- `call` fails for its method exactly if there is no candidate. -/
private theorem exists_call_unknownMethod_iff :
    (∃ name type arity o,
      call schema target method args offset = .error (.unknownMethod name type arity o)) ↔
      forCall schema target.type.base method args.length = [] := by
  constructor
  · rintro ⟨name, type, arity, o, herror⟩
    cases hcands : forCall schema target.type.base method args.length with
    | nil => rfl
    | cons first others =>
      -- the errors of arguments are errors about types
      rw [call_of_forCall_cons hcands, Except.map_eq_error_iff] at herror
      obtain ⟨_, _, -, he⟩ := convertArgs_eq_error_iff.mp (resolve_eq_error herror)
      exact nomatch he
  · intro hcands
    exact ⟨_, _, _, _, call_of_forCall_nil hcands⟩

/-- `call` succeeds exactly if a candidate is meant, and is then the call of that one. -/
private theorem call_eq_ok_iff {t : TypedPlan} :
    call schema target method args offset = .ok t ↔ ∃ i c converted,
      Resolves schema (forCall schema target.type.base method args.length) args i c converted ∧
        t = c.called target converted offset := by
  cases hcands : forCall schema target.type.base method args.length with
  | nil =>
    rw [call_of_forCall_nil hcands]
    refine iff_of_false (fun h => nomatch h) ?_
    rintro ⟨i, c, converted, h, -⟩
    -- nothing is meant among no candidates
    exact nomatch h.mem.1
  | cons first others =>
    have harity : ∀ b ∈ first :: others, b.params.length = args.length := fun _ hb =>
      length_params_of_mem_forCall (hcands ▸ hb)
    rw [call_of_forCall_cons hcands, Except.map_eq_ok_iff]
    constructor
    · rintro ⟨⟨c, converted⟩, hres, rfl⟩
      obtain ⟨i, h⟩ := (resolve_eq_ok_iff harity).mp hres
      exact ⟨i, c, converted, h, rfl⟩
    · rintro ⟨i, c, converted, h, rfl⟩
      exact ⟨(c, converted), (resolve_eq_ok_iff harity).mpr ⟨i, h⟩, rfl⟩

/-- `call` succeeds exactly if a candidate takes the arguments. -/
private theorem exists_call_ok_iff :
    (∃ t, call schema target method args offset = .ok t) ↔
      ∃ c ∈ forCall schema target.type.base method args.length,
        c.Matches args ∨ ∃ converted, c.Converts schema args converted := by
  rw [← exists_resolves_iff]
  simp only [call_eq_ok_iff]
  constructor
  · rintro ⟨t, i, c, converted, h, -⟩
    exact ⟨i, c, converted, h⟩
  · rintro ⟨i, c, converted, h⟩
    exact ⟨_, i, c, converted, h, rfl⟩

/-- `call` blames the first argument that the first candidate does not take, if no candidate takes the
arguments. -/
private theorem call_eq_mismatch
    (hcands : forCall schema target.type.base method args.length = first :: others)
    (hnone : ∀ c ∈ first :: others,
      ¬ c.Matches args ∧ ∀ converted, ¬ c.Converts schema args converted) :
    ∃ d arg, FirstInconvertible schema first.params args d arg ∧
      call schema target method args offset = .error (.typeMismatch
        ((StaticType.ofDeclared d).text schema) (arg.type.text schema) arg.offset) := by
  have harity : ∀ b ∈ first :: others, b.params.length = args.length := fun _ hb =>
    length_params_of_mem_forCall (hcands ▸ hb)
  rw [call_of_forCall_cons hcands]
  cases hres : resolve schema args first others with
  | ok r =>
    -- what is meant would take the arguments
    obtain ⟨i, h⟩ := (resolve_eq_ok_iff harity).mp hres
    obtain ⟨hmem, hmatch | hconv⟩ := h.mem
    · exact absurd hmatch (hnone _ hmem).1
    · exact absurd hconv ((hnone _ hmem).2 _)
  | error e =>
    -- the error of the first candidate is kept
    obtain ⟨d, arg, hfirst, rfl⟩ := convertArgs_eq_error_iff.mp (resolve_eq_error hres)
    exact ⟨d, arg, hfirst, rfl⟩

/-- `Resolves` by name and number of parameters is changed by further methods only if the candidate is
meant by conversion and one of them matches exactly. -/
private theorem Candidate.Resolves.withMethods {i : Nat} {c : Candidate} {converted : List TypedPlan}
    (h : Resolves schema (forCall schema target.type.base method args.length) args i c converted)
    (more : RecordId → List Method) :
    Resolves (schema.withMethods more)
        (forCall (schema.withMethods more) target.type.base method args.length) args i c converted ∨
      (∀ b ∈ forCall schema target.type.base method args.length, ¬ b.Matches args) ∧
        ∃ id m, target.type.base = .record id ∧ m ∈ more id ∧ m.name = method ∧
          (ofMethod m).Matches args := by
  obtain ⟨added, hadded, hmem⟩ :=
    exists_forCall_withMethods schema more target.type.base method args.length
  rw [hadded]
  obtain h | ⟨hnone, b, hb, hmatch⟩ := h.append added
  · exact .inl (resolves_withMethods.mpr h)
  · obtain ⟨id, m, hbase, hm, hname, -, rfl⟩ := hmem b hb
    exact .inr ⟨hnone, id, m, hbase, hm, hname, hmatch⟩

/-- What a call means, among the candidates of its name and number of parameters.  It fails for its
method exactly if there is none.  It succeeds exactly if a candidate takes the arguments, and is then
the call of the one that is meant, of which there is one at most.  Otherwise it fails for the first
argument that cannot be brought to the parameters of the first candidate.  Methods that are declared
after all others leave what is meant as it is, unless it is meant by conversion and one of them
matches exactly. -/
theorem overload_resolution (schema : Schema) (target : TypedPlan) (method : String)
    (args : List TypedPlan) (offset : Nat) :
    let candidates := forCall schema target.type.base method args.length
    let result := call schema target method args offset
    ((∃ name type arity o, result = .error (.unknownMethod name type arity o)) ↔ candidates = []) ∧
    ((∃ t, result = .ok t) ↔
      ∃ c ∈ candidates, c.Matches args ∨ ∃ converted, c.Converts schema args converted) ∧
    (∀ t, result = .ok t ↔ ∃ i c converted, Resolves schema candidates args i c converted ∧
      t = c.called target converted offset) ∧
    (∀ i c converted j c' converted', Resolves schema candidates args i c converted →
      Resolves schema candidates args j c' converted' → i = j ∧ c = c' ∧ converted = converted') ∧
    (∀ first others, candidates = first :: others →
      (∀ c ∈ candidates, ¬ c.Matches args ∧ ∀ converted, ¬ c.Converts schema args converted) →
      ∃ d arg, FirstInconvertible schema first.params args d arg ∧
        result = .error (.typeMismatch ((StaticType.ofDeclared d).text schema) (arg.type.text schema)
          arg.offset)) ∧
    ∀ more i c converted, Resolves schema candidates args i c converted →
      Resolves (schema.withMethods more)
        (forCall (schema.withMethods more) target.type.base method args.length) args i c converted ∨
      (∀ b ∈ candidates, ¬ b.Matches args) ∧
        ∃ id m, target.type.base = .record id ∧ m ∈ more id ∧ m.name = method ∧
          (ofMethod m).Matches args := by
  intro candidates result
  refine ⟨exists_call_unknownMethod_iff, exists_call_ok_iff, fun _ => call_eq_ok_iff,
    fun _ _ _ _ _ _ h h' => h.unique h', ?_, fun more _ _ _ h => h.withMethods more⟩
  intro first others hcands hnone
  rw [hcands] at hnone
  exact call_eq_mismatch hcands hnone

open Sample.Ledger in
/-- A ledger is asked for a truth value by its text, because there is no method for truth values and
they are no integers, and a method for doubles that is declared later does not change that.  It
cannot be asked for itself, which is no integer. -/
theorem overload_resolution_of_holds_true :
    let schema := Sample.Ledger.schema
    let ledger : TypedPlan := { plan := .root, type := .record ledgerId, offset := 0 }
    let flag : TypedPlan := ⟨.const (.bool true), .bool, 6, some "true"⟩
    let word : TypedPlan := ⟨.const (.str "true"), ⟨.str, false⟩, 6, some "true"⟩
    let later := schema.withMethods fun _ => [holdsFloat]
    call schema ledger "Holds" [flag] 0 = .ok ((ofMethod holdsStr).called ledger [word] 0) ∧
      Resolves later (forCall later (.record ledgerId) "Holds" 1) [flag] 1 (ofMethod holdsStr) [word] ∧
      call schema ledger "Holds" [ledger] 0 = .error (.typeMismatch "Int" "Ledger" 0) := by
  intro schema ledger flag word later
  have hcands : forCall schema (.record ledgerId) "Holds" 1 =
      [ofMethod holdsInt, ofMethod holdsStr] := rfl
  have hint : ¬ (ofMethod holdsInt).Matches [flag] := fun h => nomatch (List.forall₂_cons.mp h).1.1
  have hstr : ¬ (ofMethod holdsStr).Matches [flag] := fun h => nomatch (List.forall₂_cons.mp h).1.1
  have hfloat : ¬ (ofMethod holdsFloat).Matches [flag] := fun h => nomatch (List.forall₂_cons.mp h).1.1
  have hnone : ∀ c ∈ [ofMethod holdsInt, ofMethod holdsStr], ¬ c.Matches [flag] :=
    List.forall_mem_cons.mpr ⟨hint, List.forall_mem_singleton.mpr hstr⟩
  have hmeant : Resolves schema (forCall schema (.record ledgerId) "Holds" 1) [flag] 1
      (ofMethod holdsStr) [word] := by
    rw [hcands]
    have hsplit : [ofMethod holdsInt, ofMethod holdsStr] =
        [ofMethod holdsInt] ++ ofMethod holdsStr :: [] := rfl
    refine .converted hsplit hnone (.cons rfl .nil) ?_
    exact List.forall_mem_singleton.mpr fun _ h => by cases h with | cons h _ => exact nomatch h
  obtain ⟨-, -, hok, -, -, happend⟩ := overload_resolution schema ledger "Holds" [flag] 0
  obtain ⟨-, -, -, -, hmismatch, -⟩ := overload_resolution schema ledger "Holds" [ledger] 0
  refine ⟨(hok _).mpr ⟨_, _, _, hmeant, rfl⟩, ?_, ?_⟩
  · obtain h | ⟨-, id, m, -, hm, -, hmatch⟩ := happend (fun _ => [holdsFloat]) _ _ _ hmeant
    · exact h
    · cases List.mem_singleton.mp hm
      -- the later method takes doubles, and the argument is a truth value
      exact absurd hmatch hfloat
  · have hrefused : ∀ c ∈ [ofMethod holdsInt, ofMethod holdsStr], ¬ c.Matches [ledger] ∧
        ∀ converted, ¬ c.Converts schema [ledger] converted := by
      refine List.forall_mem_cons.mpr ⟨?_, List.forall_mem_singleton.mpr ?_⟩ <;>
      · refine ⟨fun h => (nomatch (List.forall₂_cons.mp h).1.1), fun _ h => ?_⟩
        cases h with
        | cons h _ => exact nomatch h
    obtain ⟨d, arg, hfirst, hresult⟩ := hmismatch _ _ hcands hrefused
    cases hfirst with
    | here _ => exact hresult
    | later _ hrest => exact nomatch hrest

end

end RecordFilter
