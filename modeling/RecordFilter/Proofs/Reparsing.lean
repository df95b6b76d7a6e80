import RecordFilter.Proofs.PrintedTokens
import RecordFilter.Sample
/-!
# Reading printed expressions again

Operations with two operands are printed in parentheses, but negations are not.  A negation on the
left of a comparison is therefore read as the negation of the comparison, and a negation on the right
is not read at all (`ComparesPrefix.not_orExpr`).  `Expr.IsWritable.outcome` says of every expression
what its tokens derive; so an expression of a source is read again as itself exactly if no comparison
in it has a negation as an operand (`reparse_iff`).
-/

namespace RecordFilter

open Grammar

/-! ### Comparisons of negations -/

namespace Expr

/-- The expression is a negation. -/
def IsNegation : Expr → Prop
  | not _ _ => True
  | _ => False

/-- The expression is no comparison with a negation as its left or right operand. -/
def ComparesOthers : Expr → Prop
  | compare _ left right _ => ¬ left.IsNegation ∧ ¬ right.IsNegation
  | _ => True

/-- No comparison in the expression has a negation as an operand. -/
def ComparesNoNegation (e : Expr) : Prop := ∀ n ∈ e.nodes, n.ComparesOthers

variable {l r e : Expr} {o o' : Nat}

/-- `ComparesNoNegation` of a connective is that of both operands. -/
private theorem comparesNoNegation_logical {op : Connective} :
    (logical op l r o).ComparesNoNegation ↔ l.ComparesNoNegation ∧ r.ComparesNoNegation := by
  rw [ComparesNoNegation, nodes, List.forall_mem_cons, List.forall_mem_append]
  exact and_iff_right trivial

/-- `ComparesNoNegation` of a comparison is that of both operands, neither of which is a negation
itself. -/
private theorem comparesNoNegation_compare {op : Comparison} :
    (compare op l r o).ComparesNoNegation ↔
      (¬ l.IsNegation ∧ ¬ r.IsNegation) ∧ l.ComparesNoNegation ∧ r.ComparesNoNegation := by
  rw [ComparesNoNegation, nodes, List.forall_mem_cons, List.forall_mem_append]
  rfl

/-- `ComparesNoNegation` of a negation is that of its operand. -/
private theorem comparesNoNegation_not : (not e o).ComparesNoNegation ↔ e.ComparesNoNegation := by
  rw [ComparesNoNegation, nodes, List.forall_mem_cons]
  exact and_iff_right trivial

/-- `ComparesNoNegation` of a call is that of all its arguments, since its target is a path. -/
private theorem comparesNoNegation_call {names : List String} {method : String} {args : List Expr} :
    (call (.path names o') method args o).ComparesNoNegation ↔
      ∀ e ∈ args, e.ComparesNoNegation := by
  -- a path is no comparison, so the nodes that count are those of the arguments
  have hargs : (∀ n ∈ nodesAll args, n.ComparesOthers) ↔ ∀ e ∈ args, e.ComparesNoNegation := by
    induction args with
    | nil => simp [nodesAll]
    | cons e es ih =>
      rw [nodesAll, List.forall_mem_append, List.forall_mem_cons, ih]
      rfl
  rw [ComparesNoNegation, nodes, nodes, List.forall_mem_cons, List.forall_mem_append,
    List.forall_mem_singleton, hargs]
  exact (and_iff_right trivial).trans (and_iff_right trivial)

end Expr

/-! ### Prefixes behind comparison operators -/

/-- Among the tokens, a comparison operator stands right before a prefix. -/
def ComparesPrefix (ts : List Token) : Prop :=
  ∃ as t u bs op, ts = as ++ t :: u :: bs ∧ t.kind = .comparison op ∧ u.kind = .not

namespace ComparesPrefix

variable {ts : List Token}

/-- `ComparesPrefix` of some tokens is that of all tokens that they stand among. -/
theorem append (h : ComparesPrefix ts) (as bs : List Token) : ComparesPrefix (as ++ ts ++ bs) := by
  obtain ⟨cs, t, u, ds, op, rfl, ht, hu⟩ := h
  exact ⟨as ++ cs, t, u, ds ++ bs, op, by simp, ht, hu⟩

/-- `ComparesPrefix` of two operands in parentheses, from that of either of them. -/
theorem parenthesized {ls rs : List Token} (h : ComparesPrefix ls ∨ ComparesPrefix rs)
    (o t c : Token) : ComparesPrefix (o :: (ls ++ t :: rs ++ [c])) := by
  rcases h with h | h
  · simpa using h.append [o] (t :: rs ++ [c])
  · simpa using h.append (o :: (ls ++ [t])) [c]

end ComparesPrefix

namespace ParserState

variable {s s' : ParserState} {t : Token}

/-- `step` with a comparison operator leaves a comparison that waits for its right operand. -/
private theorem step_comparison {op : Comparison} (ht : t.kind = .comparison op) (h : s.step t = .ok s') :
    s'.operand = .missing ∧ s'.pending.comparison.isSome = true := by
  have hoperator (e : Expr) (h : s.readOperator e t = .ok s') :
      s'.operand = .missing ∧ s'.pending.comparison.isSome = true := by
    simp only [readOperator, ht] at h
    split at h
    · cases h
      exact ⟨rfl, rfl⟩
    · exact absurd h refuse_ne_ok
  -- an operator is read after an operand only, be it a path or complete
  unfold step at h
  split at h
  · simp [readOperand, ht] at h
  · rw [if_neg (ht ▸ TokenKind.noConfusion)] at h
    exact hoperator _ h
  · exact hoperator _ h

/-- `step` takes no prefix where a comparison waits. -/
private theorem step_not_ne_ok (ht : t.kind = .not) (hmissing : s.operand = .missing)
    (hwaits : s.pending.comparison.isSome = true) : s.step t ≠ .ok s' := by
  have hnone : s.pending.comparison.isNone = false := by
    rw [← Option.not_isSome, hwaits, Bool.not_true]
  simp [step, hmissing, readOperand, ht, hnone]

end ParserState

/-- `ComparesPrefix` tokens derive nothing: a comparison operator is followed by an operand, which has
no prefix. -/
theorem ComparesPrefix.not_orExpr {ts : List Token} (h : ComparesPrefix ts) (e : Expr) :
    ¬ OrExpr ts e := by
  obtain ⟨as, t, u, bs, op, rfl, ht, hu⟩ := h
  intro he
  -- the parser follows the derivation, so it would read the operator and then the prefix
  obtain ⟨p, o, x, hrun, -⟩ := he.run []
  simp only [ParserState.run_append, ParserState.run_cons, Except.bind_eq_ok_iff] at hrun
  obtain ⟨s₁, -, s₂, ht₂, s₃, hu₃, -⟩ := hrun
  obtain ⟨hmissing, hwaits⟩ := ParserState.step_comparison ht ht₂
  exact ParserState.step_not_ne_ok hu hmissing hwaits hu₃

/-! ### What printed expressions derive -/

/-- `Primary` derives operands with an operator between them in parentheses. -/
private theorem Grammar.Primary.of_orExpr {ts : List Token} {e : Expr} (h : OrExpr ts e) :
    Primary (⟨.lparen, "(", 0⟩ :: (ts ++ [⟨.rparen, ")", 0⟩])) e :=
  .group rfl h rfl

namespace Expr

/-- The tokens of `e` derive `e'`, which is `e` unless a comparison in `e` has a negation as an
operand.  Before a comparison operator, the tokens of a negation derive the negation of the
comparison. -/
structure Reparses (e e' : Expr) : Prop where
  unary : UnaryExpr e.tokens e'
  primary : ¬ e.IsNegation → Primary e.tokens e'
  compared : e.IsNegation → ∀ {t : Token} {op : Comparison} {rs : List Token} {r : Expr},
    t.kind = .comparison op → Primary rs r → ∃ x o, UnaryExpr (e.tokens ++ t :: rs) (.not x o)
  alike : e'.Alike e ↔ e.ComparesNoNegation

variable {e e' l r : Expr}

/-- What is printed as a primary is no negation, so the field `compared` asks nothing of it. -/
private theorem Reparses.of_primary (hne : ¬ e.IsNegation) (h : Primary e.tokens e')
    (halike : e'.Alike e ↔ e.ComparesNoNegation) : Reparses e e' :=
  ⟨.compare (.primary h), fun _ => h, fun hneg => absurd hneg hne, halike⟩

/-- `IsNegation` expressions are printed with their prefix first. -/
private theorem IsNegation.exists_tokens (h : e.IsNegation) :
    ∃ u us, e.tokens = u :: us ∧ u.kind = .not := by
  cases e with
  | not e o => exact ⟨_, _, rfl, rfl⟩
  | _ => exact h.elim

/-- The tokens of `e` derive an expression; or they derive none, since a comparison in `e` has a
negation on its right. -/
def Outcome (e : Expr) : Prop :=
  ComparesPrefix e.tokens ∧ ¬ e.ComparesNoNegation ∨ ∃ e', Reparses e e'

/-- `Outcome` of an operation: if an operand derives no expression, then neither does the operation, so
only operands that both derive one are left to look at. -/
private theorem outcome_binary {t : Token} (htokens : e.tokens =
      ⟨.lparen, "(", 0⟩ :: (l.tokens ++ t :: r.tokens ++ [⟨.rparen, ")", 0⟩]))
    (hoperands : e.ComparesNoNegation → l.ComparesNoNegation ∧ r.ComparesNoNegation)
    (hl : l.Outcome) (hr : r.Outcome)
    (h : ∀ l' r', Reparses l l' → Reparses r r' → e.Outcome) : e.Outcome := by
  rcases hl with ⟨hmark, hnot⟩ | ⟨l', hl⟩
  · exact .inl ⟨htokens ▸ .parenthesized (.inl hmark) _ _ _, fun h => hnot (hoperands h).1⟩
  rcases hr with ⟨hmark, hnot⟩ | ⟨r', hr⟩
  · exact .inl ⟨htokens ▸ .parenthesized (.inr hmark) _ _ _, fun h => hnot (hoperands h).2⟩
  exact h l' r' hl hr

/-- `Outcome` of a connective: printed in parentheses, its operands keep their places. -/
private theorem outcome_logical {op : Connective} {o : Nat} (hl : l.Outcome) (hr : r.Outcome) :
    (logical op l r o).Outcome := by
  refine outcome_binary rfl comparesNoNegation_logical.mp hl hr fun l' r' hl hr => ?_
  have hderive := Primary.of_orExpr
    (orExpr_logical (t := ⟨op.kind, op.symbol, 0⟩) hl.unary rfl hr.unary)
  -- it is printed in parentheses, and so is a primary
  refine .inr ⟨_, .of_primary id hderive ?_⟩
  rw [comparesNoNegation_logical, ← hl.alike, ← hr.alike]
  constructor
  · intro h
    cases h with
    | logical hl hr => exact ⟨hl, hr⟩
  · rintro ⟨hl, hr⟩
    exact .logical hl hr

/-- `Outcome` of a comparison: a negation on its right is not read, one on its left takes the
comparison, and other operands keep their places. -/
private theorem outcome_compare {op : Comparison} {o : Nat} (hl : l.Outcome) (hr : r.Outcome) :
    (compare op l r o).Outcome := by
  have hoperands (h : (compare op l r o).ComparesNoNegation) := (comparesNoNegation_compare.mp h).2
  refine outcome_binary rfl hoperands hl hr fun l' r' hl hr => ?_
  by_cases hnegr : r.IsNegation
  · -- the prefix of the right operand stands right behind the operator
    obtain ⟨u, us, hus, hu⟩ := hnegr.exists_tokens
    have htokens : (compare op l r o).tokens = (⟨.lparen, "(", 0⟩ :: l.tokens) ++
        ⟨.comparison op, op.symbol, 0⟩ :: u :: (us ++ [⟨.rparen, ")", 0⟩]) := by
      simp [tokens, hus]
    exact .inl ⟨⟨_, _, u, _, op, htokens, rfl, hu⟩,
      fun h => (comparesNoNegation_compare.mp h).1.2 hnegr⟩
  have hr' := hr.primary hnegr
  by_cases hnegl : l.IsNegation
  · -- the prefix of the left operand takes the whole comparison
    obtain ⟨x, o', hderive⟩ := hl.compared hnegl (t := ⟨.comparison op, op.symbol, 0⟩) rfl hr'
    refine .inr ⟨_, .of_primary id (Primary.of_orExpr (.and (.unary hderive))) ?_⟩
    constructor
    · intro h
      cases h
    · intro h
      exact absurd hnegl (comparesNoNegation_compare.mp h).1.1
  have hderive : CompareExpr (l.tokens ++ ⟨.comparison op, op.symbol, 0⟩ :: r.tokens)
      (.compare op l' r' 0) := .compare (hl.primary hnegl) rfl hr'
  refine .inr ⟨_, .of_primary id (Primary.of_orExpr (.and (.unary (.compare hderive)))) ?_⟩
  rw [comparesNoNegation_compare, ← hl.alike, ← hr.alike]
  constructor
  · intro h
    cases h with
    | compare hl hr => exact ⟨⟨hnegl, hnegr⟩, hl, hr⟩
  · rintro ⟨-, hl, hr⟩
    exact .compare hl hr

/-- `Outcome` of a negation, whose operand may be a negation again. -/
private theorem outcome_not {o : Nat} (h : e.Outcome) : (not e o).Outcome := by
  -- if the operand cannot be read, neither can what has a prefix before it
  rcases h with ⟨hmark, hnot⟩ | ⟨e', h⟩
  · refine .inl ⟨?_, fun h => hnot (comparesNoNegation_not.mp h)⟩
    simpa [tokens] using hmark.append [⟨.not, "!", 0⟩] []
  refine .inr ⟨_, .not rfl h.unary, fun h => absurd trivial h, ?_, ?_⟩
  · -- the innermost operand of the prefixes is what gets compared
    intro _ t op rs r ht hr
    by_cases hneg : e.IsNegation
    · obtain ⟨x, o', hderive⟩ := h.compared hneg ht hr
      exact ⟨_, _, .not rfl hderive⟩
    · exact ⟨_, _, .not rfl (.compare (.compare (h.primary hneg) ht hr))⟩
  · rw [comparesNoNegation_not, ← h.alike]
    constructor
    · intro h
      cases h with
      | not h => exact h
    · exact .not

/-- `Outcome` of arguments: all of them are read, or one is not. -/
private theorem outcome_args {args : List Expr} (hne : args ≠ []) (h : ∀ e ∈ args, e.Outcome) :
    (ComparesPrefix (tokensAll args) ∧ ∃ e ∈ args, ¬ e.ComparesNoNegation) ∨
      ∃ args', Args (tokensAll args) args' ∧
        (AllAlike args' args ↔ ∀ e ∈ args, e.ComparesNoNegation) := by
  -- printed, the last argument has no comma behind it
  induction args with
  | nil => exact absurd rfl hne
  | cons e es ih =>
    rw [List.forall_mem_cons] at h
    obtain ⟨he, hes⟩ := h
    cases es with
    | nil =>
      rcases he with ⟨hmark, hnot⟩ | ⟨e', he⟩
      · exact .inl ⟨hmark, e, List.mem_cons_self, hnot⟩
      · refine .inr ⟨[e'], .single (.and (.unary he.unary)), ?_⟩
        rw [List.forall_mem_singleton, ← he.alike]
        constructor
        · intro h
          cases h with
          | cons h _ => exact h
        · exact fun h => .cons h .nil
    | cons next more =>
      rcases he with ⟨hmark, hnot⟩ | ⟨e', he⟩
      · refine .inl ⟨?_, e, List.mem_cons_self, hnot⟩
        simpa [tokensAll] using hmark.append [] (⟨.comma, ",", 0⟩ :: tokensAll (next :: more))
      rcases ih (List.cons_ne_nil _ _) hes with ⟨hmark, x, hx, hnot⟩ | ⟨args', hargs, halike⟩
      · refine .inl ⟨?_, x, List.mem_cons_of_mem _ hx, hnot⟩
        have happend := hmark.append (e.tokens ++ [⟨.comma, ",", 0⟩]) []
        rwa [List.append_nil, List.append_assoc] at happend
      · refine .inr ⟨e' :: args', .cons (.and (.unary he.unary)) rfl hargs, ?_⟩
        rw [List.forall_mem_cons, ← he.alike, ← halike]
        constructor
        · intro h
          cases h with
          | cons h hs => exact ⟨h, hs⟩
        · rintro ⟨h, hs⟩
          exact .cons h hs

/-- `Outcome` of a call whose target is a path. -/
private theorem outcome_call {target : List String} {method : String} {args : List Expr} {o o' : Nat}
    (hne : target ≠ []) (h : IsWritablePath (target ++ [method])) (ha : ∀ e ∈ args, e.Outcome) :
    (call (.path target o') method args o).Outcome := by
  have hhead := h.isCallHead hne
  -- no arguments: there is nothing that could be read otherwise
  by_cases hargs : args = []
  · subst hargs
    refine .inr ⟨_, .of_primary id (.emptyCall hhead rfl rfl) (iff_of_true (.call .path .nil) ?_)⟩
    exact comparesNoNegation_call.mpr (List.forall_mem_nil _)
  rcases outcome_args hargs ha with ⟨hmark, x, hx, hnot⟩ | ⟨args', hderive, halike⟩
  · refine .inl ⟨?_, fun h => hnot (comparesNoNegation_call.mp h x hx)⟩
    exact hmark.append [⟨.identifier, ".".intercalate target ++ "." ++ method, 0⟩,
      ⟨.lparen, "(", 0⟩] [⟨.rparen, ")", 0⟩]
  · refine .inr ⟨_, .of_primary id (.call hhead rfl hderive rfl) ?_⟩
    rw [comparesNoNegation_call, ← halike]
    constructor
    · intro h
      cases h with
      | call _ ha => exact ha
    · exact .call .path

/-- `Outcome` of every expression that can be written. -/
theorem IsWritable.outcome (h : e.IsWritable) : e.Outcome := by
  -- one lemma for each node
  induction h with
  | logical _ _ ihl ihr => exact outcome_logical ihl ihr
  | compare _ _ ihl ihr => exact outcome_compare ihl ihr
  | not _ ih => exact outcome_not ih
  | @path names o h =>
    refine .inr ⟨_, .of_primary id (.path (h.isPath 0)) (iff_of_true .path ?_)⟩
    simp [ComparesNoNegation, nodes, ComparesOthers]
  | @literal value o h =>
    refine .inr ⟨_, .of_primary id (.literal (value.isLiteral 0)) (iff_of_true .literal ?_)⟩
    simp [ComparesNoNegation, nodes, ComparesOthers]
  | call hne h _ ih => exact outcome_call hne h ih

end Expr

/-- An expression of a source is printed as a text that is read again as the expression, with other
offsets, if and only if no comparison in it has a negation as its left or right operand. -/
theorem reparse_iff {source : String} {e : Expr} (h : Expr.ofSource source = .ok e) :
    (∃ e', Expr.ofSource e.text = .ok e' ∧ e'.Alike e) ↔ e.ComparesNoNegation := by
  have hw := Expr.isWritable_of_ofSource h
  have hread : ReadsLike [] e.text.toList e.tokens := hw.readsApart [] (by simp)
  rcases hw.outcome with ⟨hmark, hnot⟩ | ⟨e', hreparses⟩
  · -- the text is no expression at all
    refine iff_of_false ?_ hnot
    rintro ⟨x, hx, -⟩
    obtain ⟨y, hy, -⟩ := Expr.exists_orExpr hread hx
    exact hmark.not_orExpr y hy
  · -- the text is the expression that its tokens derive, which may be another one
    obtain ⟨x, hx, hex⟩ := Expr.exists_ofSource hread (.and (.unary hreparses.unary))
    rw [← hreparses.alike]
    constructor
    · rintro ⟨y, hy, halike⟩
      obtain rfl := Except.ok.inj (hx.symm.trans hy)
      exact hex.trans halike
    · intro halike
      exact ⟨x, hx, hex.symm.trans halike⟩

/-- A comparison of a negation is printed without the parentheses that it needs; the negation of a
comparison gets them. -/
theorem reparse_iff_of_negations :
    (Expr.ofSource "(!A) == B" = .ok (.compare .eq (.not (.path ["A"] 2) 1) (.path ["B"] 8) 5) ∧
      ¬ ∃ e, Expr.ofSource "(!A == B)" = .ok e ∧
        e.Alike (.compare .eq (.not (.path ["A"] 2) 1) (.path ["B"] 8) 5)) ∧
    Expr.ofSource "!A == B" = .ok (.not (.compare .eq (.path ["A"] 1) (.path ["B"] 6) 3) 0) ∧
      ∃ e, Expr.ofSource "!(A == B)" = .ok e ∧
        e.Alike (.not (.compare .eq (.path ["A"] 1) (.path ["B"] 6) 3) 0) := by
  have hcompare (o : Nat) : Lexes [] o " == B".toList
      [⟨.comparison .eq, "==", o + 1⟩, ⟨.identifier, "B", o + 4⟩] :=
    .blank rfl (@Lexes.lexeme [] (o + 1) '=' ['='] " B".toList _ _ rfl rfl
      (.blank rfl (.single rfl rfl)))
  have hleft : Expr.ofSource "(!A) == B" =
      .ok (.compare .eq (.not (.path ["A"] 2) 1) (.path ["B"] 8) 5) := by
    have hlex : Lexes [] 0 "(!A) == B".toList _ :=
      @Lexes.lexeme [] 0 '(' [] "!A) == B".toList _ _ rfl rfl
        (@Lexes.lexeme [] 1 '!' [] "A) == B".toList _ _ rfl rfl
          (@Lexes.lexeme [] 2 'A' [] ") == B".toList _ _ rfl rfl
            (@Lexes.lexeme [] 3 ')' [] " == B".toList _ _ rfl rfl (hcompare 4))))
    rw [Expr.ofSource, tokenize_eq_ok_iff.mpr ⟨_, hlex, rfl⟩]
    rfl
  have hwhole : Expr.ofSource "!A == B" =
      .ok (.not (.compare .eq (.path ["A"] 1) (.path ["B"] 6) 3) 0) := by
    have hlex : Lexes [] 0 "!A == B".toList _ :=
      @Lexes.lexeme [] 0 '!' [] "A == B".toList _ _ rfl rfl
        (@Lexes.lexeme [] 1 'A' [] " == B".toList _ _ rfl rfl (hcompare 2))
    rw [Expr.ofSource, tokenize_eq_ok_iff.mpr ⟨_, hlex, rfl⟩]
    rfl
  refine ⟨⟨hleft, fun h => ?_⟩, hwhole, (reparse_iff hwhole).mpr ?_⟩
  · have hothers := (reparse_iff hleft).mp h
    exact (Expr.comparesNoNegation_compare.mp hothers).1.1 trivial
  · simp [Expr.ComparesNoNegation, Expr.nodes, Expr.ComparesOthers, Expr.IsNegation]

end RecordFilter
