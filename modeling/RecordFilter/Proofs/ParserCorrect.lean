import Mathlib.Data.List.TakeWhile
import RecordFilter.Proofs.ParserInvariant
/-!
# The parser accepts exactly the grammar

What the parser has read is a phrase of the grammar, so what it accepts is derived
(`parse_sound`).  Conversely the tokens of a phrase lead the parser from a state that expects the
phrase to one that holds its expression (`OrExpr.run` and its companions, one for each rule), so
what is derived is accepted (`parse_complete`).  Since the parser is a function, no tokens have two
expressions.
-/

namespace RecordFilter

open Grammar

/-! ### Accepted tokens are derived -/

/-- The expression that the operand is, if none follows. -/
def Operand.expr? : Operand → Option Expr
  | missing => none
  | path token names => some (.path names token.offset)
  | complete e => some e

/-- `Operand.Reads` is a derivation of `Primary`, if the operand has an expression. -/
theorem Operand.Reads.primary {o : Operand} {ts : List Token} {e : Expr} (h : o.Reads ts)
    (he : o.expr? = some e) : Primary ts e := by
  cases h with
  | missing => simp [Operand.expr?] at he
  | path ht =>
    cases he
    exact .path ht
  | complete h =>
    cases he
    exact h

namespace ParserState

variable {s : ParserState} {t : Token} {ts : List Token} {e : Expr}

/-- `finish` succeeds where an operand is complete and no parenthesis is open. -/
theorem finish_eq_ok_iff :
    s.finish t = .ok e ↔
      s.enclosing = [] ∧ ∃ x, s.operand.expr? = some x ∧ s.pending.complete x = e := by
  unfold finish
  cases s.operand with
  | missing => simp [Operand.expr?]
  | path token names => cases s.enclosing <;> simp [Operand.expr?]
  | complete x => cases s.enclosing <;> simp [Operand.expr?]

end ParserState

/-- `parse` runs over the tokens before the end, of which there is one. -/
theorem parse_eq_ok_iff {ts : List Token} {e : Expr} :
    parse ts = .ok e ↔
      ∃ s, ParserState.run {} (beforeEnd ts) = .ok s ∧ s.finish (inputEnd ts) = .ok e := by
  unfold parse
  split
  · -- without tokens, the start lacks an operand
    rename_i hnil
    rw [hnil]
    constructor
    · intro h
      simp at h
    · rintro ⟨s, hrun, hfin⟩
      cases hrun
      simp [ParserState.finish] at hfin
  · rename_i t us hcons
    rw [hcons]
    exact Except.bind_eq_ok_iff

/-- `parse` gives an expression that the tokens derive. -/
theorem parse_sound {ts : List Token} {e : Expr} (h : parse ts = .ok e) :
    OrExpr (beforeEnd ts) e := by
  obtain ⟨s, hrun, hfin⟩ := parse_eq_ok_iff.mp h
  obtain ⟨henc, x, hx, rfl⟩ := ParserState.finish_eq_ok_iff.mp hfin
  obtain ⟨as, bs, cs, hts, ha, hb, hc⟩ := ParserState.run_reads ParserState.start_reads hrun
  -- no parenthesis is open at the end, so what waits and the operand are all there is
  rw [henc] at ha
  cases ha
  rw [List.nil_append, List.nil_append] at hts
  rw [hts]
  exact hb.orExpr_complete (hc.primary hx)

/-! ### Derived tokens are accepted -/

namespace ParserState

variable {s s' : ParserState} {t : Token} {ts us : List Token} {e : Expr}

/-- `run` goes on from the state that its first part leads to. -/
theorem run_append_of_eq (h : s.run ts = .ok s') : s.run (ts ++ us) = s'.run us := by
  rw [run_append, h, Except.ok_bind]

/-- `run` goes on from the state that its first step leads to. -/
theorem run_cons_of_eq (h : s.step t = .ok s') : s.run (t :: ts) = s'.run ts := by
  rw [run_cons, h, Except.ok_bind]

/-- `step` takes a token after an operand for an operator, if it opens no parenthesis. -/
theorem step_of_expr? (h : s.operand.expr? = some e) (ht : t.kind ≠ .lparen) :
    s.step t = s.readOperator e t := by
  unfold step
  cases ho : s.operand with
  | missing => simp [ho, Operand.expr?] at h
  | path token names =>
    rw [ho] at h
    cases h
    exact if_neg ht
  | complete x =>
    rw [ho] at h
    cases h
    rfl

/-- `run_cons_of_eq` after an operand, for a token that opens no parenthesis. -/
private theorem run_cons_of_expr? (h : s.operand.expr? = some e) (ht : t.kind ≠ .lparen)
    (hstep : s.readOperator e t = .ok s') : s.run (t :: ts) = s'.run ts :=
  run_cons_of_eq ((step_of_expr? h ht).trans hstep)

end ParserState

namespace Grammar

open ParserState

variable {ts : List Token} {p : Pending} {enclosing : List (Opening × Pending)}

/-- `run` on the token of a path leads to an operand that may still become the head of a call. -/
private theorem run_path {t : Token} {names : List String} (ht : t.IsPath names) :
    run ⟨p, enclosing, .missing⟩ [t] = .ok ⟨p, enclosing, .path t names⟩ := by
  obtain ⟨hk, hnames⟩ := Token.isPath_iff.mp ht
  apply run_cons_of_eq
  simp only [step, readOperand, hk, hnames]

/-- `run` on the token of a literal leads to a complete operand. -/
private theorem run_literal {t : Token} {value : Literal} (ht : t.IsLiteral value) :
    run ⟨p, enclosing, .missing⟩ [t] =
      .ok ⟨p, enclosing, .complete (.literal value t.offset)⟩ := by
  apply run_cons_of_eq
  cases ht with
  | string hk ht => simp only [step, readOperand, hk, unquote?_eq_some_iff.mpr ht, withOperand]
  | number hk => simp only [step, readOperand, hk, withOperand]
  | boolean hk => simp only [step, readOperand, hk, withOperand]
  | null hk => simp only [step, readOperand, hk, withOperand]

/-- `run` on the head of a call and its parenthesis leads to where the first argument starts. -/
private theorem run_callHead {t o : Token} {head : CallHead} (ht : t.IsCallHead head)
    (ho : o.kind = .lparen) :
    run ⟨p, enclosing, .missing⟩ (t :: o :: ts) =
      run ⟨.empty, (.call head [] o, p) :: enclosing, .missing⟩ ts := by
  have hhead := (CallHead.ofPath?_eq_some_iff ht.isPath).mpr ⟨ht, rfl⟩
  -- the head is read as a path, and the parenthesis makes it a call
  rw [← List.singleton_append, run_append_of_eq (run_path ht.isPath)]
  apply run_cons_of_eq
  simp only [step, ho, if_true, hhead]

mutual

/-- `run` on the tokens of a disjunction leads from inside a parenthesis to its expression. -/
theorem OrExpr.run {ts : List Token} {e : Expr} (h : OrExpr ts e)
    (enclosing : List (Opening × Pending)) :
    ∃ p o x, ParserState.run ⟨.empty, enclosing, .missing⟩ ts = .ok ⟨p, enclosing, o⟩ ∧
      o.expr? = some x ∧ p.complete x = e := by
  -- the last operand is not completed yet: a tighter operator may still follow it
  match h with
  | .and h =>
    obtain ⟨c, n, m, o, x, hrun, ho, hx⟩ := h.run none enclosing
    exact ⟨_, o, x, hrun, ho, hx⟩
  | .or (l := l) (t := t) hl ht hr =>
    obtain ⟨p, o, x, hrunl, ho, rfl⟩ := hl.run enclosing
    -- `||` completes the left side, and the right side is read below it
    obtain ⟨c, n, m, o', y, hrunr, ho', hy⟩ := hr.run (some (p.complete x, t.offset)) enclosing
    refine ⟨⟨some (p.complete x, t.offset), c, n, m⟩, o', y, ?_, ho', by rw [← hy]; rfl⟩
    rw [run_append_of_eq hrunl, ← hrunr]
    apply run_cons_of_expr? ho (ht ▸ TokenKind.noConfusion)
    simp only [readOperator, ht]

/-- `run` on the tokens of a conjunction leads to its expression, below what waits for a disjunction. -/
theorem AndExpr.run {ts : List Token} {e : Expr} (h : AndExpr ts e) (d : Option (Expr × Nat))
    (enclosing : List (Opening × Pending)) :
    ∃ c n m o x, ParserState.run ⟨⟨d, none, [], none⟩, enclosing, .missing⟩ ts =
      .ok ⟨⟨d, c, n, m⟩, enclosing, o⟩ ∧ o.expr? = some x ∧
        Pending.conjoined ⟨d, c, n, m⟩ x = e := by
  match h with
  | .unary h =>
    obtain ⟨n, m, o, x, hrun, ho, hx⟩ := h.run d none [] enclosing
    exact ⟨none, n, m, o, x, hrun, ho, hx⟩
  | .and (l := l) (t := t) hl ht hr =>
    obtain ⟨c, n, m, o, x, hrunl, ho, rfl⟩ := hl.run d enclosing
    -- `&&` completes the conjunction so far, and leaves the disjunction waiting
    let c' := some (Pending.conjoined ⟨d, c, n, m⟩ x, t.offset)
    obtain ⟨n', m', o', y, hrunr, ho', hy⟩ := hr.run d c' [] enclosing
    rw [List.foldl_nil] at hy
    refine ⟨c', n', m', o', y, ?_, ho', by rw [← hy]; rfl⟩
    rw [run_append_of_eq hrunl, ← hrunr]
    apply run_cons_of_expr? ho (ht ▸ TokenKind.noConfusion)
    simp only [readOperator, ht, c']

/-- `run` on the tokens of a unary expression leads to its expression, below the prefixes that wait. -/
theorem UnaryExpr.run {ts : List Token} {e : Expr} (h : UnaryExpr ts e)
    (d c : Option (Expr × Nat)) (n : List Nat) (enclosing : List (Opening × Pending)) :
    ∃ n' m o x, ParserState.run ⟨⟨d, c, n, none⟩, enclosing, .missing⟩ ts =
      .ok ⟨⟨d, c, n', m⟩, enclosing, o⟩ ∧ o.expr? = some x ∧
        Pending.negated ⟨d, c, n', m⟩ x = n.foldl .not e := by
  match h with
  | .compare h =>
    obtain ⟨m, o, x, hrun, ho, rfl⟩ := h.run d c n enclosing
    exact ⟨n, m, o, x, hrun, ho, rfl⟩
  | .not (t := t) ht h =>
    -- the prefix waits with those before it, as the innermost one
    obtain ⟨n', m, o, x, hrun, ho, hx⟩ := h.run d c (t.offset :: n) enclosing
    refine ⟨n', m, o, x, ?_, ho, hx⟩
    rw [← hrun]
    apply run_cons_of_eq
    simp only [step, readOperand, ht, Option.isNone_none, if_true]

/-- `run` on the tokens of a comparison leads to its expression, below the prefixes that wait. -/
theorem CompareExpr.run {ts : List Token} {e : Expr} (h : CompareExpr ts e)
    (d c : Option (Expr × Nat)) (n : List Nat) (enclosing : List (Opening × Pending)) :
    ∃ m o x, ParserState.run ⟨⟨d, c, n, none⟩, enclosing, .missing⟩ ts =
      .ok ⟨⟨d, c, n, m⟩, enclosing, o⟩ ∧ o.expr? = some x ∧
        Pending.compared ⟨d, c, n, m⟩ x = e := by
  match h with
  | .primary h =>
    obtain ⟨o, hrun, ho⟩ := h.run ⟨d, c, n, none⟩ enclosing
    exact ⟨none, o, e, hrun, ho, rfl⟩
  | @CompareExpr.compare op _ l t _ r hl ht hr =>
    let m := some (l, op, t.offset)
    obtain ⟨o, hrunl, ho⟩ := hl.run ⟨d, c, n, none⟩ enclosing
    obtain ⟨o', hrunr, ho'⟩ := hr.run ⟨d, c, n, m⟩ enclosing
    refine ⟨m, o', r, ?_, ho', rfl⟩
    rw [run_append_of_eq hrunl, ← hrunr]
    apply run_cons_of_expr? ho (ht ▸ TokenKind.noConfusion)
    simp only [readOperator, ht, Option.isNone_none, if_true, m]

/-- `run` on the tokens of a primary expression leads to it as an operand. -/
theorem Primary.run {ts : List Token} {e : Expr} (h : Primary ts e) (p : Pending)
    (enclosing : List (Opening × Pending)) :
    ∃ o, ParserState.run ⟨p, enclosing, .missing⟩ ts = .ok ⟨p, enclosing, o⟩ ∧
      o.expr? = some e := by
  match h with
  | .path ht => exact ⟨_, run_path ht, rfl⟩
  | .literal ht => exact ⟨_, run_literal ht, rfl⟩
  | .group (o := t) (c := t') ho h hc =>
    -- inside the parenthesis, what waits outside is out of reach
    obtain ⟨q, o, x, hrun, hx, rfl⟩ := h.run ((.group t, p) :: enclosing)
    have hopen : step ⟨p, enclosing, .missing⟩ t =
        .ok ⟨.empty, (.group t, p) :: enclosing, .missing⟩ := by
      simp only [step, readOperand, ho]
    refine ⟨.complete (q.complete x), ?_, rfl⟩
    rw [run_cons_of_eq hopen, run_append_of_eq hrun]
    apply run_cons_of_expr? hx (hc ▸ TokenKind.noConfusion)
    simp only [readOperator, hc]
  | @Primary.emptyCall _ head _ _ ht ho hc =>
    refine ⟨.complete (head.toExpr []), ?_, rfl⟩
    rw [run_callHead ht ho]
    apply run_cons_of_eq
    simp only [step, readOperand, hc, emptyCall?]
    rfl
  | @Primary.call _ head t _ args _ ht ho ha hc =>
    obtain ⟨q, args', o, x, hrun, hx, rfl⟩ := ha.run head t p enclosing
    refine ⟨.complete (head.toExpr (args' ++ [q.complete x])), ?_, rfl⟩
    rw [run_callHead ht ho, run_append_of_eq hrun]
    apply run_cons_of_expr? hx (hc ▸ TokenKind.noConfusion)
    simp only [readOperator, hc]

/-- `run` on the tokens of arguments leads to the last of them, with the others beside the call. -/
theorem Args.run {ts : List Token} {args : List Expr} (h : Args ts args) (head : CallHead)
    (paren : Token) (p : Pending) (enclosing : List (Opening × Pending)) :
    ∃ q args' o x, ParserState.run ⟨.empty, (.call head [] paren, p) :: enclosing, .missing⟩ ts =
      .ok ⟨q, (.call head args' paren, p) :: enclosing, o⟩ ∧ o.expr? = some x ∧
        args' ++ [q.complete x] = args := by
  match h with
  | .single h =>
    obtain ⟨q, o, x, hrun, ho, rfl⟩ := h.run ((.call head [] paren, p) :: enclosing)
    exact ⟨q, [], o, x, hrun, ho, rfl⟩
  | .more ha ht h =>
    obtain ⟨q, args', o, x, hruna, ho, rfl⟩ := ha.run head paren p enclosing
    -- the comma moves the argument before it to those beside the call
    obtain ⟨q', o', y, hrun, ho', rfl⟩ :=
      h.run ((.call head (args' ++ [q.complete x]) paren, p) :: enclosing)
    refine ⟨q', _, o', y, ?_, ho', rfl⟩
    rw [run_append_of_eq hruna, ← hrun]
    apply run_cons_of_expr? ho (ht ▸ TokenKind.noConfusion)
    simp only [readOperator, ht]

end

end Grammar

/-- `step` takes no end of input. -/
private theorem ParserState.ne_eof_of_step {s s' : ParserState} {t : Token} (h : s.step t = .ok s') :
    t.kind ≠ .eof := by
  intro ht
  have hoperator (e : Expr) : s.readOperator e t ≠ .ok s' := by
    simp only [readOperator, ht]
    exact refuse_ne_ok
  unfold step at h
  split at h
  · simp [readOperand, ht] at h
  · rw [if_neg (ht ▸ TokenKind.noConfusion)] at h
    exact hoperator _ h
  · exact hoperator _ h

/-- `run` takes no end of input. -/
theorem ParserState.ne_eof_of_run {s s' : ParserState} {ts : List Token} (h : s.run ts = .ok s') :
    ∀ t ∈ ts, t.kind ≠ .eof := by
  induction ts generalizing s with
  | nil => exact List.forall_mem_nil _
  | cons t ts ih =>
    rw [run_cons, Except.bind_eq_ok_iff] at h
    obtain ⟨s₁, hstep, hrun⟩ := h
    exact List.forall_mem_cons.mpr ⟨ne_eof_of_step hstep, ih hrun⟩

/-- `beforeEnd` takes nothing away from tokens without an end of input. -/
theorem beforeEnd_eq_self {ts : List Token} (h : ∀ t ∈ ts, t.kind ≠ .eof) : beforeEnd ts = ts := by
  rw [beforeEnd, List.takeWhile_eq_self_iff]
  exact fun t ht => bne_iff_ne.mpr (h t ht)

/-- `parse` accepts tokens whose part before the end is derived, and gives the expression that they
derive. -/
theorem parse_complete {ts : List Token} {e : Expr} (h : OrExpr (beforeEnd ts) e) :
    parse ts = .ok e := by
  obtain ⟨p, o, x, hrun, ho, rfl⟩ := h.run []
  exact parse_eq_ok_iff.mpr ⟨_, hrun, ParserState.finish_eq_ok_iff.mpr ⟨rfl, x, ho, rfl⟩⟩

/-- `beforeEnd` takes nothing away from tokens that derive an expression. -/
theorem Grammar.OrExpr.beforeEnd_eq {ts : List Token} {e : Expr} (h : OrExpr ts e) :
    beforeEnd ts = ts := by
  obtain ⟨p, o, x, hrun, -⟩ := h.run []
  exact beforeEnd_eq_self (ParserState.ne_eof_of_run hrun)

/-- `OrExpr` derives at most one expression from tokens. -/
theorem Grammar.OrExpr.unique {ts : List Token} {e e' : Expr} (h : OrExpr ts e)
    (h' : OrExpr ts e') : e = e' := by
  -- the parser gives the expression of either derivation
  have hparse := parse_complete (h.beforeEnd_eq ▸ h)
  have hparse' := parse_complete (h'.beforeEnd_eq ▸ h')
  exact Except.ok.inj (hparse.symm.trans hparse')

/-- `parse` does not look at what follows an end of input. -/
private theorem parse_append_eof (ts us : List Token) {t : Token} (ht : t.kind = .eof) :
    parse (ts ++ t :: us) = parse (ts ++ [t]) := by
  have hbefore : beforeEnd (ts ++ t :: us) = beforeEnd (ts ++ [t]) := by
    simp [beforeEnd, List.takeWhile_append, ht]
  have hend : inputEnd (ts ++ t :: us) = inputEnd (ts ++ [t]) := by
    simp [inputEnd, List.find?_append, ht]
  unfold parse
  rw [hbefore, hend]

/-- The parser accepts exactly what the grammar derives from the tokens before the first end of
input, and gives the expression that they derive; tokens derive at most one expression; and tokens
after an end of input change neither an expression nor an error. -/
theorem parse_iff_grammar (ts : List Token) :
    (∀ e, parse ts = .ok e ↔ OrExpr (beforeEnd ts) e) ∧
      (∀ e e', OrExpr ts e → OrExpr ts e' → e = e') ∧
      ∀ t us, t.kind = .eof → parse (ts ++ t :: us) = parse (ts ++ [t]) :=
  ⟨fun _ => ⟨parse_sound, parse_complete⟩, fun _ _ h h' => h.unique h',
    fun _ us ht => parse_append_eof ts us ht⟩

/-- The tokens of `!A.B && C.D("")` derive the conjunction of a negation and a call. -/
theorem parse_iff_grammar_of_not_and_call :
    OrExpr
      [⟨.not, "!", 0⟩, ⟨.identifier, "A.B", 1⟩, ⟨.and, "&&", 5⟩, ⟨.identifier, "C.D", 8⟩,
        ⟨.lparen, "(", 11⟩, ⟨.string, "\"\"", 12⟩, ⟨.rparen, ")", 14⟩]
      (.logical .and (.not (.path ["A", "B"] 1) 0)
        (.call (.path ["C"] 8) "D" [.literal (.string "") 12] 10) 5) := by
  have hparse := (parse_iff_grammar
    [⟨.not, "!", 0⟩, ⟨.identifier, "A.B", 1⟩, ⟨.and, "&&", 5⟩, ⟨.identifier, "C.D", 8⟩,
      ⟨.lparen, "(", 11⟩, ⟨.string, "\"\"", 12⟩, ⟨.rparen, ")", 14⟩]).1
  exact (hparse _).mp rfl

end RecordFilter
