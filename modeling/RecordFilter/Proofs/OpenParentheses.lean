import RecordFilter.Proofs.ParserStops
/-!
# Open parentheses

`Balanced` says of tokens that every parenthesis among them has its partner.  Every phrase of the
grammar is balanced (`OrExpr.balanced` and its companions).  So the tokens that the parser has read
open as many parentheses more than they close as its state holds (`ParserState.Reads.opened_eq`), and
those after the innermost open one are balanced (`ParserState.Reads.exists_balanced`).  With this, what
an error says of a parenthesis is exactly what the tokens before it or after it say
(`parenthesis_error_exact`).
-/

namespace RecordFilter

open Grammar

/-! ### Balanced tokens -/

/-- The token opens or closes a parenthesis. -/
def Token.isParenthesis (t : Token) : Bool := t.kind == .lparen || t.kind == .rparen

/-- The number of opening parentheses among the tokens. -/
def opened (ts : List Token) : Nat := ts.countP fun t => t.kind == .lparen

/-- The number of closing parentheses among the tokens. -/
def closed (ts : List Token) : Nat := ts.countP fun t => t.kind == .rparen

/-- Every parenthesis among the tokens has its partner there. -/
inductive Balanced : List Token → Prop where
  | nil : Balanced []
  | other {t : Token} (ht : t.isParenthesis = false) : Balanced [t]
  | group {o c : Token} {ts : List Token} (ho : o.kind = .lparen) (h : Balanced ts)
      (hc : c.kind = .rparen) : Balanced (o :: (ts ++ [c]))
  | append {ts us : List Token} (h : Balanced ts) (h' : Balanced us) : Balanced (ts ++ us)

/-- One of the tokens closes the parenthesis right before them: those between the two are balanced. -/
def ClosedBy (ts : List Token) : Prop :=
  ∃ us c vs, ts = us ++ c :: vs ∧ Balanced us ∧ c.kind = .rparen

/-- `isParenthesis` fails for tokens of the other classes. -/
theorem Token.isParenthesis_of_kind {t : Token} {kind : TokenKind} (ht : t.kind = kind)
    (h : (kind == .lparen || kind == .rparen) = false) : t.isParenthesis = false := by
  rw [isParenthesis, ht, h]

/-- `Token.isParenthesis` as two inequalities. -/
private theorem Token.isParenthesis_eq_false_iff {t : Token} :
    t.isParenthesis = false ↔ t.kind ≠ .lparen ∧ t.kind ≠ .rparen := by
  simp [isParenthesis]

/-- `opened` of no tokens is zero. -/
@[simp] theorem opened_nil : opened [] = 0 := rfl

/-- `closed` of no tokens is zero. -/
@[simp] theorem closed_nil : closed [] = 0 := rfl

/-- The first token counts in `opened` if it is an opening parenthesis. -/
@[simp] theorem opened_cons (t : Token) (ts : List Token) :
    opened (t :: ts) = opened ts + if t.kind = .lparen then 1 else 0 := by
  simp [opened, List.countP_cons]

/-- The first token counts in `closed` if it is a closing parenthesis. -/
@[simp] theorem closed_cons (t : Token) (ts : List Token) :
    closed (t :: ts) = closed ts + if t.kind = .rparen then 1 else 0 := by
  simp [closed, List.countP_cons]

/-- `opened` adds up along the tokens. -/
@[simp] theorem opened_append (ts us : List Token) : opened (ts ++ us) = opened ts + opened us :=
  List.countP_append

/-- `closed` adds up along the tokens. -/
@[simp] theorem closed_append (ts us : List Token) : closed (ts ++ us) = closed ts + closed us :=
  List.countP_append

namespace Balanced

variable {ts us : List Token} {t : Token}

/-- Another token before `Balanced` tokens. -/
theorem cons (ht : t.isParenthesis = false) (h : Balanced ts) : Balanced (t :: ts) :=
  .append (.other ht) h

/-- Another token after `Balanced` tokens. -/
theorem concat (h : Balanced ts) (ht : t.isParenthesis = false) : Balanced (ts ++ [t]) :=
  h.append (.other ht)

/-- `Balanced` holds of two balanced operands with the operator between them. -/
theorem between (h : Balanced ts) (ht : t.isParenthesis = false) (h' : Balanced us) :
    Balanced (ts ++ t :: us) :=
  h.append (h'.cons ht)

/-- Tokens without parentheses are `Balanced`. -/
private theorem of_forall (h : ∀ t ∈ ts, t.isParenthesis = false) : Balanced ts := by
  induction ts with
  | nil => exact .nil
  | cons t ts ih =>
    obtain ⟨ht, hts⟩ := List.forall_mem_cons.mp h
    exact (ih hts).cons ht

/-- `Balanced` tokens close as many parentheses as they open. -/
theorem opened_eq (h : Balanced ts) : opened ts = closed ts := by
  induction h with
  | nil => rfl
  | other ht => simp [Token.isParenthesis_eq_false_iff.mp ht]
  | group ho _ hc ih => simp [ho, hc, ih]
  | append _ _ ih ih' => simp [ih, ih']

/-- `Balanced` tokens, as far as they are read, close no more parentheses than they open. -/
theorem closed_le (h : Balanced ts) (hp : us <+: ts) : closed us ≤ opened us := by
  -- by the way the tokens are balanced; the first ones are general
  induction h generalizing us with
  | nil => simp [List.prefix_nil.mp hp]
  | other ht =>
    rcases List.prefix_cons_iff.mp hp with rfl | ⟨vs, rfl, hvs⟩
    · simp
    · simp [List.prefix_nil.mp hvs, Token.isParenthesis_eq_false_iff.mp ht]
  | @group o c vs ho h hc ih =>
    -- inside the group one more is open, and its last token closes that one
    rcases List.prefix_cons_iff.mp hp with rfl | ⟨ws, rfl, hws⟩
    · simp
    · rcases List.prefix_concat_iff.mp hws with rfl | hws
      · simp [ho, hc, h.opened_eq]
      · have hle := ih hws
        simp only [closed_cons, opened_cons, ho, if_true, reduceCtorEq, if_false]
        omega
  | @append vs ws h _ ih ih' =>
    -- the first ones end in the first part, or hold it as a whole
    rcases List.prefix_or_prefix_of_prefix hp (List.prefix_append vs ws) with hvs | ⟨xs, rfl⟩
    · exact ih hvs
    · have hle := ih' ((List.prefix_append_right_inj vs).mp hp)
      have heq := h.opened_eq
      rw [closed_append, opened_append]
      omega

/-- `Balanced` tokens close nothing that was opened before them. -/
private theorem not_closedBy (h : Balanced ts) : ¬ ClosedBy ts := by
  rintro ⟨us, c, vs, rfl, hus, hc⟩
  -- what comes before the closing parenthesis would close one more than it opens
  have hp : us ++ [c] <+: us ++ c :: vs := ⟨vs, by simp⟩
  have hle := h.closed_le hp
  have heq := hus.opened_eq
  simp [hc] at hle
  omega

end Balanced

/-- What is `ClosedBy` tokens is closed whatever follows them. -/
theorem ClosedBy.append {ts : List Token} (h : ClosedBy ts) (us : List Token) :
    ClosedBy (ts ++ us) := by
  obtain ⟨vs, c, ws, rfl, hvs, hc⟩ := h
  exact ⟨vs, c, ws ++ us, by simp, hvs, hc⟩

/-- A token of two parts, and all after it, is found in the second part or starts in the first. -/
theorem cons_suffix_append {t : Token} {ts us vs : List Token} (h : t :: ts <:+ us ++ vs) :
    t :: ts <:+ vs ∨ ∃ ws, ts = ws ++ vs ∧ t :: ws <:+ us := by
  rcases List.suffix_or_suffix_of_suffix h (List.suffix_append us vs) with hvs | ⟨ws, hws⟩
  · exact .inl hvs
  · cases ws with
    | nil => exact .inl ⟨[], hws.symm⟩
    | cons w ws =>
      rw [← hws] at h
      have hus := ((List.suffix_append_inj_of_length_eq rfl).mp h).1
      cases hws
      exact .inr ⟨ws, rfl, hus⟩

/-- `Balanced` tokens close what they open. -/
private theorem Balanced.closedBy {ts us : List Token} {o : Token} (h : Balanced ts)
    (hs : o :: us <:+ ts) (ho : o.kind = .lparen) : ClosedBy us := by
  induction h generalizing us with
  | nil => exact absurd (List.suffix_nil.mp hs) (List.cons_ne_nil _ _)
  | other ht =>
    rcases List.suffix_cons_iff.mp hs with heq | hs
    · cases heq
      exact absurd ho (Token.isParenthesis_eq_false_iff.mp ht).1
    · exact absurd (List.suffix_nil.mp hs) (List.cons_ne_nil _ _)
  | @group o' c vs _ h hc ih =>
    rcases List.suffix_cons_iff.mp hs with heq | hs
    · -- the group itself
      cases heq
      exact ⟨vs, c, [], rfl, h, hc⟩
    · rcases List.suffix_concat_iff.mp hs with heq | ⟨ws, heq, hws⟩
      · exact absurd heq (List.cons_ne_nil _ _)
      · cases ws with
        | nil =>
          cases heq
          exact absurd (hc.symm.trans ho) TokenKind.noConfusion
        | cons w ws =>
          cases heq
          exact (ih hws).append [c]
  -- the parenthesis stands in the second part, or in the first with its partner
  | @append vs ws _ _ ih ih' =>
    rcases cons_suffix_append hs with hws | ⟨xs, rfl, hvs⟩
    · exact ih' hws
    · exact (ih hvs).append ws

/-! ### Phrases are balanced -/

namespace Grammar

/-- `Balanced` holds of a literal, which is no parenthesis. -/
private theorem balanced_of_isLiteral {t : Token} {value : Literal} (h : t.IsLiteral value) :
    Balanced [t] :=
  .other (Token.isParenthesis_of_kind rfl (h.kind_elim rfl rfl rfl rfl))

/-- `Balanced` holds of a path, which is no parenthesis. -/
private theorem balanced_of_isPath {t : Token} {names : List String} (h : t.IsPath names) : Balanced [t] :=
  .other (Token.isParenthesis_of_kind h.kind rfl)

mutual

/-- The tokens of a disjunction are `Balanced`: so are those of its sides, and the operator is no
parenthesis. -/
theorem OrExpr.balanced {ts : List Token} {e : Expr} (h : OrExpr ts e) : Balanced ts := by
  match h with
  | .and h => exact h.balanced
  | .or hl ht hr => exact hl.balanced.between (Token.isParenthesis_of_kind ht rfl) hr.balanced

/-- The tokens of a conjunction are `Balanced`, like those of a disjunction. -/
theorem AndExpr.balanced {ts : List Token} {e : Expr} (h : AndExpr ts e) : Balanced ts := by
  match h with
  | .unary h => exact h.balanced
  | .and hl ht hr => exact hl.balanced.between (Token.isParenthesis_of_kind ht rfl) hr.balanced

/-- The tokens of a negation are `Balanced`: the prefix is no parenthesis. -/
theorem UnaryExpr.balanced {ts : List Token} {e : Expr} (h : UnaryExpr ts e) : Balanced ts := by
  match h with
  | .compare h => exact h.balanced
  | .not ht h => exact h.balanced.cons (Token.isParenthesis_of_kind ht rfl)

/-- The tokens of a comparison are `Balanced`. -/
theorem CompareExpr.balanced {ts : List Token} {e : Expr} (h : CompareExpr ts e) :
    Balanced ts := by
  match h with
  | .primary h => exact h.balanced
  | .compare hl ht hr => exact hl.balanced.between (Token.isParenthesis_of_kind ht rfl) hr.balanced

/-- The tokens of a name, literal, group or call are `Balanced`.  The parentheses of a group and of a
call are partners of one another. -/
theorem Primary.balanced {ts : List Token} {e : Expr} (h : Primary ts e) : Balanced ts := by
  match h with
  | .path ht => exact balanced_of_isPath ht
  | .literal ht => exact balanced_of_isLiteral ht
  | .group ho h hc => exact .group ho h.balanced hc
  | .emptyCall ht ho hc => exact (balanced_of_isPath ht.isPath).append (.group ho .nil hc)
  | .call ht ho ha hc => exact (balanced_of_isPath ht.isPath).append (.group ho ha.balanced hc)

/-- The tokens of the arguments of a call are `Balanced`, with the commas between them. -/
theorem Args.balanced {ts : List Token} {args : List Expr} (h : Args ts args) : Balanced ts := by
  match h with
  | .single h => exact h.balanced
  | .more ha ht h => exact ha.balanced.between (Token.isParenthesis_of_kind ht rfl) h.balanced

end

end Grammar

/-! ### Parentheses that the parser holds open -/

/-- What waits before a connective is `Balanced`, if phrases of its kind are. -/
theorem Waits.balanced {Phrase : List Token → Expr → Prop} {kind : TokenKind}
    {waiting : Option (Expr × Nat)} {ts : List Token} (h : Waits Phrase kind waiting ts)
    (hphrase : ∀ {us e}, Phrase us e → Balanced us)
    (hkind : (kind == .lparen || kind == .rparen) = false) : Balanced ts := by
  cases waiting with
  | none =>
    obtain rfl : ts = [] := h
    exact .nil
  | some left =>
    obtain ⟨us, t, rfl, hus, ht, -⟩ := h
    exact (hphrase hus).concat (Token.isParenthesis_of_kind ht hkind)

/-- What waits before a comparison operator is `Balanced`. -/
theorem ComparisonWaits.balanced {waiting : Option (Expr × Comparison × Nat)} {ts : List Token}
    (h : ComparisonWaits waiting ts) : Balanced ts := by
  cases waiting with
  | none =>
    obtain rfl : ts = [] := h
    exact .nil
  | some left =>
    obtain ⟨e, op, offset⟩ := left
    have hwaits : Waits Primary (.comparison op) (some (e, offset)) ts := h
    exact hwaits.balanced Primary.balanced rfl

/-- `Balanced` holds of what waits for a right operand. -/
theorem Pending.Reads.balanced {p : Pending} {ts : List Token} (h : p.Reads ts) : Balanced ts := by
  obtain ⟨ds, cs, ns, ms, rfl, hd, hc, hn, hm⟩ := h
  have hds := hd.balanced OrExpr.balanced rfl
  have hcs := hc.balanced AndExpr.balanced rfl
  have hns : Balanced ns := .of_forall fun t ht => Token.isParenthesis_of_kind (hn.1 t ht) rfl
  exact hds.append (hcs.append (hns.append hm.balanced))

/-- What has been read of an operand is `Balanced`: a path is only called once its parenthesis is read.
-/
theorem Operand.Reads.balanced {o : Operand} {ts : List Token} (h : o.Reads ts) : Balanced ts := by
  cases h with
  | missing => exact .nil
  | path ht => exact balanced_of_isPath ht
  | complete h => exact h.balanced

/-- `Balanced` tokens stand on both sides of an open parenthesis. -/
theorem Opening.Reads.exists_balanced {o : Opening} {ts : List Token} (h : o.Reads ts) :
    ∃ us vs, ts = us ++ o.paren :: vs ∧ Balanced us ∧ Balanced vs := by
  cases h with
  | group ht => exact ⟨[], [], rfl, .nil, .nil⟩
  | call ht ho => exact ⟨[_], [], rfl, balanced_of_isPath ht.isPath, .nil⟩
  | args ht ho ha hc =>
    exact ⟨[_], _, rfl, balanced_of_isPath ht.isPath,
      ha.balanced.concat (Token.isParenthesis_of_kind hc rfl)⟩

/-- The tokens up to the innermost open parenthesis open one parenthesis more than they close for each
element of `enclosing`. -/
theorem EnclosingReads.opened_eq {enclosing : List (Opening × Pending)} {ts : List Token}
    (h : EnclosingReads enclosing ts) : opened ts = closed ts + enclosing.length := by
  -- from the outermost parenthesis to the innermost
  induction h with
  | nil => rfl
  | cons _ houter hopening ih =>
    obtain ⟨us, vs, rfl, hus, hvs⟩ := hopening.exists_balanced
    simp [ih, houter.balanced.opened_eq, hus.opened_eq, hvs.opened_eq, hopening.paren_kind]
    omega

namespace ParserState

variable {s s' : ParserState} {ts us : List Token} {t : Token}

/-- `enclosing` has the parentheses that were opened and not closed. -/
theorem Reads.opened_eq (h : s.Reads ts) : opened ts = closed ts + s.enclosing.length := by
  obtain ⟨as, bs, cs, rfl, ha, hb, hc⟩ := h
  simp only [opened_append, closed_append, ha.opened_eq, hb.balanced.opened_eq,
    hc.balanced.opened_eq]
  omega

/-- `Balanced` holds of all that was read since the innermost open parenthesis. -/
theorem Reads.exists_balanced {opening : Opening} {outer : Pending}
    {more : List (Opening × Pending)} (h : s.Reads ts)
    (hs : s.enclosing = (opening, outer) :: more) :
    ∃ us vs, ts = us ++ opening.paren :: vs ∧ Balanced vs := by
  obtain ⟨as, bs, cs, rfl, ha, hb, hc⟩ := h
  rw [hs] at ha
  cases ha with
  | @cons _ _ _ as ds _ _ _ hopening =>
    obtain ⟨us, vs, rfl, -, hvs⟩ := hopening.exists_balanced
    exact ⟨as ++ (ds ++ us), vs ++ (bs ++ cs), by simp,
      hvs.append (hb.balanced.append hc.balanced)⟩

/-- `run` leaves as many parentheses in `enclosing` as its tokens opened and did not close. -/
private theorem opened_of_run (h : run {} ts = .ok s) : opened ts = closed ts + s.enclosing.length :=
  (run_reads start_reads h).opened_eq

/-- `step` with a closing parenthesis takes one out of `enclosing`. -/
private theorem length_enclosing_of_rparen (hrun : run {} us = .ok s) (hstep : s.step t = .ok s')
    (ht : t.kind = .rparen) : s.enclosing.length = s'.enclosing.length + 1 := by
  -- the invariant before and after the token, which closes one
  have hrun' : run {} (us ++ [t]) = .ok s' := by
    rw [run_append_of_eq hrun, run_cons_of_eq hstep, run_nil]
  have hbefore := opened_of_run hrun
  have hafter := opened_of_run hrun'
  simp [ht] at hafter
  omega

end ParserState

/-! ### Main statement -/

/-- The tokens of a source that the parser rejects, with the token that the error shows.

If it is a closing parenthesis, no more parentheses are closed than opened before it; it is reported as
unmatched if there are equally many, and as unexpected if more are opened.  If it is an opening
parenthesis that is reported as unmatched, the parser has read all tokens, and that one is the
innermost that is never closed: each one after it is closed.  In every state that the parser reaches,
it holds open as many parentheses as were opened and not closed, and so there is one to close whenever
a closing parenthesis is read.

The length of `ParserState.enclosing` is a counter of open parentheses, which counts the parenthesis of a
call from where it opens.  A counter that is raised for a call only when its first argument is read, and
not at all for an empty call, agrees with it wherever it is asked.  For the token after the parenthesis of
a call is either the `)` of an empty call, which `ParserState.emptyCall?` reads without a look at the
count, or the first one of an argument, from which on both counters have counted the parenthesis. -/
theorem parenthesis_error_exact {source : String} {ts : List Token} {e : ParseError} {i : Nat}
    {t : Token} (hts : tokenize source = .ok ts) (he : parse ts = .error e)
    (hi : ts[i]? = some t) (ht : e.Cites t) :
    (t.kind = .rparen →
      closed (ts.take i) ≤ opened (ts.take i) ∧
      (opened (ts.take i) = closed (ts.take i) → e.fault = .unmatchedParenthesis) ∧
      (closed (ts.take i) < opened (ts.take i) →
        ∃ expected, e.fault = .unexpectedToken expected)) ∧
    (e.fault = .unmatchedParenthesis → t.kind = .lparen →
      (∃ s, ParserState.run {} (beforeEnd ts) = .ok s) ∧ ¬ ClosedBy (ts.drop (i + 1)) ∧
      ∀ j u, i < j → ts[j]? = some u → u.kind = .lparen → ClosedBy (ts.drop (j + 1))) ∧
    ∀ us s, ParserState.run {} us = .ok s →
      s.enclosing.length + closed us = opened us ∧
      ∀ u s', u.kind = .rparen → s.step u = .ok s' →
        s.enclosing.length = s'.enclosing.length + 1 := by
  refine ⟨?_, ?_, ?_⟩
  · intro hr
    cases parse_error_shows hts he hi ht with
    | empty hk | path hk | operand hk _ | parenthesis hk _ _ _ =>
      exact absurd (hk.symm.trans hr) TokenKind.noConfusion
    | @refused s fault _ hrun _ hrefuses =>
      -- the state that refuses the token holds open what was opened and not closed
      have hopened := ParserState.opened_of_run hrun
      refine ⟨by omega, ?_, ?_⟩
      · intro heq
        have hnil : s.enclosing = [] := List.length_eq_zero_iff.mp (by omega)
        cases hrefuses with
        | unmatched _ _ => rfl
        | unexpected hne => exact absurd hnil (hne hr)
        | trailing hne => exact absurd hr hne
      · intro hlt
        cases hrefuses with
        | unmatched _ hnil =>
          rw [hnil, List.length_nil] at hopened
          omega
        | unexpected _ => exact ⟨_, rfl⟩
        | trailing hne => exact absurd hr hne
  · intro hfault hl
    cases parse_error_shows hts he hi ht with
    | empty _ | path _ | operand _ _ => exact nomatch hfault
    | refused _ _ _ hrefuses =>
      cases hrefuses with
      | unmatched hr _ => exact absurd (hr.symm.trans hl) TokenKind.noConfusion
      | unexpected _ | trailing _ => exact nomatch hfault
    | @parenthesis s opening outer more _ hrun hs hparen =>
      -- up to the end of input, nothing after the parenthesis is left open
      obtain ⟨us, vs, hsource, hvs⟩ : ∃ us vs, ts = us ++ t :: vs ∧ Balanced vs := by
        obtain ⟨us, vs, hbefore, hvs⟩ :=
          (ParserState.run_reads ParserState.start_reads hrun).exists_balanced hs
        obtain ⟨hsplit, hend⟩ := tokenize_split hts
        refine ⟨us, vs ++ [inputEnd ts], ?_, hvs.concat (Token.isParenthesis_of_kind hend rfl)⟩
        rw [List.nil_append, hparen] at hbefore
        rw [← List.cons_append, ← List.append_assoc, ← hbefore]
        exact hsplit
      obtain ⟨rfl, -⟩ := ht.unique hts hi hsource ht
      have hdrop : ts.drop (us.length + 1) = vs := by
        rw [hsource, List.drop_length_add_append, List.drop_succ_cons, List.drop_zero]
      refine ⟨⟨s, hrun⟩, hdrop ▸ hvs.not_closedBy, ?_⟩
      intro j u hj hu hul
      -- a later opening parenthesis is among balanced tokens
      obtain ⟨hlt, hget⟩ := List.getElem?_eq_some_iff.mp hu
      have hsuffix : ts.drop j <:+ ts.drop (us.length + 1) := List.drop_suffix_drop_left ts hj
      rw [List.drop_eq_getElem_cons hlt, hget, hdrop] at hsuffix
      exact hvs.closedBy hsuffix hul
  · intro us s hrun
    have hopened := ParserState.opened_of_run hrun
    exact ⟨by omega, fun u s' hu hstep => ParserState.length_enclosing_of_rparen hrun hstep hu⟩

/-- A second closing parenthesis is unmatched after as many that open as close, one that comes too early
is unexpected, and a call that stays open is reported in place of the group inside it. -/
theorem parenthesis_error_exact_of_group_and_call :
    let extra : List Token :=
      [⟨.lparen, "(", 0⟩, ⟨.identifier, "A", 1⟩, ⟨.rparen, ")", 2⟩, ⟨.rparen, ")", 3⟩,
        ⟨.eof, "", 4⟩]
    let early : List Token :=
      [⟨.lparen, "(", 0⟩, ⟨.not, "!", 1⟩, ⟨.rparen, ")", 2⟩, ⟨.eof, "", 3⟩]
    let unclosed : List Token :=
      [⟨.identifier, "A.B", 0⟩, ⟨.lparen, "(", 3⟩, ⟨.lparen, "(", 4⟩, ⟨.identifier, "C", 5⟩,
        ⟨.rparen, ")", 6⟩, ⟨.eof, "", 7⟩]
    (tokenize "(A))" = .ok extra ∧ ∃ e, parse extra = .error e ∧ e.offset = 3 ∧
      e.fault = .unmatchedParenthesis) ∧
    (tokenize "(!)" = .ok early ∧ ∃ e, parse early = .error e ∧ e.offset = 2 ∧
      ∃ expected, e.fault = .unexpectedToken expected) ∧
    tokenize "A.B((C)" = .ok unclosed ∧
      parse unclosed = .error ⟨.unmatchedParenthesis, "(", 3⟩ ∧
      ¬ ClosedBy (unclosed.drop 2) ∧ ClosedBy (unclosed.drop 3) := by
  intro extra early unclosed
  have hextra : tokenize "(A))" = .ok extra := by decide +kernel
  have hearly : tokenize "(!)" = .ok early := by decide +kernel
  have hunclosed : tokenize "A.B((C)" = .ok unclosed := by decide +kernel
  have herror : parse unclosed = .error ⟨.unmatchedParenthesis, "(", 3⟩ := rfl
  obtain ⟨-, hequal, -⟩ :=
    (parenthesis_error_exact hextra rfl (rfl : extra[3]? = _) ⟨rfl, rfl⟩).1 rfl
  obtain ⟨-, -, hmore⟩ :=
    (parenthesis_error_exact hearly rfl (rfl : early[2]? = _) ⟨rfl, rfl⟩).1 rfl
  obtain ⟨-, hopen, hlater⟩ :=
    (parenthesis_error_exact hunclosed herror (rfl : unclosed[1]? = _) ⟨rfl, rfl⟩).2.1 rfl rfl
  exact ⟨⟨hextra, _, rfl, rfl, hequal rfl⟩, ⟨hearly, _, rfl, rfl, hmore (by decide)⟩, hunclosed,
    herror, hopen, hlater 2 _ (by decide) rfl rfl⟩

end RecordFilter
