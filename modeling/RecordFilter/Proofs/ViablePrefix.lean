import RecordFilter.Proofs.ParserStops
/-!
# Errors at the earliest token

Whatever the parser has read can still become an expression: a missing operand can follow, and then
every open parenthesis can be closed (`ParserState.exists_finish`).  So the tokens that were read are
`Viable`, and with the token that was refused they are not, however they go on.  The parser reports
that token and no later one, or that the input ended too early (`parse_error_earliest`).
-/

namespace RecordFilter

/-- Tokens that some more tokens make an expression. -/
def Viable (ts : List Token) : Prop := ∃ us e, parse (ts ++ us) = .ok e

namespace ParserState

variable {s s' : ParserState} {t : Token} {ts us : List Token} {x : Expr} {e : ParseError}

/-! ### Every state can be completed -/

/-- `step` with a closing parenthesis makes an operand of all since the parenthesis was opened. -/
private theorem exists_step_rparen {opening : Opening} {outer : Pending} {more : List (Opening × Pending)}
    (hx : s.operand.expr? = some x) (hs : s.enclosing = (opening, outer) :: more)
    (ht : t.kind = .rparen) : ∃ y, s.step t = .ok ⟨outer, more, .complete y⟩ := by
  rw [step_of_expr? hx (ht ▸ TokenKind.noConfusion)]
  -- a group gives back what stands in it, a call becomes complete with its last argument
  cases opening with
  | group paren => exact ⟨_, by simp only [readOperator, ht, hs]; rfl⟩
  | call head args paren => exact ⟨_, by simp only [readOperator, ht, hs]; rfl⟩

/-- `run` on as many closing parentheses as are open closes all of them, after an operand. -/
private theorem exists_run_rparens (hx : s.operand.expr? = some x) (ht : t.kind = .rparen) :
    ∃ s' y, s.run (List.replicate s.enclosing.length t) = .ok s' ∧ s'.enclosing = [] ∧
      s'.operand.expr? = some y := by
  obtain ⟨pending, enclosing, operand⟩ := s
  dsimp only at hx ⊢
  -- each parenthesis ends one level and leaves an operand for the next
  induction enclosing generalizing pending operand x with
  | nil => exact ⟨_, x, rfl, rfl, hx⟩
  | cons open' more ih =>
    obtain ⟨opening, outer⟩ := open'
    have henc : (⟨pending, (opening, outer) :: more, operand⟩ : ParserState).enclosing =
        (opening, outer) :: more := rfl
    obtain ⟨y, hstep⟩ := exists_step_rparen hx henc ht
    have hy : (Operand.complete y).expr? = some y := rfl
    obtain ⟨s', z, hrun, hs'⟩ := ih outer _ hy
    refine ⟨s', z, ?_, hs'⟩
    rw [List.length_cons, List.replicate_succ, run_cons_of_eq hstep, hrun]

/-- `run` can lead to an operand where one is missing. -/
private theorem exists_run_operand (s : ParserState) :
    ∃ us s' x, s.run us = .ok s' ∧ s'.operand.expr? = some x := by
  cases hx : s.operand.expr? with
  | some x => exact ⟨[], s, x, rfl, hx⟩
  | none =>
    have hmissing : s.operand = .missing := by
      cases ho : s.operand <;> simp_all [Operand.expr?]
    -- `null` can stand wherever an operand is missing
    refine ⟨[⟨.null, "null", 0⟩], s.withOperand (.literal .null 0), .literal .null 0, ?_, rfl⟩
    apply run_cons_of_eq
    simp only [step, hmissing, readOperand]

/-- `finish` succeeds some tokens after every state. -/
theorem exists_finish (s : ParserState) :
    ∃ us s', s.run us = .ok s' ∧ ∀ last, ∃ x, s'.finish last = .ok x := by
  -- first an operand, then the parentheses
  obtain ⟨us, s₁, x, hus, hx⟩ := s.exists_run_operand
  have hparen : (⟨.rparen, ")", 0⟩ : Token).kind = .rparen := rfl
  obtain ⟨s₂, y, hclose, henc, hy⟩ := exists_run_rparens hx hparen
  refine ⟨_, s₂, run_append_of_eq hus ▸ hclose, ?_⟩
  intro last
  exact ⟨_, finish_eq_ok_iff.mpr ⟨henc, y, hy, rfl⟩⟩

/-! ### Tokens that were read -/

/-- `Viable` holds of tokens that were read. -/
private theorem viable_of_run (h : run {} ts = .ok s) : Viable ts := by
  obtain ⟨us, s', hus, hfinish⟩ := s.exists_finish
  have hrun : run {} (ts ++ us) = .ok s' := by rw [run_append_of_eq h, hus]
  obtain ⟨x, hx⟩ := hfinish (inputEnd (ts ++ us))
  refine ⟨us, x, parse_eq_ok_iff.mpr ⟨s', ?_, hx⟩⟩
  rwa [beforeEnd_eq_self (ne_eof_of_run hrun)]

/-- `Viable` does not hold of tokens that end in one that is refused. -/
private theorem not_viable_of_step (hrun : run {} us = .ok s) (hstep : s.step t = .error e)
    (ht : t.kind ≠ .eof) : ¬ Viable (us ++ [t]) := by
  rintro ⟨vs, x, hparse⟩
  obtain ⟨s', hrun', -⟩ := parse_eq_ok_iff.mp hparse
  -- the parser comes to the refused token, whatever stands after it
  have hne : ∀ u ∈ us ++ [t], (u.kind != .eof) = true := by
    intro u hu
    rw [bne_iff_ne]
    rcases List.mem_append.mp hu with hu | hu
    · exact ne_eof_of_run hrun u hu
    · exact List.mem_singleton.mp hu ▸ ht
  have hbefore : beforeEnd (us ++ [t] ++ vs) = us ++ t :: beforeEnd vs := by
    rw [beforeEnd, List.takeWhile_append_of_pos hne, List.append_assoc, List.singleton_append]
    rfl
  have herror : run {} (us ++ t :: beforeEnd vs) = .error e :=
    run_eq_error_iff.mpr ⟨us, t, beforeEnd vs, s, rfl, hrun, hstep⟩
  -- it fails there, so no continuation is accepted
  rw [hbefore, herror] at hrun'
  cases hrun'

end ParserState

/-- `Viable` tokens that are rejected go on with more than nothing. -/
private theorem Viable.exists_ne_nil {ts : List Token} {e : ParseError} (h : Viable (beforeEnd ts))
    (he : parse ts = .error e) : ∃ us x, us ≠ [] ∧ parse (beforeEnd ts ++ us) = .ok x := by
  obtain ⟨us, x, hx⟩ := h
  refine ⟨us, x, ?_, hx⟩
  rintro rfl
  -- if nothing more were needed, the tokens themselves would be accepted
  have hderive := parse_sound hx
  have hbefore : beforeEnd (beforeEnd ts) = beforeEnd ts :=
    beforeEnd_eq_self fun t ht => ne_eof_of_mem_beforeEnd ht
  rw [List.append_nil, hbefore] at hderive
  rw [parse_complete hderive] at he
  exact nomatch he

/-! ### Main statement -/

/-- The tokens of a source that the parser rejects, with the token that the error shows.  If it is
refused as unexpected, as trailing, or as a closing parenthesis without a partner, then the tokens
before it can be continued to tokens that are accepted, and no tokens that begin with these and the
refused one are accepted.  If the end of input is unexpected, or a parenthesis stays open, then all
tokens before the end can be continued by more tokens to tokens that are accepted. -/
theorem parse_error_earliest {source : String} {ts : List Token} {e : ParseError} {i : Nat}
    {t : Token} (hts : tokenize source = .ok ts) (he : parse ts = .error e)
    (hi : ts[i]? = some t) (ht : e.Cites t) :
    (((∃ expected, e.fault = .unexpectedToken expected) ∨ e.fault = .trailingTokens) ∧
          t.kind ≠ .eof ∨
        e.fault = .unmatchedParenthesis ∧ t.kind = .rparen →
      Viable (ts.take i) ∧ ¬ Viable (ts.take (i + 1))) ∧
    ((∃ expected, e.fault = .unexpectedToken expected) ∧ t.kind = .eof ∨
        e.fault = .unmatchedParenthesis ∧ t.kind = .lparen →
      ∃ us x, us ≠ [] ∧ parse (beforeEnd ts ++ us) = .ok x) := by
  cases parse_error_shows hts he hi ht with
  -- an empty source and a malformed path are reported with other faults
  | empty hk => simp [ParseError.ofToken]
  | path hk => simp [ParseError.ofToken]
  | @refused s fault hk hrun hstep hrefuses =>
    have hnext : ts.take (i + 1) = ts.take i ++ [t] := by
      rw [List.take_add_one, hi]
      rfl
    rw [hnext]
    refine ⟨fun _ => ⟨ParserState.viable_of_run hrun,
      ParserState.not_viable_of_step hrun hstep hk⟩, ?_⟩
    -- a token that is refused is neither the end nor an unmatched opening parenthesis
    cases hrefuses with
    | unmatched hr _ => simp [ParseError.ofToken, hr]
    | unexpected _ => simp [ParseError.ofToken, hk]
    | trailing _ => simp [ParseError.ofToken]
  -- the last two are reported at the end of the input, where all tokens were read
  | operand hk hrun =>
    refine ⟨?_, fun _ => (ParserState.viable_of_run hrun).exists_ne_nil he⟩
    simp [ParseError.operandExpected, ParseError.ofToken, hk]
  | parenthesis hk hrun _ _ =>
    refine ⟨?_, fun _ => (ParserState.viable_of_run hrun).exists_ne_nil he⟩
    simp [ParseError.ofToken, hk]

/-- A second comparison is refused right at its operator, and a call that stays open is reported only
because the input ends. -/
theorem parse_error_earliest_of_chained_comparison :
    let chained : List Token :=
      [⟨.lparen, "(", 0⟩, ⟨.identifier, "A", 1⟩, ⟨.comparison .lt, "<", 3⟩, ⟨.identifier, "B", 5⟩,
        ⟨.comparison .lt, "<", 7⟩, ⟨.identifier, "C", 9⟩, ⟨.rparen, ")", 10⟩, ⟨.eof, "", 11⟩]
    let open' : List Token :=
      [⟨.identifier, "A.B", 0⟩, ⟨.lparen, "(", 3⟩, ⟨.identifier, "C", 4⟩, ⟨.eof, "", 5⟩]
    tokenize "(A < B < C)" = .ok chained ∧
      parse chained = .error ⟨.unexpectedToken "')'", "<", 7⟩ ∧
      Viable (chained.take 4) ∧ ¬ Viable (chained.take 5) ∧
      tokenize "A.B(C" = .ok open' ∧ parse open' = .error ⟨.unmatchedParenthesis, "(", 3⟩ ∧
      ∃ us x, us ≠ [] ∧ parse (beforeEnd open' ++ us) = .ok x := by
  intro chained open'
  have htokens : tokenize "(A < B < C)" = .ok chained := by decide +kernel
  have herror : parse chained = .error ⟨.unexpectedToken "')'", "<", 7⟩ := rfl
  have htokens' : tokenize "A.B(C" = .ok open' := by decide +kernel
  have herror' : parse open' = .error ⟨.unmatchedParenthesis, "(", 3⟩ := rfl
  have hget : chained[4]? = some ⟨.comparison .lt, "<", 7⟩ := rfl
  have hget' : open'[1]? = some ⟨.lparen, "(", 3⟩ := rfl
  obtain ⟨hviable, hnot⟩ := (parse_error_earliest htokens herror hget ⟨rfl, rfl⟩).1
    (.inl ⟨.inl ⟨_, rfl⟩, TokenKind.noConfusion⟩)
  exact ⟨htokens, herror, hviable, hnot, htokens', herror',
    (parse_error_earliest htokens' herror' hget' ⟨rfl, rfl⟩).2 (.inr ⟨rfl, rfl⟩)⟩

end RecordFilter
