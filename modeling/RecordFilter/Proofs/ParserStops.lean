import RecordFilter.Proofs.ParserErrors
import RecordFilter.Proofs.Tokenization
/-!
# Where the parser stops

The parser reads tokens one after the other and stops at the first that its state refuses, or at the
end of input (`parse_error_stops`).  `ParserState.Refuses` says what is wrong with a refused token.  The
tokens of a source have different offsets, so that an error shows only one of them; `Shows` says which
one that is, and what was read before it (`parse_error_shows`).
-/

namespace RecordFilter

/-! ### Tokens that are refused -/

namespace ParserState

variable {s : ParserState} {t : Token} {ts us : List Token} {e : ParseError} {x : Expr}

/-- The state does not go on with the token, and the fault says why. -/
inductive Refuses (s : ParserState) (t : Token) : ParseFault → Prop where
  /-- No parenthesis is open that the token could close. -/
  | unmatched (ht : t.kind = .rparen) (hs : s.enclosing = []) : Refuses s t .unmatchedParenthesis
  /-- Something else was expected, inside of a parenthesis if the token would close one. -/
  | unexpected {expected : String} (hs : t.kind = .rparen → s.enclosing ≠ []) :
      Refuses s t (.unexpectedToken expected)
  /-- The expression is complete, and the token closes nothing. -/
  | trailing (ht : t.kind ≠ .rparen) : Refuses s t .trailingTokens

/-- The error of a step: the token is refused, or a path is at fault, which is the token or the one
before it. -/
inductive StepError (s : ParserState) (t : Token) : ParseError → Prop where
  | refused {fault : ParseFault} (h : s.Refuses t fault) : StepError s t (.ofToken t fault)
  | path (ht : t.kind = .identifier) : StepError s t (.ofToken t .invalidMemberPath)
  | callHead {u : Token} {names : List String} (hs : s.operand = .path u names) :
      StepError s t (.ofToken u .invalidMemberPath)

/-- `StepError` of a token that closes nothing, where something else was expected. -/
theorem StepError.unexpected {expected : String} (ht : t.kind ≠ .rparen) :
    s.StepError t (.ofToken t (.unexpectedToken expected)) :=
  .refused (.unexpected fun hr => absurd hr ht)

/-- `readOperand` refuses a token that starts no operand, or blames it for the path that it is. -/
private theorem readOperand_error (h : s.readOperand t = .error e) : s.StepError t e := by
  unfold readOperand at h
  split at h
  · rename_i hk
    split at h
    · simp at h
    · cases h
      exact .unexpected (hk ▸ TokenKind.noConfusion)
  · simp at h
  · rename_i hk
    split at h
    · simp at h
    · cases h
      exact .path hk
  · rename_i hk
    split at h
    · simp at h
    · cases h
      exact .unexpected (hk ▸ TokenKind.noConfusion)
  · simp at h
  · simp at h
  · simp at h
  · -- `)` that does not end a call without arguments
    rename_i hk
    split at h
    · simp at h
    · split at h
      · rename_i hs
        cases h
        exact .refused (.unmatched hk (List.isEmpty_iff.mp hs))
      · rename_i hs
        cases h
        exact .refused (.unexpected fun _ hnil => hs (List.isEmpty_iff.mpr hnil))
  -- the tokens that are left start no operand
  all_goals
    rename_i hk
    cases h
    exact .unexpected (hk ▸ TokenKind.noConfusion)

/-- `refuse` blames the token, which is trailing if nothing is open. -/
private theorem refuse_error (ht : t.kind ≠ .rparen) (h : s.refuse t = .error e) : s.StepError t e := by
  unfold refuse at h
  split at h
  · cases h
    exact .refused (.trailing ht)
  · cases h
    exact .unexpected ht

/-- `readOperator` refuses a token that cannot stand behind an operand. -/
private theorem readOperator_error (h : s.readOperator x t = .error e) : s.StepError t e := by
  unfold readOperator at h
  dsimp only at h
  split at h
  -- a comparison operator where one is there already
  · rename_i hk
    split at h
    · simp at h
    · exact refuse_error (hk ▸ TokenKind.noConfusion) h
  · simp at h
  · simp at h
  · rename_i hk
    split at h
    · rename_i hs
      cases h
      exact .refused (.unmatched hk hs)
    · simp at h
    · simp at h
  · rename_i hk
    split at h
    · simp at h
    · exact refuse_error (hk ▸ TokenKind.noConfusion) h
  · rename_i hk _
    exact refuse_error hk h

/-- `step` fails as `StepError` says. -/
private theorem step_error (h : s.step t = .error e) : s.StepError t e := by
  unfold step at h
  split at h
  · exact readOperand_error h
  · -- after a path, a parenthesis opens a call if the path has a target
    rename_i u names ho
    split at h
    · split at h
      · simp at h
      · cases h
        exact .callHead ho
    · exact readOperator_error h
  · exact readOperator_error h

/-- `run` fails at the first token with which a step fails. -/
theorem run_eq_error_iff :
    s.run ts = .error e ↔
      ∃ us t vs s', ts = us ++ t :: vs ∧ s.run us = .ok s' ∧ s'.step t = .error e := by
  constructor
  · intro h
    -- along the tokens: the first step fails, or the run from the next state does
    induction ts generalizing s with
    | nil => simp at h
    | cons t ts ih =>
      rw [run_cons, Except.bind_eq_error_iff] at h
      rcases h with hstep | ⟨s₁, hstep, hrun⟩
      · exact ⟨[], t, ts, s, rfl, rfl, hstep⟩
      · obtain ⟨us, u, vs, s', rfl, hus, hu⟩ := ih hrun
        exact ⟨t :: us, u, vs, s', rfl, by rw [run_cons_of_eq hstep, hus], hu⟩
  · rintro ⟨us, t, vs, s', rfl, hus, hstep⟩
    -- the tokens before it lead to the state that refuses it
    rw [run_append_of_eq hus, run_cons, hstep]
    rfl

end ParserState

/-! ### The end of parsing -/

/-- The ways in which parsing ends with an error. -/
inductive StopsWith (ts : List Token) : ParseError → Prop where
  /-- There is nothing to read. -/
  | empty : StopsWith ts (.ofToken (inputEnd ts) .emptyInput)
  /-- The tokens before one have been read, and the step with that one fails. -/
  | token {us : List Token} {t : Token} {vs : List Token} {s : ParserState} {e : ParseError}
      (hts : beforeEnd ts = us ++ t :: vs) (hrun : ParserState.run {} us = .ok s)
      (hstep : s.step t = .error e) : StopsWith ts e
  /-- All tokens have been read, and an operand is missing. -/
  | operand {s : ParserState} (hrun : ParserState.run {} (beforeEnd ts) = .ok s) :
      StopsWith ts (.operandExpected (inputEnd ts))
  /-- All tokens have been read, and a parenthesis is still open. -/
  | parenthesis {s : ParserState} {opening : Opening} {outer : Pending}
      {more : List (Opening × Pending)} (hrun : ParserState.run {} (beforeEnd ts) = .ok s)
      (hs : s.enclosing = (opening, outer) :: more) :
      StopsWith ts (.ofToken opening.paren .unmatchedParenthesis)

/-- `parse` fails as `StopsWith` says. -/
theorem parse_error_stops {ts : List Token} {e : ParseError} (h : parse ts = .error e) :
    StopsWith ts e := by
  unfold parse at h
  split at h
  · cases h
    exact .empty
  · rename_i t us hcons
    rw [← hcons] at h
    rcases Except.bind_eq_error_iff.mp h with hrun | ⟨s, hrun, hfin⟩
    · obtain ⟨us, u, vs, s, hts, hus, hstep⟩ := ParserState.run_eq_error_iff.mp hrun
      exact .token hts hus hstep
    · -- without an operand the end is refused, else the innermost open parenthesis is
      unfold ParserState.finish at hfin
      dsimp only at hfin
      split at hfin
      · cases hfin
        exact .operand hrun
      all_goals
        split at hfin
        · simp at hfin
        · rename_i hs
          cases hfin
          exact .parenthesis hrun hs

/-! ### Tokens that an error may show -/

/-- `ParserState.Reads` has the token of a path that the state holds. -/
private theorem ParserState.Reads.path_mem {s : ParserState} {ts : List Token} {u : Token}
    {names : List String} (h : s.Reads ts) (hs : s.operand = .path u names) :
    u ∈ ts ∧ u.kind = .identifier := by
  obtain ⟨as, bs, cs, rfl, -, -, hc⟩ := h
  rw [hs] at hc
  cases hc with
  | path hpath => exact ⟨by simp, hpath.kind⟩

/-- `Opening.Reads` starts at an opening parenthesis. -/
theorem Opening.Reads.paren_kind {o : Opening} {ts : List Token} (h : o.Reads ts) :
    o.paren.kind = .lparen := by
  cases h with
  | group ht => exact ht
  | call ht ho => exact ho
  | args ht ho ha hc => exact ho

/-- `ParserState.Reads` has the innermost open parenthesis. -/
theorem ParserState.Reads.paren_mem {s : ParserState} {ts : List Token} {opening : Opening}
    {outer : Pending} {more : List (Opening × Pending)} (h : s.Reads ts)
    (hs : s.enclosing = (opening, outer) :: more) :
    opening.paren ∈ ts ∧ opening.paren.kind = .lparen := by
  obtain ⟨as, bs, cs, rfl, ha, -, -⟩ := h
  rw [hs] at ha
  cases ha with
  | cons _ _ hopening => exact ⟨by simp [hopening.paren_mem], hopening.paren_kind⟩

section

variable {source : String} {ts us vs : List Token} {t u : Token} {i : Nat} {e : ParseError}

/-- `beforeEnd` has no end of input. -/
theorem ne_eof_of_mem_beforeEnd (h : t ∈ beforeEnd ts) : t.kind ≠ .eof :=
  bne_iff_ne.mp (List.mem_takeWhile_imp (p := fun t : Token => t.kind != .eof) h)

/-- `tokenize` gives the tokens before the end of input, and the end. -/
theorem tokenize_split (h : tokenize source = .ok ts) :
    ts = beforeEnd ts ++ [inputEnd ts] ∧ (inputEnd ts).kind = .eof := by
  obtain ⟨us, hus, rfl⟩ := tokenize_eq_ok_iff.mp h
  rw [beforeEnd_concat hus.ne_eof rfl, inputEnd_concat hus.ne_eof rfl]
  exact ⟨rfl, rfl⟩

/-- `tokenize` gives tokens one after the other, and no two at the same offset. -/
private theorem tokenize_offset_lt (h : tokenize source = .ok ts) :
    ts.Pairwise fun t u => t.offset < u.offset := by
  obtain ⟨us, hus, rfl⟩ := tokenize_eq_ok_iff.mp h
  have hcovers := hus.covers
  rw [String.length_toList] at hcovers
  -- a token that is not empty stops after it starts
  have hstop : ∀ t ∈ us, t.offset < t.stop := by
    intro t ht
    have hne := (hcovers.isLongest t ht).text_ne
    rw [Token.stop, Nat.lt_add_right_iff_pos]
    exact Nat.pos_of_ne_zero (mt String.length_eq_zero_iff.mp hne)
  rw [List.pairwise_append]
  refine ⟨?_, List.pairwise_singleton _ _, ?_⟩
  · rw [List.pairwise_iff_forall_sublist]
    intro t u htu
    have hle := List.pairwise_iff_forall_sublist.mp hcovers.ordered htu
    exact Nat.lt_of_lt_of_le (hstop t (htu.subset List.mem_cons_self)) hle
  · intro t ht u hu
    rw [List.mem_singleton] at hu
    rw [hu]
    exact Nat.lt_of_lt_of_le (hstop t ht) (hcovers.within t ht)

/-- `Cites` holds of only one of the tokens of a source. -/
theorem ParseError.Cites.unique (h : tokenize source = .ok ts) (hi : ts[i]? = some t)
    (ht : e.Cites t) (hts : ts = us ++ u :: vs) (hu : e.Cites u) : i = us.length ∧ t = u := by
  have hoffset : t.offset = u.offset := ht.offset.symm.trans hu.offset
  obtain ⟨hlt, hget⟩ := List.getElem?_eq_some_iff.mp hi
  have hlt' : us.length < ts.length := by simp [hts]
  have hget' : ts[us.length] = u := by simp [hts]
  have hordered := List.pairwise_iff_getElem.mp (tokenize_offset_lt h)
  -- tokens of one offset cannot stand before one another
  have hindex : i = us.length := by
    rcases Nat.lt_trichotomy i us.length with hi | hi | hi
    · have hbefore := hordered i us.length hlt hlt' hi
      rw [hget, hget'] at hbefore
      omega
    · exact hi
    · have hafter := hordered us.length i hlt' hlt hi
      rw [hget, hget'] at hafter
      omega
  subst hindex
  exact ⟨rfl, hget.symm.trans hget'⟩

/-- `Cites` holds of no two different tokens of a source. -/
private theorem ParseError.Cites.eq_of_mem (h : tokenize source = .ok ts) (hi : ts[i]? = some t)
    (ht : e.Cites t) (hmem : u ∈ ts) (hu : e.Cites u) : t = u := by
  obtain ⟨us, vs, hts⟩ := List.append_of_mem hmem
  exact (unique h hi ht hts hu).2

/-- The error shows the token of the source that has `i` tokens before it. -/
inductive Shows (ts : List Token) (i : Nat) (t : Token) : ParseError → Prop where
  /-- The source has no tokens but the end. -/
  | empty (ht : t.kind = .eof) : Shows ts i t (.ofToken t .emptyInput)
  /-- The token is a wrong path. -/
  | path (ht : t.kind = .identifier) : Shows ts i t (.ofToken t .invalidMemberPath)
  /-- The token is refused after those before it have been read. -/
  | refused {s : ParserState} {fault : ParseFault} (ht : t.kind ≠ .eof)
      (hrun : ParserState.run {} (ts.take i) = .ok s) (hstep : s.step t = .error (.ofToken t fault))
      (h : s.Refuses t fault) : Shows ts i t (.ofToken t fault)
  /-- The token is the end, where an operand is missing. -/
  | operand {s : ParserState} (ht : t.kind = .eof)
      (hrun : ParserState.run {} (beforeEnd ts) = .ok s) : Shows ts i t (.operandExpected t)
  /-- The token is the innermost parenthesis that is open at the end. -/
  | parenthesis {s : ParserState} {opening : Opening} {outer : Pending}
      {more : List (Opening × Pending)} (ht : t.kind = .lparen)
      (hrun : ParserState.run {} (beforeEnd ts) = .ok s)
      (hs : s.enclosing = (opening, outer) :: more) (hparen : opening.paren = t) :
      Shows ts i t (.ofToken t .unmatchedParenthesis)

/-- `Shows` the token of a source that the error of the parser is about, and what has been read when it
is found. -/
theorem parse_error_shows (hts : tokenize source = .ok ts) (he : parse ts = .error e)
    (hi : ts[i]? = some t) (ht : e.Cites t) : Shows ts i t e := by
  obtain ⟨hsplit, hend⟩ := tokenize_split hts
  have hlast : inputEnd ts ∈ beforeEnd ts ++ [inputEnd ts] := by simp
  rw [← hsplit] at hlast
  have hbefore {u : Token} (hu : u ∈ beforeEnd ts) : u ∈ ts := List.takeWhile_subset _ hu
  cases parse_error_stops he with
  | empty =>
    obtain rfl := ht.eq_of_mem hts hi hlast (ParseError.ofToken_cites _ _)
    exact .empty hend
  | @token us u vs s _ hsteps hrun hstep =>
    have hu : u ∈ beforeEnd ts := by simp [hsteps]
    have hreads := ParserState.run_reads ParserState.start_reads hrun
    cases ParserState.step_error hstep with
    | refused hrefuses =>
      have hsource : ts = us ++ u :: (vs ++ [inputEnd ts]) := by
        rw [← List.cons_append, ← List.append_assoc, ← hsteps]
        exact hsplit
      obtain ⟨rfl, rfl⟩ := ht.unique hts hi hsource (ParseError.ofToken_cites _ _)
      -- the tokens that were read are the first ones of the source
      have htake : ts.take us.length = us := by rw [hsource, List.take_left]
      exact .refused (ne_eof_of_mem_beforeEnd hu) (htake.symm ▸ hrun) hstep hrefuses
    | path hk =>
      obtain rfl := ht.eq_of_mem hts hi (hbefore hu) (ParseError.ofToken_cites _ _)
      exact .path hk
    | callHead hs =>
      -- the path was read right before the parenthesis
      obtain ⟨hmem, hk⟩ := hreads.path_mem hs
      have hmem : _ ∈ beforeEnd ts := hsteps ▸ List.mem_append_left _ hmem
      obtain rfl := ht.eq_of_mem hts hi (hbefore hmem) (ParseError.ofToken_cites _ _)
      exact .path hk
  | operand hrun =>
    obtain rfl := ht.eq_of_mem hts hi hlast (ParseError.ofToken_cites _ _)
    exact .operand hend hrun
  | parenthesis hrun hs =>
    obtain ⟨hmem, hk⟩ := (ParserState.run_reads ParserState.start_reads hrun).paren_mem hs
    obtain rfl := ht.eq_of_mem hts hi (hbefore hmem) (ParseError.ofToken_cites _ _)
    exact .parenthesis hk hrun hs rfl

end

end RecordFilter
