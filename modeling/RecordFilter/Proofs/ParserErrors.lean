import RecordFilter.Proofs.ParserCorrect
/-!
# Parse errors cite tokens

An error of the parser shows the text and the offset of one token.  It is the token that was just
read, the path before it, or an open parenthesis, so it is one of the tokens given or the end of
input after them (`parse_cites`).
-/

namespace RecordFilter

/-- The error shows the token. -/
structure ParseError.Cites (e : ParseError) (t : Token) : Prop where
  token : e.token = t.text
  offset : e.offset = t.offset

theorem ParseError.ofToken_cites (t : Token) (fault : ParseFault) :
    (ParseError.ofToken t fault).Cites t :=
  ⟨rfl, rfl⟩

/-- `Opening.Reads` has the open parenthesis among its tokens. -/
theorem Opening.Reads.paren_mem {o : Opening} {ts : List Token} (h : o.Reads ts) :
    o.paren ∈ ts := by
  cases h with
  | group ht => exact List.mem_singleton_self _
  | call ht ho => exact List.mem_cons_of_mem _ (List.mem_singleton_self _)
  | args ht ho ha hc => exact List.mem_cons_of_mem _ List.mem_cons_self

namespace ParserState

variable {s : ParserState} {t : Token} {ts us : List Token} {e : ParseError} {x : Expr}

/-- `readOperand` shows the token that it refuses. -/
private theorem readOperand_cites (h : s.readOperand t = .error e) : e.Cites t := by
  unfold readOperand at h
  -- whatever the token is, it is accepted or the error is made from it
  split at h
  · split at h
    · simp at h
    · cases h
      exact ParseError.ofToken_cites t _
  · simp at h
  · split at h
    · simp at h
    · cases h
      exact ParseError.ofToken_cites t _
  · split at h
    · simp at h
    · cases h
      exact ParseError.ofToken_cites t _
  · simp at h
  · simp at h
  · simp at h
  · split at h
    · simp at h
    · split at h <;>
      · cases h
        exact ParseError.ofToken_cites t _
  all_goals
    cases h
    exact ParseError.ofToken_cites t _

private theorem refuse_cites (h : s.refuse t = .error e) : e.Cites t := by
  unfold refuse at h
  split at h <;>
  · cases h
    exact ParseError.ofToken_cites t _

/-- `readOperator` shows the token that it refuses. -/
private theorem readOperator_cites (h : s.readOperator x t = .error e) : e.Cites t := by
  unfold readOperator at h
  dsimp only at h
  -- connectives always succeed; the other errors are made from the token
  split at h
  · split at h
    · simp at h
    · exact refuse_cites h
  · simp at h
  · simp at h
  · split at h
    · cases h
      exact ParseError.ofToken_cites t _
    · simp at h
    · simp at h
  · split at h
    · simp at h
    · exact refuse_cites h
  · exact refuse_cites h

/-- `step` shows a token that was read. -/
private theorem step_cites (hs : s.Reads ts) (h : s.step t = .error e) :
    ∃ u ∈ ts ++ [t], e.Cites u := by
  have hlast : t ∈ ts ++ [t] := List.mem_append_right _ (List.mem_singleton_self t)
  unfold step at h
  split at h
  · exact ⟨t, hlast, readOperand_cites h⟩
  · rename_i token names ho
    split at h
    · split at h
      · simp at h
      · cases h
        -- the path before the parenthesis is the last token that was read
        obtain ⟨as, bs, cs, rfl, -, -, hc⟩ := hs
        rw [ho] at hc
        cases hc
        exact ⟨token, by simp, ParseError.ofToken_cites token _⟩
    · exact ⟨t, hlast, readOperator_cites h⟩
  · exact ⟨t, hlast, readOperator_cites h⟩

/-- `run` shows a token that was read. -/
private theorem run_cites (hs : s.Reads ts) (h : s.run us = .error e) : ∃ u ∈ ts ++ us, e.Cites u := by
  induction us generalizing s ts with
  | nil => simp at h
  | cons t us ih =>
    rw [run_cons, Except.bind_eq_error_iff] at h
    rcases h with hstep | ⟨s', hstep, hrun⟩
    · obtain ⟨u, hu, hcites⟩ := step_cites hs hstep
      rw [List.append_cons]
      exact ⟨u, List.mem_append_left _ hu, hcites⟩
    · rw [List.append_cons]
      exact ih (step_reads hs hstep) hrun

/-- `finish` shows the end or a token that was read. -/
private theorem finish_cites (hs : s.Reads ts) (h : s.finish t = .error e) :
    ∃ u ∈ ts ++ [t], e.Cites u := by
  -- an open parenthesis is among the tokens that the state was read from
  have hparen {opening : Opening} {outer : Pending} {more : List (Opening × Pending)}
      (henc : s.enclosing = (opening, outer) :: more) : opening.paren ∈ ts ++ [t] := by
    obtain ⟨as, bs, cs, rfl, ha, -, -⟩ := hs
    rw [henc] at ha
    cases ha with
    | cons _ _ hopening => simp [hopening.paren_mem]
  unfold finish at h
  dsimp only at h
  split at h
  · cases h
    exact ⟨t, List.mem_append_right _ (List.mem_singleton_self t), ParseError.ofToken_cites t _⟩
  all_goals
    split at h
    · simp at h
    · rename_i henc
      cases h
      exact ⟨_, hparen henc, ParseError.ofToken_cites _ _⟩

end ParserState

/-- `parse` shows one of the tokens before the end of input, or the end. -/
theorem parse_cites {ts : List Token} {e : ParseError} (h : parse ts = .error e) :
    ∃ t ∈ beforeEnd ts ++ [inputEnd ts], e.Cites t := by
  unfold parse at h
  split at h
  · cases h
    exact ⟨inputEnd ts, by simp, ParseError.ofToken_cites _ _⟩
  · rename_i t us hbefore
    rw [hbefore]
    rcases Except.bind_eq_error_iff.mp h with hrun | ⟨s, hrun, hfin⟩
    · obtain ⟨u, hu, hcites⟩ := ParserState.run_cites ParserState.start_reads hrun
      exact ⟨u, List.mem_append_left _ hu, hcites⟩
    · exact ParserState.finish_cites (ParserState.run_reads ParserState.start_reads hrun) hfin

end RecordFilter
