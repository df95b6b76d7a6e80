import RecordFilter.Proofs.ElaborationSteps
import RecordFilter.Proofs.Lexing
import RecordFilter.Proofs.ParserCorrect
/-!
# What compiles

Without limits, a source compiles exactly if its characters are read as tokens, these derive an
expression, and the expression is a filter (`compile_eq_ok_iff`).  This puts the stages together, so
that no later proof goes through them one by one.
-/

namespace RecordFilter

open Grammar

/-! ### Tokens of a source -/

/-- `beforeEnd` of tokens with an end behind them has these tokens. -/
theorem beforeEnd_concat {ts : List Token} (h : ∀ t ∈ ts, t.kind ≠ .eof) {last : Token}
    (hl : last.kind = .eof) : beforeEnd (ts ++ [last]) = ts := by
  -- no token before the last is an end
  have hall : ∀ t ∈ ts, (t.kind != .eof) = true := fun t ht => bne_iff_ne.mpr (h t ht)
  rw [beforeEnd, List.takeWhile_append_of_pos hall]
  simp [hl]

/-- `inputEnd` of tokens with an end behind them is that end. -/
theorem inputEnd_concat {ts : List Token} (h : ∀ t ∈ ts, t.kind ≠ .eof) {last : Token}
    (hl : last.kind = .eof) : inputEnd (ts ++ [last]) = last := by
  have hnone : ts.find? (fun t => t.kind == .eof) = none := by simpa using h
  simp [inputEnd, List.find?_append, hnone, hl]

/-- `tokenize` succeeds if `Lexes` reads the source with nothing after it; the end of input stands after
the tokens. -/
theorem tokenize_eq_ok_iff {source : String} {us : List Token} :
    tokenize source = .ok us ↔
      ∃ ts, Lexes [] 0 source.toList ts ∧ us = ts ++ [⟨.eof, "", source.length⟩] := by
  rw [tokenize, tokensFrom_eq_ok_iff, String.length_toList, Nat.zero_add]

/-! ### Filters -/

section

variable {schema : Schema} {root : RecordId} {source : String} {p : Predicate}

/-- `compile`, which has no limits, cuts a source into tokens and compiles these. -/
theorem compile_eq (schema : Schema) (root : RecordId) (source : String) :
    compile schema root source =
      ((tokenize source).mapError .tokenize >>= Predicate.ofTokens schema root) := by
  unfold compile Limits.compile
  cases tokenize source <;> rfl

/-- `ofTokens` parses the tokens and plans the expression as a filter. -/
private theorem ofTokens_eq_ok_iff {ts : List Token} :
    Predicate.ofTokens schema root ts = .ok p ↔
      ∃ e, OrExpr (beforeEnd ts) e ∧ planFilter schema root e = .ok p.plan := by
  unfold Predicate.ofTokens
  simp only [Except.bind_eq_ok_iff, Except.mapError_eq_ok_iff, Predicate.ofExpr_eq_ok_iff]
  -- the parser accepts exactly what derives an expression
  constructor
  · rintro ⟨e, he, hplan⟩
    exact ⟨e, parse_sound he, hplan⟩
  · rintro ⟨e, he, hplan⟩
    exact ⟨e, parse_complete he, hplan⟩

/-- `compile` succeeds if the tokens of the source derive an expression that is a filter. -/
theorem compile_eq_ok_iff :
    compile schema root source = .ok p ↔
      ∃ ts e, Lexes [] 0 source.toList ts ∧ OrExpr ts e ∧
        planFilter schema root e = .ok p.plan := by
  rw [compile_eq, Except.bind_eq_ok_iff]
  simp only [Except.mapError_eq_ok_iff, tokenize_eq_ok_iff, ofTokens_eq_ok_iff]
  constructor
  · rintro ⟨_, ⟨ts, hts, rfl⟩, e, he, hplan⟩
    -- the tokens before the end are those that were read
    rw [beforeEnd_concat hts.ne_eof rfl] at he
    exact ⟨ts, e, hts, he, hplan⟩
  · rintro ⟨ts, e, hts, he, hplan⟩
    refine ⟨_, ⟨ts, hts, rfl⟩, e, ?_, hplan⟩
    rwa [beforeEnd_concat hts.ne_eof rfl]

end

end RecordFilter
