import RecordFilter.Proofs.Compilation
import RecordFilter.Proofs.NestingCounter
import RecordFilter.Sample
/-!
# Limits only reject

Within limits, a source either exceeds one of them or has the outcome that it has without limits
(`compile_limits`).  The limits admit a source if it is short enough and, in case it has tokens, these
are not nested too deep (`Limits.Admits`); exactly then no limit is exceeded
(`exceedsLimit_iff_not_admits`).  What limits admit, looser limits admit too.
-/

namespace RecordFilter

/-- The source is refused since it exceeds the limit. -/
def ExceedsLimit (limit : Limit) (outcome : Except CompileError Predicate) : Prop :=
  ∃ actual max offset, outcome = .error (.limitExceeded limit actual max offset)

namespace Limits

/-- Whatever `l'` limits, `l` limits to at most as much. -/
structure AtMost (l l' : Limits) : Prop where
  length : ∀ max', l'.maxLength = some max' → ∃ max, l.maxLength = some max ∧ max ≤ max'
  nesting : ∀ max', l'.maxNesting = some max' → ∃ max, l.maxNesting = some max ∧ max ≤ max'

/-- The source is short enough, and its tokens, if it has some, are not nested too deep. -/
structure Admits (l : Limits) (source : String) : Prop where
  length : ∀ max, l.maxLength = some max → source.length ≤ max
  nesting : ∀ ts, tokenize source = .ok ts →
    ∀ max, l.maxNesting = some max → ({} : Nesting).peak ts ≤ max

variable {l l' : Limits} {schema : Schema} {root : RecordId} {source : String} {e : CompileError}
  {limit : Limit} {actual max offset : Nat}

/-- `Admits` is kept by looser limits. -/
theorem Admits.mono (h : l.Admits source) (hl : l.AtMost l') : l'.Admits source where
  length max' hmax' := by
    obtain ⟨max, hmax, hle⟩ := hl.length max' hmax'
    have hlength := h.length max hmax
    omega
  nesting ts hts max' hmax' := by
    obtain ⟨max, hmax, hle⟩ := hl.nesting max' hmax'
    have hnesting := h.nesting ts hts max hmax
    omega

/-! ### The length -/

/-- `checkLength` passes sources that are not too long. -/
private theorem checkLength_eq_ok_iff :
    l.checkLength source = .ok () ↔ ∀ max, l.maxLength = some max → source.length ≤ max := by
  unfold checkLength
  -- without a limit every source passes
  split
  · rename_i max hmax
    split
    · rename_i hlt
      simp [hmax, hlt]
    · rename_i hle
      simpa [hmax] using hle
  · rename_i hnone
    simp [hnone]

/-- `checkLength` blames longer sources at the first character too many. -/
private theorem checkLength_eq_error_iff :
    l.checkLength source = .error e ↔ ∃ max, l.maxLength = some max ∧ max < source.length ∧
      e = .limitExceeded .expressionLength source.length max max := by
  unfold checkLength
  split
  · rename_i max hmax
    split
    · rename_i hlt
      simp [hmax, hlt, eq_comm]
    · rename_i hle
      simp [hmax, hle]
  · rename_i hnone
    simp [hnone]

/-! ### Stages -/

/-- `Limits.compile` of a source that the limits admit goes through the same stages as without limits.
-/
private theorem compile_of_admits (h : l.Admits source) :
    l.compile schema root source = RecordFilter.compile schema root source := by
  rw [compile_eq, Limits.compile, checkLength_eq_ok_iff.mpr h.length, Except.ok_bind]
  -- a source without tokens fails before its nesting is looked at
  cases hts : tokenize source with
  | error e => rfl
  | ok ts =>
    rw [Except.mapError_ok, Except.ok_bind, Except.ok_bind,
      checkNesting_eq_ok_iff.mpr (h.nesting ts hts), Except.ok_bind]

/-- `Predicate.ofTokens`, which comes after the limits, has errors of its own. -/
private theorem ofTokens_ne_limitExceeded (ts : List Token) :
    Predicate.ofTokens schema root ts ≠ .error (.limitExceeded limit actual max offset) := by
  intro h
  -- such an error is one of the parser or of elaboration
  rcases Except.bind_eq_error_iff.mp h with h | ⟨x, -, h⟩
  · obtain ⟨e, -, he⟩ := Except.mapError_eq_error_iff.mp h
    exact nomatch he
  · obtain ⟨e, -, he⟩ := Except.mapError_eq_error_iff.mp (Except.map_eq_error_iff.mp h)
    exact nomatch he

/-- `Limits.compile` finds a limit exceeded by the length of the source, or by the nesting of its
tokens. -/
private theorem compile_eq_limitExceeded_iff :
    l.compile schema root source = .error (.limitExceeded limit actual max offset) ↔
      l.checkLength source = .error (.limitExceeded limit actual max offset) ∨
      l.checkLength source = .ok () ∧ ∃ ts, tokenize source = .ok ts ∧
        l.checkNesting ts = .error (.limitExceeded limit actual max offset) := by
  -- of the stages, only the two checks can say that a limit is exceeded
  unfold Limits.compile
  simp only [Except.bind_eq_error_iff, Except.mapError_eq_error_iff, Except.mapError_eq_ok_iff,
    ofTokens_ne_limitExceeded, reduceCtorEq, and_false, exists_false, false_or, or_false]
  constructor
  · rintro (h | ⟨_, hlength, h⟩)
    · exact .inl h
    · exact .inr ⟨hlength, h⟩
  · rintro (h | ⟨hlength, h⟩)
    · exact .inl h
    · exact .inr ⟨(), hlength, h⟩

end Limits

section

open Limits

variable {l l' : Limits} {schema : Schema} {root : RecordId} {source : String}

/-- `ExceedsLimit` of the length holds of long sources, whether they have tokens or not. -/
private theorem exceedsLimit_expressionLength_iff :
    ExceedsLimit .expressionLength (l.compile schema root source) ↔
      ∃ max, l.maxLength = some max ∧ max < source.length := by
  constructor
  · rintro ⟨actual, max, offset, h⟩
    rcases compile_eq_limitExceeded_iff.mp h with h | ⟨-, ts, -, h⟩
    · obtain ⟨max, hmax, hlt, -⟩ := checkLength_eq_error_iff.mp h
      exact ⟨max, hmax, hlt⟩
    -- an error about the nesting is not about the length
    · obtain ⟨_, _, _, _, _, he⟩ := checkNesting_eq_error h
      exact nomatch he
  · rintro ⟨max, hmax, hlt⟩
    have herror := checkLength_eq_error_iff.mpr ⟨max, hmax, hlt, rfl⟩
    exact ⟨_, _, _, compile_eq_limitExceeded_iff.mpr (.inl herror)⟩

/-- `Limits.compile` finds tokens that are nested too deep one level too deep. -/
private theorem compile_eq_nestingDepth {actual max offset : Nat}
    (h : l.compile schema root source = .error (.limitExceeded .nestingDepth actual max offset)) :
    (∃ ts, tokenize source = .ok ts) ∧ l.maxNesting = some max ∧ actual = max + 1 := by
  rcases compile_eq_limitExceeded_iff.mp h with h | ⟨-, ts, hts, h⟩
  · -- the length has a limit of its own
    obtain ⟨_, _, _, he⟩ := checkLength_eq_error_iff.mp h
    exact nomatch he
  · obtain ⟨_, hmax, _, _, _, he⟩ := checkNesting_eq_error h
    cases he
    exact ⟨⟨ts, hts⟩, hmax, rfl⟩

/-- `ExceedsLimit` holds for some limit exactly if the limits do not admit the source. -/
theorem exceedsLimit_iff_not_admits :
    (∃ limit, ExceedsLimit limit (l.compile schema root source)) ↔ ¬ l.Admits source := by
  constructor
  · rintro ⟨limit, actual, max, offset, h⟩ hadmits
    rcases compile_eq_limitExceeded_iff.mp h with h | ⟨-, ts, hts, h⟩
    · rw [checkLength_eq_ok_iff.mpr hadmits.length] at h
      exact nomatch h
    · rw [checkNesting_eq_ok_iff.mpr (hadmits.nesting ts hts)] at h
      exact nomatch h
  · intro hnot
    cases hlength : l.checkLength source with
    | error e =>
      obtain ⟨max, hmax, hlt, -⟩ := checkLength_eq_error_iff.mp hlength
      exact ⟨_, exceedsLimit_expressionLength_iff.mpr ⟨max, hmax, hlt⟩⟩
    | ok =>
      -- the source is short enough, so it has tokens that do not pass
      by_contra hnone
      refine hnot ⟨checkLength_eq_ok_iff.mp hlength, fun ts hts => ?_⟩
      rw [← checkNesting_eq_ok_iff]
      cases hnesting : l.checkNesting ts with
      | ok => rfl
      | error e =>
        obtain ⟨max, -, t, -, -, rfl⟩ := checkNesting_eq_error hnesting
        refine absurd ⟨.nestingDepth, max + 1, max, t.offset, ?_⟩ hnone
        exact compile_eq_limitExceeded_iff.mpr (.inr ⟨hlength, ts, hts, hnesting⟩)

/-- Limits only reject: a source exceeds one of them or has the outcome that it has without limits.
The length is exceeded exactly by sources with more characters; the nesting is exceeded only by
sources that have tokens, and by one level.  A source that exceeds no limit exceeds no looser limit
and has the same outcome there. -/
theorem compile_limits (l : Limits) (schema : Schema) (root : RecordId) (source : String) :
    ((∃ limit, ExceedsLimit limit (l.compile schema root source)) ∨
      l.compile schema root source = compile schema root source) ∧
    (ExceedsLimit .expressionLength (l.compile schema root source) ↔
      ∃ max, l.maxLength = some max ∧ max < source.length) ∧
    (∀ actual max offset,
      l.compile schema root source = .error (.limitExceeded .nestingDepth actual max offset) →
        (∃ ts, tokenize source = .ok ts) ∧ l.maxNesting = some max ∧ actual = max + 1) ∧
    ∀ l', l.AtMost l' → (¬ ∃ limit, ExceedsLimit limit (l.compile schema root source)) →
      (¬ ∃ limit, ExceedsLimit limit (l'.compile schema root source)) ∧
        l'.compile schema root source = l.compile schema root source := by
  refine ⟨?_, exceedsLimit_expressionLength_iff, fun _ _ _ => compile_eq_nestingDepth, ?_⟩
  · rw [exceedsLimit_iff_not_admits, or_iff_not_imp_left, not_not]
    exact compile_of_admits
  · -- what is admitted has the outcome without limits, under the one and the other
    intro l' hl hnot
    rw [exceedsLimit_iff_not_admits, not_not] at hnot ⊢
    have hadmits := hnot.mono hl
    exact ⟨hadmits, (compile_of_admits hadmits).trans (compile_of_admits hnot).symm⟩

/-- Two prefixes are one too many for a limit of one; a single prefix passes, so it compiles under
every looser limit, here without one on the nesting. -/
theorem compile_limits_of_prefixes :
    (⟨some 8, some 1⟩ : Limits).compile Sample.schema Sample.personId "!!Active" =
      .error (.limitExceeded .nestingDepth 2 1 1) ∧
    (∃ ts, tokenize "!!Active" = .ok ts) ∧
    (⟨some 8, some 1⟩ : Limits).AtMost ⟨some 9, none⟩ ∧
    (⟨some 9, none⟩ : Limits).compile Sample.schema Sample.personId "!Active" =
      .ok ⟨.not (.member .root "Active")⟩ := by
  -- the tokens of both sources
  have hname (o : Nat) : Lexes [] o "Active".toList [⟨.identifier, "Active", o⟩] := .single rfl rfl
  have hmark (o : Nat) : Lexes ("Active".toList ++ []) o ['!'] [⟨.not, "!", o⟩] := .single rfl rfl
  have hmark' : Lexes ("!Active".toList ++ []) 0 ['!'] [⟨.not, "!", 0⟩] := .single rfl rfl
  have hone (o : Nat) : Lexes [] o "!Active".toList
      [⟨.not, "!", o⟩, ⟨.identifier, "Active", o + 1⟩] := (hmark o).append (hname _)
  have htwo : Lexes [] 0 "!!Active".toList
      [⟨.not, "!", 0⟩, ⟨.not, "!", 1⟩, ⟨.identifier, "Active", 2⟩] := hmark'.append (hone 1)
  have hdeep : (⟨some 8, some 1⟩ : Limits).compile Sample.schema Sample.personId "!!Active" =
      .error (.limitExceeded .nestingDepth 2 1 1) := by
    rw [Limits.compile, tokenize_eq_ok_iff.mpr ⟨_, htwo, rfl⟩]
    rfl
  have hpass : (⟨some 8, some 1⟩ : Limits).compile Sample.schema Sample.personId "!Active" =
      .ok ⟨.not (.member .root "Active")⟩ := by
    rw [Limits.compile, tokenize_eq_ok_iff.mpr ⟨_, hone 0, rfl⟩]
    rfl
  have hmost : (⟨some 8, some 1⟩ : Limits).AtMost ⟨some 9, none⟩ := by
    constructor <;> simp
  obtain ⟨-, -, hnesting, -⟩ :=
    compile_limits ⟨some 8, some 1⟩ Sample.schema Sample.personId "!!Active"
  obtain ⟨-, -, -, hmono⟩ :=
    compile_limits ⟨some 8, some 1⟩ Sample.schema Sample.personId "!Active"
  have hnot : ¬ ∃ limit, ExceedsLimit limit
      ((⟨some 8, some 1⟩ : Limits).compile Sample.schema Sample.personId "!Active") := by
    rintro ⟨limit, actual, max, offset, h⟩
    rw [hpass] at h
    exact nomatch h
  exact ⟨hdeep, (hnesting 2 1 1 hdeep).1, hmost, (hmono _ hmost hnot).2.trans hpass⟩

end

end RecordFilter
