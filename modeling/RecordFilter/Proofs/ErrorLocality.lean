import RecordFilter.Proofs.Compilation
import RecordFilter.Proofs.ElaborationErrors
import RecordFilter.Proofs.NestingCounter
import RecordFilter.Proofs.ParserErrors
import RecordFilter.Sample
/-!
# Errors point at what they name

Whatever makes a source fail to compile, the offset of the error is the number of characters before
what the error is about (`compile_error_locatedIn`).  The tokenizer, the parser and the elaboration
each find their offsets in their own way; the limits add two more.
-/

namespace RecordFilter

/-- The offset of the error is the place in the source of what the error is about: the character,
the token or the end of the source, the name or operator, a node of the expression, or at least
some character. -/
def CompileError.LocatedIn (source : String) : CompileError → Prop
  | tokenize e => source.toList[e.offset]? = some e.character
  | parse e =>
    PointsAt source.toList e.offset e.token ∧ (e.token = "" → e.offset = source.length)
  | elaborate e =>
    e.Locates source.toList fun offset => offset < source.length ∧
      ∃ x, Expr.ofSource source = .ok x ∧ ∃ n ∈ x.nodes, n.offset = offset
  | limitExceeded _ _ _ offset => offset < source.length

/-- `Locates` with more offsets that an error about a type may have. -/
theorem ElaborationError.Locates.mono {cs : List Char} {p q : Nat → Prop} {e : ElaborationError}
    (h : e.Locates cs p) (hpq : ∀ o, p o → q o) : e.Locates cs q := by
  cases e with
  | typeMismatch _ _ offset => exact hpq offset h
  | _ => exact h

/-! ### Tokens and expressions of a source -/

/-- `Lexes` reads tokens of a source that stand in it. -/
theorem Lexes.standsIn_source {source : String} {ts : List Token}
    (h : Lexes [] 0 source.toList ts) : ∀ t ∈ ts, t.StandsIn source.toList := by
  have hstands := h.standsIn
  rwa [List.append_nil] at hstands

/-- `StandsIn` puts a token that is not the end before the end of the source. -/
theorem Token.StandsIn.lt_length {source : String} {t : Token} (h : t.StandsIn source.toList)
    (hk : t.kind ≠ .eof) : t.offset < source.length := by
  have hlt := h.pointsAt.lt_length (h.spells.ne_empty hk)
  rwa [String.length_toList] at hlt

/-- `tokenize` fails with the character that stands at the offset of the error. -/
private theorem tokenize_error {source : String} {e : TokenizeError} (h : tokenize source = .error e) :
    source.toList[e.offset]? = some e.character :=
  tokensFrom_error h

/-- `parse` fails with a token where it stands, or with no token at the end of the source. -/
private theorem parse_error_located {source : String} {us : List Token} {e : ParseError}
    (hus : tokenize source = .ok us) (h : parse us = .error e) :
    (CompileError.parse e).LocatedIn source := by
  obtain ⟨ts, hts, rfl⟩ := tokenize_eq_ok_iff.mp hus
  obtain ⟨t, ht, htoken, hoffset⟩ := parse_cites h
  rw [beforeEnd_concat hts.ne_eof rfl, inputEnd_concat hts.ne_eof rfl, List.mem_append,
    List.mem_singleton] at ht
  show PointsAt source.toList e.offset e.token ∧ (e.token = "" → e.offset = source.length)
  rw [htoken, hoffset]
  rcases ht with ht | rfl
  · -- only the end of input has no text, and this token is not the end
    have hstands := hts.standsIn_source t ht
    refine ⟨hstands.pointsAt, fun hempty => ?_⟩
    exact absurd hempty (hstands.spells.ne_empty (hts.ne_eof t ht))
  · exact ⟨List.nil_prefix, fun _ => rfl⟩

/-- `parse` gives an expression whose nodes stand in the source. -/
theorem parse_standsIn {source : String} {us : List Token} {x : Expr}
    (hus : tokenize source = .ok us) (h : parse us = .ok x) :
    ∀ n ∈ x.nodes, n.StandsIn source.toList := by
  obtain ⟨ts, hts, rfl⟩ := tokenize_eq_ok_iff.mp hus
  have hx := parse_sound h
  rw [beforeEnd_concat hts.ne_eof rfl] at hx
  exact hx.standsIn hts.standsIn_source

/-- `planFilter` fails with an error that is located. -/
private theorem planFilter_error_located {schema : Schema} {root : RecordId} {source : String}
    {us : List Token} {x : Expr} {e : ElaborationError} (hus : tokenize source = .ok us)
    (hx : parse us = .ok x) (h : planFilter schema root x = .error e) :
    (CompileError.elaborate e).LocatedIn source := by
  have hstands := parse_standsIn hus hx
  have hsource : Expr.ofSource source = .ok x := by
    rw [Expr.ofSource, hus, Except.mapError_ok, Except.ok_bind, hx]
    rfl
  refine (planFilter_error h hstands).mono ?_
  -- the node is one of the expression that the source is parsed to
  rintro _ ⟨n, hn, rfl⟩
  have hlt := (hstands n hn).lt_length
  rw [String.length_toList] at hlt
  exact ⟨hlt, x, hsource, n, hn, rfl⟩

/-! ### Limits -/

/-- `checkLength` fails with an offset inside of a source that is too long. -/
private theorem checkLength_error {l : Limits} {source : String} {e : CompileError}
    (h : l.checkLength source = .error e) : e.LocatedIn source := by
  unfold Limits.checkLength at h
  split at h
  · split at h
    · rename_i hlt
      -- the offset is the limit, which the length exceeds
      cases h
      exact hlt
    · simp at h
  · simp at h

/-- `checkNesting` fails with the offset of a token. -/
private theorem checkNesting_error {l : Limits} {source : String} {us : List Token} {e : CompileError}
    (hus : tokenize source = .ok us) (h : l.checkNesting us = .error e) : e.LocatedIn source := by
  obtain ⟨max, -, t, ht, hk, rfl⟩ := Limits.checkNesting_eq_error h
  -- such a token is a character of the source, not its end
  have hne : t.kind ≠ .eof := by
    rcases hk with hk | hk <;> exact hk ▸ TokenKind.noConfusion
  obtain ⟨ts, hts, rfl⟩ := tokenize_eq_ok_iff.mp hus
  rw [List.mem_append, List.mem_singleton] at ht
  rcases ht with ht | rfl
  · exact (hts.standsIn_source t ht).lt_length hne
  · exact absurd rfl hne

/-! ### Compiling -/

/-- Whatever makes a source fail to compile, within whatever limits, the error points at what it
names: at the character that starts no token, at the token that does not fit the grammar or at the
end of the source, at the member, method or operator that has no meaning, at a node of the expression
that has another type, or at some character if a limit is exceeded. -/
theorem compile_error_locatedIn {l : Limits} {schema : Schema} {root : RecordId} {source : String}
    {e : CompileError} (h : l.compile schema root source = .error e) : e.LocatedIn source := by
  -- the stages fail in this order, and each knows that the ones before it did not
  unfold Limits.compile at h
  rcases Except.bind_eq_error_iff.mp h with h | ⟨_, -, h⟩
  · exact checkLength_error h
  rcases Except.bind_eq_error_iff.mp h with h | ⟨us, hus, h⟩
  · obtain ⟨e, he, rfl⟩ := Except.mapError_eq_error_iff.mp h
    exact tokenize_error he
  replace hus := Except.mapError_eq_ok_iff.mp hus
  rcases Except.bind_eq_error_iff.mp h with h | ⟨_, -, h⟩
  · exact checkNesting_error hus h
  rcases Except.bind_eq_error_iff.mp h with h | ⟨x, hx, h⟩
  · obtain ⟨e, he, rfl⟩ := Except.mapError_eq_error_iff.mp h
    exact parse_error_located hus he
  · obtain ⟨e, he, rfl⟩ := Except.mapError_eq_error_iff.mp (Except.map_eq_error_iff.mp h)
    exact planFilter_error_located hus (Except.mapError_eq_ok_iff.mp hx) he

/-- The second name of a path is no member of a company, and stands after eight characters. -/
theorem compile_error_locatedIn_of_member :
    compile Sample.schema Sample.personId "Company.Größe" =
      .error (.elaborate (.unknownMember "Größe" "Company" 8)) ∧
      PointsAt "Company.Größe".toList 8 "Größe" := by
  have htokens : tokenize "Company.Größe" =
      .ok [⟨.identifier, "Company.Größe", 0⟩, ⟨.eof, "", 13⟩] :=
    tokenize_eq_ok_iff.mpr ⟨_, .single rfl rfl, rfl⟩
  have herror : compile Sample.schema Sample.personId "Company.Größe" =
      .error (.elaborate (.unknownMember "Größe" "Company" 8)) := by
    -- offsets count characters, however many bytes these have
    rw [compile_eq, htokens]
    rfl
  exact ⟨herror, compile_error_locatedIn herror⟩

end RecordFilter
