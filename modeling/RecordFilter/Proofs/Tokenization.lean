import RecordFilter.Proofs.Compilation
import RecordFilter.Proofs.TokenPlaces
/-!
# Tokenizing loses nothing

`Covers` says that tokens are the longest lexemes of a stretch of text, one after the other, and that
what stands between them is blank.  The first part of a text, if it is read as tokens, is covered by
them (`Lexes.covers`).  So the tokens of a source cover it; and a source without tokens is covered by
tokens up to a character at which no lexeme starts (`isTokenization_tokenize`).
-/

namespace RecordFilter

/-- The number of characters up to the end of the token. -/
def Token.stop (t : Token) : Nat := t.offset + t.text.length

/-- The token is a piece of the text: a lexeme of its class, and the longest of any class that starts
there. -/
structure Token.IsLongestIn (cs : List Char) (t : Token) : Prop where
  text_ne : t.text ≠ ""
  pointsAt : PointsAt cs t.offset t.text
  isLexeme : t.kind.IsLexeme t.text.toList
  longest : ∀ kind word, TokenKind.IsLexeme kind word → word <+: cs.drop t.offset →
    word.length ≤ t.text.length

/-- The first `stop` characters of the text are those of the tokens, in their order, and blank
characters. -/
structure Covers (cs : List Char) (stop : Nat) (ts : List Token) : Prop where
  isLongest : ∀ t ∈ ts, t.IsLongestIn cs
  within : ∀ t ∈ ts, t.stop ≤ stop
  ordered : ts.Pairwise fun t u => t.stop ≤ u.offset
  isBlank : ∀ i c, i < stop → cs[i]? = some c → (∀ t ∈ ts, i < t.offset ∨ t.stop ≤ i) →
    Text.isBlank c = true

/-- The tokens are those of the source before a character at which no lexeme starts: they are read there
before the rest of the source, and they are all the tokens of that part of it. -/
structure StopsAt (source : String) (e : TokenizeError) (ts : List Token) : Prop where
  character : source.toList[e.offset]? = some e.character
  not_isBlank : Text.isBlank e.character = false
  no_lexeme : ∀ kind word, TokenKind.IsLexeme kind word → ¬ word <+: source.toList.drop e.offset
  covers : Covers source.toList e.offset ts
  lexes : Lexes (source.toList.drop e.offset) 0 (source.toList.take e.offset) ts
  tokens : tokenize (String.ofList (source.toList.take e.offset)) =
    .ok (ts ++ [⟨.eof, "", e.offset⟩])

/-- What the tokens of a source, or their absence, say about it. -/
def IsTokenization (source : String) : Except TokenizeError (List Token) → Prop
  | .ok us => ∃ ts, us = ts ++ [⟨.eof, "", source.length⟩] ∧ (∀ t ∈ ts, t.kind ≠ .eof) ∧
      Covers source.toList source.length ts
  | .error e => ∃ ts, StopsAt source e ts

/-! ### Parts that are read are covered -/

namespace Lexes

variable {cs rest : List Char} {offset : Nat} {ts : List Token}

/-- `Lexes` gives tokens that are the longest lexemes at their places. -/
private theorem isLongestIn (h : Lexes rest 0 cs ts) : ∀ t ∈ ts, t.IsLongestIn (cs ++ rest) := by
  intro t ht
  have hstands := h.standsIn t ht
  obtain ⟨word, tail, hdrop, htext, hw⟩ := h.lexeme?_drop ht
  have hlexeme := isLexeme_of_lexeme? hw
  rw [List.take_left] at hlexeme
  constructor
  · exact hstands.spells.ne_empty (h.ne_eof t ht)
  · exact hstands.pointsAt
  · rwa [htext, String.toList_ofList]
  · -- a lexeme that is longer would be found in its place
    intro kind word' hword' hpre
    rw [hdrop] at hpre
    obtain ⟨r, hr, hle⟩ := hword'.length_le hpre
    rw [hw] at hr
    cases hr
    rwa [htext, String.length_ofList]

/-- `Lexes` gives tokens that lie within their part. -/
theorem within (h : Lexes rest offset cs ts) :
    ∀ t ∈ ts, offset ≤ t.offset ∧ t.stop ≤ offset + cs.length := by
  intro t ht
  obtain ⟨skipped, word, tail, rfl, hplace, htext, -⟩ := h.exists_of_mem ht
  rw [Token.stop, hplace, htext, String.length_ofList, List.length_append, List.length_append]
  omega

/-- `Lexes` gives tokens that do not overlap. -/
theorem ordered (h : Lexes rest offset cs ts) : ts.Pairwise fun t u => t.stop ≤ u.offset := by
  induction h with
  | done => exact .nil
  | blank _ _ ih => exact ih
  | @lexeme offset c word cs kind ts _ _ h ih =>
    -- all later tokens start where the first one ends, or after
    refine .cons ?_ ih
    intro u hu
    rw [Token.stop, String.length_ofList]
    exact (h.within u hu).1

/-- `Lexes` leaves only blank characters outside of tokens. -/
theorem isBlank (h : Lexes rest offset cs ts) {i : Nat} {c : Char} (hi : cs[i]? = some c)
    (hout : ∀ t ∈ ts, offset + i < t.offset ∨ t.stop ≤ offset + i) : Text.isBlank c = true := by
  induction h generalizing i with
  | done => simp at hi
  | @blank offset d cs ts hd _ ih =>
    cases i with
    | zero =>
      obtain rfl : d = c := by simpa using hi
      exact hd
    | succ i =>
      rw [List.getElem?_cons_succ] at hi
      refine ih hi ?_
      rwa [Nat.add_assoc, Nat.add_comm 1]
  | @lexeme offset d word cs kind ts _ _ _ ih =>
    rw [List.forall_mem_cons, Token.stop, String.length_ofList] at hout
    -- the place is not inside of the first token, and so in what follows it
    have hle : (d :: word).length ≤ i := by
      have := hout.1
      dsimp only at this
      omega
    rw [List.getElem?_append_right hle] at hi
    refine ih hi ?_
    rw [Nat.add_assoc, Nat.add_sub_cancel' hle]
    exact hout.2

/-- `Covers` holds of the first part of a text and the tokens that it is read as. -/
theorem covers (h : Lexes rest 0 cs ts) : Covers (cs ++ rest) cs.length ts where
  isLongest := h.isLongestIn
  within := by
    intro t ht
    have hwithin := (h.within t ht).2
    rwa [Nat.zero_add] at hwithin
  ordered := h.ordered
  isBlank := by
    intro i c hlt hi hout
    rw [List.getElem?_append_left hlt] at hi
    refine h.isBlank hi ?_
    rwa [Nat.zero_add]

/-- `Lexes` reads a part in the same way when what follows it is left out. -/
private theorem alone (h : Lexes rest offset cs ts) : Lexes [] offset cs ts := by
  induction h with
  | done => exact .done
  | blank hc _ ih => exact .blank hc ih
  | @lexeme offset c word cs kind ts hc hw _ ih =>
    refine .lexeme hc ?_ ih
    have hlexeme := isLexeme_of_lexeme? hw
    rw [List.take_left] at hlexeme
    rw [List.append_nil]
    -- a longer lexeme would have been found before, too
    rcases hlexeme.found (List.prefix_append _ cs) with hfound | ⟨⟨kind', n⟩, hfound, hlt⟩
    · exact hfound
    · have hlonger := isLexeme_of_lexeme? hfound
      have hpre : (c :: word ++ cs).take n <+: c :: word ++ (cs ++ rest) := by
        rw [← List.append_assoc]
        exact (List.take_prefix _ _).trans (List.prefix_append _ _)
      obtain ⟨r, hr, hle⟩ := hlonger.length_le hpre
      rw [hw] at hr
      cases hr
      rw [List.length_take, Nat.min_eq_left (lexeme?_le hfound)] at hle
      exact absurd hlt (Nat.not_lt.mpr hle)

end Lexes

/-! ### Sources -/

/-- `StopsAt` holds of a source without tokens, with those up to a character at which no lexeme starts.
-/
private theorem exists_stopsAt {source : String} {e : TokenizeError} (h : tokenize source = .error e) :
    ∃ ts, StopsAt source e ts := by
  have hcharacter := tokensFrom_error h
  obtain ⟨c, before, rest, ts, hsource, hts, hc, hnone, rfl⟩ := tokensFrom_eq_error_iff.mp h
  rw [Nat.zero_add] at hcharacter ⊢
  have htake : source.toList.take before.length = before := by rw [hsource, List.take_left]
  have hdrop : source.toList.drop before.length = c :: rest := by rw [hsource, List.drop_left]
  refine ⟨ts, hcharacter, hc, ?_, ?_, ?_, ?_⟩
  -- a lexeme there would have been found
  · intro kind word hword hpre
    rw [hdrop] at hpre
    obtain ⟨r, hr, -⟩ := hword.length_le hpre
    rw [hnone] at hr
    exact nomatch hr
  · rw [hsource]
    exact hts.covers
  · rwa [htake, hdrop]
  · rw [htake, tokenize_eq_ok_iff, String.toList_ofList, String.length_ofList]
    exact ⟨ts, hts.alone, rfl⟩

/-- The tokens of a source are the longest lexemes that it consists of, and the end of input.  A source
without tokens stops at a character that starts none. -/
theorem isTokenization_tokenize (source : String) : IsTokenization source (tokenize source) := by
  cases h : tokenize source with
  | ok us =>
    obtain ⟨ts, hts, rfl⟩ := tokenize_eq_ok_iff.mp h
    have hcovers := hts.covers
    rw [List.append_nil, String.length_toList] at hcovers
    exact ⟨ts, rfl, hts.ne_eof, hcovers⟩
  | error e => exact exists_stopsAt h

/-- Two characters make one operator before one does, and a number has one point. -/
example : tokenize "1.5>=2" =
    .ok [⟨.number, "1.5", 0⟩, ⟨.comparison .ge, ">=", 3⟩, ⟨.number, "2", 5⟩, ⟨.eof, "", 6⟩] := by
  cbv

end RecordFilter
