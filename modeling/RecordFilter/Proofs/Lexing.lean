import RecordFilter.Proofs.Except
import RecordFilter.Proofs.LexemeClass
import RecordFilter.Token.Stream
/-!
# Reading part of a text as tokens

`Lexes rest offset cs ts` says that the characters `cs`, which stand after `offset` characters and
before `rest`, are read as the tokens `ts`.  Since it looks at what follows, adjacent parts compose
(`Lexes.append`).  A whole text is tokenized exactly if it is read with nothing after it
(`tokensFrom_eq_ok_iff`), and not if a part of it is read before a character that starts no lexeme
(`tokensFrom_eq_error_iff`).  A part is read in the same way if a character that separates lexemes, and
any text, are added at the end (`Lexes.extend`, `Lexes.before`), and anywhere else in a text with other
offsets only (`Lexes.shift`).
-/

namespace RecordFilter

/-! ### The steps of the tokenizer -/

/-- `tokensFrom` passes over a blank. -/
theorem tokensFrom_blank {c : Char} (hc : Text.isBlank c = true) (offset : Nat) (cs : List Char) :
    tokensFrom offset (c :: cs) = tokensFrom (offset + 1) cs := by
  rw [tokensFrom, if_pos hc]

/-- `tokensFrom` fails at a character that is not blank and starts no lexeme. -/
private theorem tokensFrom_none {c : Char} {cs : List Char} (hc : Text.isBlank c = false)
    (hw : lexeme? (c :: cs) = none) (offset : Nat) :
    tokensFrom offset (c :: cs) = .error ⟨c, offset⟩ := by
  rw [tokensFrom, if_neg (Bool.eq_false_iff.mp hc)]
  split
  · rfl
  · rename_i hw'
    rw [hw] at hw'
    simp at hw'

/-- `tokensFrom` makes a token of a lexeme, and the tokens of what follows come after it. -/
private theorem tokensFrom_some {c : Char} {cs : List Char} {kind : TokenKind} {n : Nat}
    (hc : Text.isBlank c = false) (hw : lexeme? (c :: cs) = some (kind, n)) (offset : Nat) :
    tokensFrom offset (c :: cs) =
      (tokensFrom (offset + n) ((c :: cs).drop n)).map
        (⟨kind, String.ofList ((c :: cs).take n), offset⟩ :: ·) := by
  rw [tokensFrom, if_neg (Bool.eq_false_iff.mp hc)]
  split
  · rename_i hw'
    rw [hw] at hw'
    simp at hw'
  · rename_i hw'
    rw [hw] at hw'
    cases hw'
    rfl

/-! ### Parts of a text -/

/-- The characters are read as the tokens, if they stand after so many characters and before
`rest`. -/
inductive Lexes (rest : List Char) : Nat → List Char → List Token → Prop where
  | done {offset : Nat} : Lexes rest offset [] []
  | blank {offset : Nat} {c : Char} {cs : List Char} {ts : List Token} (hc : Text.isBlank c = true)
      (h : Lexes rest (offset + 1) cs ts) : Lexes rest offset (c :: cs) ts
  | lexeme {offset : Nat} {c : Char} {word cs : List Char} {kind : TokenKind} {ts : List Token}
      (hc : Text.isBlank c = false)
      (hw : lexeme? (c :: word ++ (cs ++ rest)) = some (kind, (c :: word).length))
      (h : Lexes rest (offset + (c :: word).length) cs ts) :
      Lexes rest offset (c :: word ++ cs) (⟨kind, String.ofList (c :: word), offset⟩ :: ts)

namespace Lexes

variable {rest cs ds : List Char} {offset : Nat} {ts us : List Token}

/-- `Lexes` reads a lexeme that is the whole part as its only token. -/
theorem single {c : Char} {word : List Char} {kind : TokenKind} (hc : Text.isBlank c = false)
    (hw : lexeme? (c :: word ++ rest) = some (kind, (c :: word).length)) :
    Lexes rest offset (c :: word) [⟨kind, String.ofList (c :: word), offset⟩] := by
  have h : Lexes rest offset (c :: word ++ []) [⟨kind, String.ofList (c :: word), offset⟩] :=
    .lexeme hc hw .done
  rwa [List.append_nil] at h

/-- `tokensFrom` gives the tokens of a part before those of what follows. -/
theorem tokensFrom_append (h : Lexes rest offset cs ts) :
    tokensFrom offset (cs ++ rest) =
      (tokensFrom (offset + cs.length) rest).map (ts ++ ·) := by
  induction h with
  | @done offset =>
    rw [List.nil_append, List.length_nil, Nat.add_zero]
    cases tokensFrom offset rest <;> rfl
  | @blank offset c cs ts hc h ih =>
    rw [List.cons_append, tokensFrom_blank hc, ih, List.length_cons, Nat.add_assoc,
      Nat.add_comm 1]
  | @lexeme offset c word cs kind ts hc hw h ih =>
    rw [List.cons_append] at hw
    -- the tokenizer goes on where the lexeme ends
    rw [List.append_assoc, List.cons_append, tokensFrom_some hc hw, ← List.cons_append,
      List.drop_left, List.take_left, ih, List.length_append, Nat.add_assoc]
    cases tokensFrom (offset + ((c :: word).length + cs.length)) rest <;> rfl

/-- `Lexes` reads parts that stand one after the other. -/
theorem append (h : Lexes (ds ++ rest) offset cs ts) (h' : Lexes rest (offset + cs.length) ds us) :
    Lexes rest offset (cs ++ ds) (ts ++ us) := by
  -- along the first part; the second one stands where it ends
  induction h with
  | done => exact h'
  | @blank offset c cs ts hc h ih =>
    rw [List.length_cons, Nat.add_comm cs.length, ← Nat.add_assoc] at h'
    exact .blank hc (ih h')
  | @lexeme offset c word cs kind ts hc hw h ih =>
    rw [List.length_append, ← Nat.add_assoc] at h'
    rw [← List.append_assoc cs] at hw
    rw [List.append_assoc, List.cons_append]
    exact .lexeme hc hw (ih h')

/-- `Lexes` reads a part in the same way when a separating character and any text are added after the
whole. -/
theorem extend (h : Lexes rest offset cs ts) {d : Char} (hd : Lexeme.Separates d)
    (tail : List Char) : Lexes (rest ++ d :: tail) offset cs ts := by
  induction h with
  | done => exact .done
  | blank hc h ih => exact .blank hc ih
  | @lexeme offset c word cs kind ts hc hw h ih =>
    -- what follows the lexeme already stands there, and `d` comes after it
    have hw' := lexeme?_append hd hw tail
    rw [List.append_assoc, List.append_assoc] at hw'
    exact .lexeme hc hw' ih

/-- `Lexes` reads a part before a separating character as at the end of the text. -/
theorem before (h : Lexes [] offset cs ts) {d : Char} (hd : Lexeme.Separates d)
    (rest : List Char) : Lexes (d :: rest) offset cs ts :=
  h.extend hd rest

/-- `Lexes` makes each token of a lexeme at its place, with what follows in the part and after it. -/
theorem exists_of_mem (h : Lexes rest offset cs ts) {t : Token} (ht : t ∈ ts) :
    ∃ before word tail, cs = before ++ word ++ tail ∧ t.offset = offset + before.length ∧
      t.text = String.ofList word ∧
      lexeme? (word ++ (tail ++ rest)) = some (t.kind, word.length) := by
  induction h with
  | done => exact nomatch ht
  | @blank offset c cs ts _ _ ih =>
    obtain ⟨before, word, tail, rfl, hplace, hlex⟩ := ih ht
    refine ⟨c :: before, word, tail, rfl, ?_, hlex⟩
    rw [hplace, List.length_cons, Nat.add_comm before.length, Nat.add_assoc]
  | @lexeme offset c first cs kind ts _ hw _ ih =>
    rcases List.mem_cons.mp ht with rfl | ht
    · exact ⟨[], c :: first, cs, rfl, rfl, rfl, hw⟩
    · obtain ⟨before, word, tail, rfl, hplace, hlex⟩ := ih ht
      refine ⟨c :: first ++ before, word, tail, by simp, ?_, hlex⟩
      rw [hplace, List.length_append, Nat.add_assoc]

/-- `Lexes` reads no part of a text as an end of input. -/
theorem ne_eof (h : Lexes rest offset cs ts) : ∀ t ∈ ts, t.kind ≠ .eof := by
  induction h with
  | done => exact List.forall_mem_nil _
  | blank _ _ ih => exact ih
  | lexeme _ hw _ ih => exact List.forall_mem_cons.mpr ⟨lexeme?_ne_eof hw, ih⟩

end Lexes

/-- The token that stands so many characters later. -/
def Token.shift (n : Nat) (t : Token) : Token := { t with offset := t.offset + n }

/-- `Lexes` reads a part that stands elsewhere in a text with other offsets only. -/
theorem Lexes.shift {rest cs : List Char} {offset : Nat} {ts : List Token}
    (h : Lexes rest offset cs ts) (n : Nat) : Lexes rest (offset + n) cs (ts.map (·.shift n)) := by
  induction h with
  | done => exact .done
  | blank hc h ih =>
    rw [Nat.add_right_comm] at ih
    exact .blank hc ih
  | lexeme hc hw h ih =>
    -- a lexeme is found whatever the offset is
    rw [Nat.add_right_comm] at ih
    exact .lexeme hc hw ih

/-- `tokensFrom` succeeds if `Lexes` reads the text with nothing after it; then the end of input
follows. -/
theorem tokensFrom_eq_ok_iff {offset : Nat} {cs : List Char} {us : List Token} :
    tokensFrom offset cs = .ok us ↔
      ∃ ts, Lexes [] offset cs ts ∧ us = ts ++ [⟨.eof, "", offset + cs.length⟩] := by
  constructor
  · -- each step of the tokenizer is a step of the reading
    intro h
    induction offset, cs using tokensFrom.induct generalizing us with
    | case1 offset =>
      rw [tokensFrom] at h
      cases h
      exact ⟨[], .done, rfl⟩
    | case2 offset c cs hc ih =>
      rw [tokensFrom_blank hc] at h
      obtain ⟨ts, hts, rfl⟩ := ih h
      refine ⟨ts, .blank hc hts, ?_⟩
      rw [List.length_cons, Nat.add_comm cs.length, Nat.add_assoc]
    | case3 offset c cs hc hw =>
      rw [tokensFrom_none (Bool.eq_false_iff.mpr hc) hw] at h
      simp at h
    | case4 offset c cs hc kind n hw ih =>
      rw [Bool.not_eq_true] at hc
      rw [tokensFrom_some hc hw, Except.map_eq_ok_iff] at h
      obtain ⟨us, hus, rfl⟩ := h
      obtain ⟨ts, hts, rfl⟩ := ih hus
      -- the lexeme is the first characters, and the rest is tokenized after it
      obtain ⟨word, tail, hword, rfl⟩ := exists_append_of_lexeme? hw
      rw [hword] at hw hts ⊢
      rw [List.drop_left] at hts
      rw [List.take_left, List.drop_left, List.length_append, Nat.add_assoc]
      refine ⟨_, .lexeme hc ?_ hts, rfl⟩
      rwa [List.append_nil]
  · rintro ⟨ts, hts, rfl⟩
    -- nothing follows, so the end of input does
    have h := hts.tokensFrom_append
    rw [List.append_nil, tokensFrom] at h
    exact h

/-- `tokensFrom` fails if `Lexes` reads a part that stands before a character that is not blank and
starts no lexeme. -/
theorem tokensFrom_eq_error_iff {offset : Nat} {cs : List Char} {e : TokenizeError} :
    tokensFrom offset cs = .error e ↔
      ∃ c before rest ts, cs = before ++ c :: rest ∧ Lexes (c :: rest) offset before ts ∧
        Text.isBlank c = false ∧ lexeme? (c :: rest) = none ∧ e = ⟨c, offset + before.length⟩ := by
  constructor
  · intro h
    -- along the steps of the tokenizer, all of which but the last find a lexeme or a blank
    induction offset, cs using tokensFrom.induct with
    | case1 offset =>
      rw [tokensFrom] at h
      exact nomatch h
    | case2 offset c cs hc ih =>
      rw [tokensFrom_blank hc] at h
      obtain ⟨d, before, rest, ts, rfl, hts, hd, hnone, rfl⟩ := ih h
      refine ⟨d, c :: before, rest, ts, rfl, .blank hc hts, hd, hnone, ?_⟩
      rw [List.length_cons, Nat.add_comm before.length, Nat.add_assoc]
    | case3 offset c cs hc hw =>
      rw [Bool.not_eq_true] at hc
      rw [tokensFrom_none hc hw] at h
      cases h
      exact ⟨c, [], cs, [], rfl, .done, hc, hw, rfl⟩
    | case4 offset c cs hc kind n hw ih =>
      rw [Bool.not_eq_true] at hc
      rw [tokensFrom_some hc hw, Except.map_eq_error_iff] at h
      obtain ⟨d, before, rest, ts, hsplit, hts, hd, hnone, rfl⟩ := ih h
      obtain ⟨word, tail, hword, rfl⟩ := exists_append_of_lexeme? hw
      rw [hword, List.drop_left] at hsplit
      subst hsplit
      rw [hword] at hw
      refine ⟨d, c :: word ++ before, rest, _, ?_, .lexeme hc hw hts, hd, hnone, ?_⟩
      · rw [hword, List.append_assoc]
      · rw [List.length_append, Nat.add_assoc]
  · rintro ⟨c, before, rest, ts, rfl, hts, hc, hnone, rfl⟩
    rw [hts.tokensFrom_append, tokensFrom_none hc hnone]
    rfl

/-- The error at the character that stands so many characters later. -/
def TokenizeError.shift (n : Nat) (e : TokenizeError) : TokenizeError :=
  { e with offset := e.offset + n }

/-- `tokensFrom` of a text that stands later gives the same tokens, or the same error, so much later. -/
theorem tokensFrom_add (n offset : Nat) (cs : List Char) :
    tokensFrom (offset + n) cs =
      ((tokensFrom offset cs).mapError (·.shift n)).map (·.map (·.shift n)) := by
  -- the parts that were read are read so much later
  cases h : tokensFrom offset cs with
  | ok us =>
    obtain ⟨ts, hts, rfl⟩ := tokensFrom_eq_ok_iff.mp h
    rw [tokensFrom_eq_ok_iff.mpr ⟨_, hts.shift n, rfl⟩, Nat.add_right_comm]
    simp [Except.map, Token.shift]
  | error e =>
    obtain ⟨c, before, rest, ts, rfl, hts, hc, hnone, rfl⟩ := tokensFrom_eq_error_iff.mp h
    rw [tokensFrom_eq_error_iff.mpr ⟨c, before, rest, _, rfl, hts.shift n, hc, hnone, rfl⟩,
      Nat.add_right_comm]
    rfl

end RecordFilter
