import RecordFilter.Proofs.BlankCharacters
import RecordFilter.Proofs.Compilation
/-!
# Texts with a blank between them

A blank ends every lexeme but an open quoted text, so the tokens of two texts with a blank between them
are those of the first and, so much later, those of the second (`tokenize_blank_between`).  An error in
either of them stays the error, unless it is a quoted text of the first that never ends
(`Unclosed`): that may go on in the second.
-/

namespace RecordFilter

/-- A quoted text starts after so many characters, and never ends. -/
def Unclosed (cs : List Char) (offset : Nat) : Prop :=
  ∃ rest, cs.drop offset = '"' :: rest ∧ '"' ∉ rest

/-- `Unclosed` is said of a quoted text that never ends, and of no other: only there the quote is
refused. -/
private theorem unclosed_iff {cs : List Char} {e : TokenizeError} (h : tokensFrom 0 cs = .error e) :
    Unclosed cs e.offset ↔ e.character = '"' := by
  obtain ⟨c, before, rest, ts, rfl, -, -, hnone, rfl⟩ := tokensFrom_eq_error_iff.mp h
  simp only [Unclosed, Nat.zero_add, List.drop_left, List.cons.injEq]
  constructor
  · rintro ⟨_, ⟨hc, -⟩, -⟩
    exact hc
  · rintro rfl
    -- with another quote there would be a lexeme
    rw [Lexeme.lexeme?_of_quote, Lexeme.quoted?, Option.map_eq_none_iff, List.findIdx?_eq_none_iff]
      at hnone
    exact ⟨rest, ⟨rfl, rfl⟩, fun hmem => by simpa using hnone _ hmem⟩

section

variable {cs : List Char} {w : Char}

/-- `tokensFrom` of a text, a blank and another text gives the tokens of the first, and those of the
second so much later. -/
private theorem tokensFrom_append_blank {ts : List Token} (h : Lexes [] 0 cs ts)
    (hw : Text.isBlank w = true) (ds : List Char) :
    tokensFrom 0 (cs ++ w :: ds) =
      (((tokensFrom 0 ds).mapError (·.shift (cs.length + 1))).map
        (·.map (·.shift (cs.length + 1)))).map (ts ++ ·) := by
  -- the tokens of the first text are read in front of the blank as at the end
  have hcs := h.before (Lexeme.separates_of_isBlank hw) ds
  -- what comes after the blank is read from its place on
  have hlater := tokensFrom_add (cs.length + 1) 0 ds
  rw [Nat.zero_add] at hlater
  rw [hcs.tokensFrom_append, tokensFrom_blank hw, Nat.zero_add, hlater]

/-- `tokensFrom` finds the error of a text whatever stands after it and a blank. -/
private theorem tokensFrom_append_blank_eq_error {e : TokenizeError} (h : tokensFrom 0 cs = .error e)
    (hclosed : ¬ Unclosed cs e.offset) (hw : Text.isBlank w = true) (ds : List Char) :
    tokensFrom 0 (cs ++ w :: ds) = .error e := by
  -- an error at any other character does not depend on what follows
  rw [unclosed_iff h] at hclosed
  obtain ⟨c, before, rest, ts, rfl, hts, hc, hnone, rfl⟩ := tokensFrom_eq_error_iff.mp h
  have hsep := Lexeme.separates_of_isBlank hw
  -- what was read is read again, and the character after it still starts no lexeme
  refine tokensFrom_eq_error_iff.mpr
    ⟨c, before, rest ++ w :: ds, ts, by simp, hts.extend hsep ds, hc, ?_, rfl⟩
  rw [← List.cons_append, lexeme?_append_of_ne hsep hclosed, hnone]

end

/-- Two texts with a blank between them.  If the first has tokens, then the last one is the end of input;
the others come before the tokens of the second, which stand so much later, and an error of the second
stands so much later too.  If the first has an error that is no quoted text without an end, that is the
error. -/
theorem tokenize_blank_between (s t : String) {w : Char} (hw : Text.isBlank w = true) :
    (∀ ts, tokenize s = .ok ts →
      ts.getLast? = some ⟨.eof, "", s.length⟩ ∧
      (∀ us, tokenize t = .ok us →
        tokenize (s ++ String.singleton w ++ t) =
          .ok (ts.dropLast ++ us.map (·.shift (s.length + 1)))) ∧
      ∀ e, tokenize t = .error e →
        tokenize (s ++ String.singleton w ++ t) = .error (e.shift (s.length + 1))) ∧
    ∀ e, tokenize s = .error e → ¬ Unclosed s.toList e.offset →
      tokenize (s ++ String.singleton w ++ t) = .error e := by
  have hchars : (s ++ String.singleton w ++ t).toList = s.toList ++ w :: t.toList := by simp
  constructor
  · intro ts hts
    obtain ⟨ts, hlex, rfl⟩ := tokenize_eq_ok_iff.mp hts
    have hjoin := tokensFrom_append_blank hlex hw t.toList
    rw [← hchars, String.length_toList] at hjoin
    -- the end of input of the first text is dropped, that of the second moves with it
    refine ⟨List.getLast?_concat, fun us hus => ?_, fun e he => ?_⟩
    · rw [tokenize] at hus
      rw [tokenize, hjoin, hus, List.dropLast_concat]
      rfl
    · rw [tokenize] at he
      rw [tokenize, hjoin, he]
      rfl
  · intro e he hclosed
    rw [tokenize, hchars]
    exact tokensFrom_append_blank_eq_error he hclosed hw t.toList

/-- A comparison over two lines; a character that is refused on the second line, and on the first. -/
theorem tokenize_blank_between_of_lines :
    Text.isBlank '\n' = true ∧
      tokenize "A<" = .ok [⟨.identifier, "A", 0⟩, ⟨.comparison .lt, "<", 1⟩, ⟨.eof, "", 2⟩] ∧
      tokenize " 1" = .ok [⟨.number, "1", 1⟩, ⟨.eof, "", 2⟩] ∧
      tokenize "A<\n 1" = .ok [⟨.identifier, "A", 0⟩, ⟨.comparison .lt, "<", 1⟩, ⟨.number, "1", 4⟩,
        ⟨.eof, "", 5⟩] ∧
      tokenize "=1" = .error ⟨'=', 0⟩ ∧ ¬ Unclosed "=1".toList 0 ∧
      tokenize "A<\n=1" = .error ⟨'=', 3⟩ ∧ tokenize "=1\n 1" = .error ⟨'=', 0⟩ := by
  have hblank : Text.isBlank '\n' = true := rfl
  have hless : tokenize "A<" =
      .ok [⟨.identifier, "A", 0⟩, ⟨.comparison .lt, "<", 1⟩, ⟨.eof, "", 2⟩] := by decide +kernel
  have hone : tokenize " 1" = .ok [⟨.number, "1", 1⟩, ⟨.eof, "", 2⟩] := by decide +kernel
  have hrefused : tokenize "=1" = .error ⟨'=', 0⟩ := by decide +kernel
  have hclosed : ¬ Unclosed "=1".toList 0 := by
    rintro ⟨rest, hrest, -⟩
    cases hrest
  obtain ⟨-, hok, -⟩ := (tokenize_blank_between "A<" " 1" hblank).1 _ hless
  obtain ⟨-, -, herror⟩ := (tokenize_blank_between "A<" "=1" hblank).1 _ hless
  have hfirst := (tokenize_blank_between "=1" " 1" hblank).2 _ hrefused hclosed
  exact ⟨hblank, hless, hone, hok _ hone, hrefused, hclosed, herror _ hrefused, hfirst⟩

end RecordFilter
