import Mathlib.Data.List.TakeWhile
import RecordFilter.Proofs.LexemeExtent
/-!
# The lexemes of each class

`TokenKind.IsLexeme` says which texts the tokens of a class are, without saying how they are found.
What the tokenizer finds at the start of a text is a lexeme of its class (`exists_prefix_of_lexeme?`),
and no lexeme of any class that the text starts with is longer (`TokenKind.IsLexeme.found`).  So a lexeme
that stands alone is found as a whole, and has no other class (`TokenKind.IsLexeme.lexeme?_eq`).
-/

namespace RecordFilter

/-! ### The texts of classes -/

/-- The text is one of a token of the class. -/
def TokenKind.Spells : TokenKind → String → Prop
  | identifier, s | string, s | number, s => s ≠ ""
  | boolean, s => s = "true" ∨ s = "false"
  | null, s => s = "null"
  | and, s => s = "&&"
  | or, s => s = "||"
  | not, s => s = "!"
  | comparison op, s => s = op.symbol
  | lparen, s => s = "("
  | rparen, s => s = ")"
  | comma, s => s = ","
  | eof, s => s = ""

/-- `Spells` is said of the empty text for the end of input only. -/
theorem TokenKind.Spells.ne_empty {kind : TokenKind} {s : String} (h : kind.Spells s)
    (hk : kind ≠ .eof) : s ≠ "" := by
  cases kind with
  | eof => exact absurd rfl hk
  | identifier | string | number => exact h
  | boolean => rcases h with rfl | rfl <;> decide
  | comparison op =>
    obtain rfl : s = op.symbol := h
    cases op <;> decide
  | _ =>
    cases h
    decide

namespace Lexeme

/-- A word: a letter or an underscore, and then letters, numerals, underscores and points. -/
def IsWord (word : List Char) : Prop :=
  ∃ c cs, word = c :: cs ∧ startsName c = true ∧ ∀ d ∈ cs, continuesName d = true

/-- Digits with at most one point among them, which does not come first. -/
def IsNumeral (word : List Char) : Prop :=
  ∃ whole, whole ≠ [] ∧ (∀ d ∈ whole, d.isDigit = true) ∧
    (word = whole ∨ ∃ frac, (∀ d ∈ frac, d.isDigit = true) ∧ word = whole ++ '.' :: frac)

/-- A text between quotes that holds none. -/
def IsQuoted (word : List Char) : Prop := ∃ body, '"' ∉ body ∧ word = '"' :: body ++ ['"']

end Lexeme

open Lexeme

/-- The characters are a lexeme of the class.  The keywords are words that are no identifiers; what is
left are operators and punctuation marks, which have one text each. -/
def TokenKind.IsLexeme : TokenKind → List Char → Prop
  | identifier, word =>
    IsWord word ∧ word ≠ "true".toList ∧ word ≠ "false".toList ∧ word ≠ "null".toList
  | string, word => IsQuoted word
  | number, word => IsNumeral word
  | eof, _ => False
  | kind, word => kind.Spells (String.ofList word)

namespace Lexeme

variable {cs rest word : List Char} {c : Char} {kind : TokenKind} {n : Nat}

/-! ### Keywords are words -/

/-- `IsWord` as a check. -/
private theorem isWord_cons (hc : startsName c = true) (hcs : cs.all continuesName = true) : IsWord (c :: cs) :=
  ⟨c, cs, rfl, hc, List.all_eq_true.mp hcs⟩

/-- The keyword `true` is a word. -/
private theorem isWord_true : IsWord "true".toList := isWord_cons (by decide +kernel) (by decide +kernel)

/-- The keyword `false` is a word. -/
private theorem isWord_false : IsWord "false".toList := isWord_cons (by decide +kernel) (by decide +kernel)

/-- The keyword `null` is a word. -/
private theorem isWord_null : IsWord "null".toList := isWord_cons (by decide +kernel) (by decide +kernel)

/-! ### Where lexemes start -/

/-- The characters that operators and punctuation marks start with. -/
def operatorStarts : List Char := ['&', '|', '=', '!', '>', '<', '(', ')', ',']

/-- `operator?` finds nothing where no operator starts. -/
theorem operator?_eq_none (hc : c ∉ operatorStarts) (cs : List Char) : operator? (c :: cs) = none := by
  have hall : ∀ o ∈ operators, ∃ a p, o.1.toList = a :: p ∧ a ∈ operatorStarts := by
    simp [operators, operatorStarts]
  rw [operator?, Option.map_eq_none_iff, List.find?_eq_none]
  -- an operator that starts the text starts with its first character
  intro o ho hpre
  obtain ⟨a, p, hp, ha⟩ := hall o ho
  rw [hp, List.isPrefixOf_cons_cons, Bool.and_eq_true, beq_iff_eq] at hpre
  exact hc (hpre.1 ▸ ha)

/-- No character of `startsName` is a digit: letters come after the digits. -/
private theorem not_isDigit_of_startsName (hc : startsName c = true) : c.isDigit = false := by
  have hge : 58 ≤ c.toNat := by
    rw [startsName, Bool.or_eq_true, beq_iff_eq] at hc
    rcases hc with hc | rfl
    · obtain ⟨r, hr, hle, -⟩ := (Text.isAlphabetic_iff c).mp hc
      have hascending : Text.alphabeticRanges.ascendingFrom 58 = true := by decide +kernel
      exact (Text.CodeRanges.le_start_of_mem hascending r hr).trans hle
    · decide
  simp only [Char.isDigit, Bool.and_eq_false_iff, decide_eq_false_iff_not]
  right
  show ¬ c.toNat ≤ 57
  omega

/-- Of the ways to find a lexeme, a quote leaves `quoted?` only. -/
theorem lexeme?_of_quote (cs : List Char) : lexeme? ('"' :: cs) = quoted? ('"' :: cs) := by
  have hoperator : operator? ('"' :: cs) = none := operator?_eq_none (by decide) cs
  have hnumber : number? ('"' :: cs) = none := rfl
  have hword : word? ('"' :: cs) = none := rfl
  rw [lexeme?, hoperator, hnumber, hword, Option.none_or, Option.or_none, Option.or_none]

/-- Of the ways to find a lexeme, a digit leaves `number?` only, which always finds one. -/
private theorem lexeme?_of_isDigit (hc : c.isDigit = true) (cs : List Char) :
    lexeme? (c :: cs) = some (.number, numberLength (c :: cs)) := by
  have hstart : c ∉ operatorStarts := by
    have hall : operatorStarts.all (fun a => !a.isDigit) = true := by decide
    intro hmem
    simpa [hc] using List.all_eq_true.mp hall c hmem
  -- a digit is neither a quote nor the start of an operator
  have hquote : c ≠ '"' := by
    rintro rfl
    simp at hc
  rw [lexeme?, operator?_eq_none hstart, quoted?_eq_none hquote, number?, if_pos hc]
  rfl

/-- Of the ways to find a lexeme, a letter leaves `word?` only, which always finds one. -/
private theorem lexeme?_of_startsName (hc : startsName c = true) (cs : List Char) :
    lexeme? (c :: cs) =
      some (wordKind ((c :: cs).takeWhile continuesName),
        ((c :: cs).takeWhile continuesName).length) := by
  have hstart : c ∉ operatorStarts := by
    have hall : operatorStarts.all (fun a => !startsName a) = true := by decide +kernel
    intro hmem
    simpa [hc] using List.all_eq_true.mp hall c hmem
  -- a letter is neither a quote nor a digit nor the start of an operator
  have hquote : c ≠ '"' := by
    have hq : startsName '"' = false := by decide +kernel
    rintro rfl
    simp [hq] at hc
  have hdigit := not_isDigit_of_startsName hc
  rw [lexeme?, operator?_eq_none hstart, quoted?_eq_none hquote, number?, hdigit, word?, if_pos hc]
  rfl

/-! ### What is found is a lexeme -/

/-- Each of the `operators` is a lexeme of its class. -/
private theorem isLexeme_of_mem_operators {o : String × TokenKind} (ho : o ∈ operators) :
    o.2.IsLexeme o.1.toList := by
  revert o
  simp [operators, TokenKind.IsLexeme, TokenKind.Spells, Comparison.symbol]

/-- `quoted?` finds a quoted text up to the next quote. -/
private theorem quoted?_eq_some_iff {r : TokenKind × Nat} :
    quoted? cs = some r ↔
      ∃ body rest, '"' ∉ body ∧ cs = '"' :: body ++ '"' :: rest ∧ r = (.string, body.length + 2) := by
  constructor
  · intro h
    unfold quoted? at h
    split at h
    · rename_i cs
      obtain ⟨i, hi, rfl⟩ := Option.map_eq_some_iff.mp h
      obtain ⟨hlt, hquote, hbefore⟩ := List.findIdx?_eq_some_iff_getElem.mp hi
      refine ⟨cs.take i, cs.drop (i + 1), ?_, ?_, ?_⟩
      · intro hmem
        obtain ⟨j, hj, hjq⟩ := List.mem_take_iff_getElem.mp hmem
        exact hbefore j (by omega) (beq_iff_eq.mpr hjq)
      · rw [← beq_iff_eq.mp hquote, List.cons_append, List.getElem_cons_drop, List.take_append_drop]
      · rw [List.length_take, Nat.min_eq_left hlt.le]
    · exact nomatch h
  · rintro ⟨body, rest, hbody, rfl, rfl⟩
    have hnone : body.findIdx? (· == '"') = none := by
      rw [List.findIdx?_eq_none_iff]
      intro c hc
      exact beq_eq_false_iff_ne.mpr (fun heq => hbody (heq ▸ hc))
    simp [quoted?, List.findIdx?_append, hnone, List.findIdx?_cons]

/-- `numberLength` counts the digits at the start of a text, with a point among them, which are a
numeral. -/
private theorem exists_numeral (hc : c.isDigit = true) (cs : List Char) :
    ∃ word, word <+: c :: cs ∧ numberLength (c :: cs) = word.length ∧ IsNumeral word := by
  have hwhole : ∀ d ∈ (c :: cs).takeWhile Char.isDigit, d.isDigit = true :=
    fun _ => List.mem_takeWhile_imp
  have hne : (c :: cs).takeWhile Char.isDigit ≠ [] := by simp [hc]
  simp only [numberLength]
  split
  · -- the point is followed by the digits that are left
    rename_i rest hrest
    refine ⟨(c :: cs).takeWhile Char.isDigit ++ '.' :: rest.takeWhile Char.isDigit, ?_, ?_, ?_⟩
    · conv_rhs => rw [← List.takeWhile_append_dropWhile (p := Char.isDigit) (l := c :: cs), hrest]
      rw [List.prefix_append_right_inj, List.cons_prefix_cons]
      exact ⟨rfl, List.takeWhile_prefix _⟩
    · rw [List.length_append, List.length_cons]
      omega
    · exact ⟨_, hne, hwhole, .inr ⟨_, fun _ => List.mem_takeWhile_imp, rfl⟩⟩
  · exact ⟨_, List.takeWhile_prefix _, rfl, _, hne, hwhole, .inl rfl⟩

/-- A word is a lexeme of the class that `wordKind` gives it, a keyword or an identifier. -/
private theorem isLexeme_wordKind (h : IsWord word) : (wordKind word).IsLexeme word := by
  unfold wordKind
  split
  · rename_i hbool
    rcases hbool with rfl | rfl
    · exact .inl String.ofList_toList
    · exact .inr String.ofList_toList
  · rename_i hbool
    split
    · rename_i hnull
      subst hnull
      exact String.ofList_toList
    · rename_i hnull
      exact ⟨h, fun h => hbool (.inl h), fun h => hbool (.inr h), hnull⟩

/-- `continuesName` holds of the characters of a word, from its first letter on. -/
private theorem isWord_takeWhile (hc : startsName c = true) (cs : List Char) :
    IsWord ((c :: cs).takeWhile continuesName) := by
  refine ⟨c, cs.takeWhile continuesName, ?_, hc, fun _ => List.mem_takeWhile_imp⟩
  rw [List.takeWhile_cons_of_pos (continuesName_of_startsName hc)]

end Lexeme

section

variable {cs : List Char} {kind : TokenKind} {n : Nat}

/-- `lexeme?` finds a first part of the text that is a lexeme of its class. -/
theorem exists_prefix_of_lexeme? (h : lexeme? cs = some (kind, n)) :
    ∃ word, word <+: cs ∧ n = word.length ∧ kind.IsLexeme word := by
  simp only [lexeme?, Option.or_eq_some_iff] at h
  -- the four ways to find a lexeme, in their order
  rcases h with h | ⟨-, h | ⟨-, h | ⟨-, h⟩⟩⟩
  · simp only [operator?, Option.map_eq_some_iff, Prod.mk.injEq] at h
    obtain ⟨o, ho, rfl, rfl⟩ := h
    have hpre := List.find?_some ho
    exact ⟨o.1.toList, List.isPrefixOf_iff_prefix.mp hpre, String.length_toList.symm,
      isLexeme_of_mem_operators (List.mem_of_find?_eq_some ho)⟩
  · obtain ⟨body, rest, hbody, rfl, hr⟩ := quoted?_eq_some_iff.mp h
    cases hr
    exact ⟨'"' :: body ++ ['"'], ⟨rest, by simp⟩, by simp, body, hbody, rfl⟩
  · cases cs with
    | nil => simp [number?] at h
    | cons c cs =>
      rw [number?, Option.ite_none_right_eq_some, Option.some.injEq, Prod.mk.injEq] at h
      obtain ⟨hc, rfl, rfl⟩ := h
      exact exists_numeral hc cs
  · cases cs with
    | nil => simp [word?] at h
    | cons c cs =>
      simp only [word?, Option.ite_none_right_eq_some, Option.some.injEq, Prod.mk.injEq] at h
      obtain ⟨hc, rfl, rfl⟩ := h
      exact ⟨_, List.takeWhile_prefix _, rfl, isLexeme_wordKind (isWord_takeWhile hc cs)⟩

/-- What `lexeme?` measures is a lexeme of its class. -/
theorem isLexeme_of_lexeme? (h : lexeme? cs = some (kind, n)) : kind.IsLexeme (cs.take n) := by
  obtain ⟨word, hpre, rfl, hword⟩ := exists_prefix_of_lexeme? h
  rwa [← List.prefix_iff_eq_take.mp hpre]

/-- A lexeme that `lexeme?` finds lies within the text. -/
theorem lexeme?_le (h : lexeme? cs = some (kind, n)) : n ≤ cs.length := by
  obtain ⟨word, hpre, rfl, -⟩ := exists_prefix_of_lexeme? h
  exact hpre.length_le

/-- `lexeme?` never finds the end of input. -/
theorem lexeme?_ne_eof (h : lexeme? cs = some (kind, n)) : kind ≠ .eof := by
  rintro rfl
  exact isLexeme_of_lexeme? h

/-- `lexeme?` finds a first part of the text that holds its first character. -/
theorem exists_append_of_lexeme? {c : Char} (h : lexeme? (c :: cs) = some (kind, n)) :
    ∃ word tail, c :: cs = c :: word ++ tail ∧ (c :: word).length = n := by
  obtain ⟨word, ⟨tail, htail⟩, rfl, -⟩ := exists_prefix_of_lexeme? h
  cases word with
  | nil => exact absurd (lexeme?_pos h) (Nat.lt_irrefl 0)
  | cons d word =>
    rw [List.cons_append, List.cons.injEq] at htail
    obtain ⟨rfl, rfl⟩ := htail
    exact ⟨word, tail, rfl, rfl⟩

end

/-! ### No lexeme is longer than what is found -/

namespace Lexeme

variable {cs word : List Char} {kind : TokenKind}

/-- The lexeme at the start of `cs` is the given one, or a longer one. -/
def Finds (cs : List Char) (kind : TokenKind) (word : List Char) : Prop :=
  lexeme? cs = some (kind, word.length) ∨ ∃ r, lexeme? cs = some r ∧ word.length < r.2

/-- `Finds` an operator at the start: the first one in the table is the longest. -/
private theorem finds_operator {o : String × TokenKind} (ho : o ∈ operators) (hpre : o.1.toList <+: cs) :
    Finds cs o.2 o.1.toList := by
  have hlonger : operators.Pairwise fun a b => b.1.length ≤ a.1.length ∧ a.1 ≠ b.1 := by decide
  -- some operator is found, since this one starts the text
  obtain ⟨p, hp⟩ : ∃ p, operators.find? (fun o => o.1.toList.isPrefixOf cs) = some p := by
    rw [← Option.isSome_iff_exists, List.find?_isSome]
    exact ⟨o, ho, List.isPrefixOf_iff_prefix.mpr hpre⟩
  have hfound : lexeme? cs = some (p.2, p.1.length) := by
    rw [lexeme?, operator?, hp]
    rfl
  obtain ⟨hppre, before, after, hsplit, hbefore⟩ := List.find?_eq_some_iff_append.mp hp
  rw [hsplit] at ho hlonger
  rcases List.mem_append.mp ho with hmem | hmem
  · -- no operator before the one that is found starts the text
    simpa [List.isPrefixOf_iff_prefix.mpr hpre] using hbefore o hmem
  · rcases List.mem_cons.mp hmem with rfl | hmem
    · left
      rw [hfound, String.length_toList]
    · right
      refine ⟨_, hfound, ?_⟩
      have hlater := List.rel_of_pairwise_cons (List.pairwise_append.mp hlonger).2.1 hmem
      rw [String.length_toList]
      refine lt_of_le_of_ne hlater.1 fun hlen => hlater.2 ?_
      -- two of one length that start the text are one
      have hpp : p.1.toList <+: cs := List.isPrefixOf_iff_prefix.mp hppre
      have heq : o.1.toList.length = p.1.toList.length := by
        rw [String.length_toList, String.length_toList, hlen]
      have := (List.prefix_of_prefix_length_le hpre hpp heq.le).eq_of_length heq
      exact String.toList_inj.mp this.symm

/-- `Finds` a quoted text at the start. -/
private theorem finds_quoted (hw : IsQuoted word) (hpre : word <+: cs) : Finds cs .string word := by
  obtain ⟨body, hbody, rfl⟩ := hw
  obtain ⟨rest, rfl⟩ := hpre
  left
  rw [List.cons_append, List.cons_append, lexeme?_of_quote, quoted?_eq_some_iff]
  exact ⟨body, rest, hbody, by simp, by simp⟩

/-- No numeral at the start is longer than `numberLength` says. -/
private theorem length_le_numberLength (hw : IsNumeral word) (hpre : word <+: cs) :
    word.length ≤ numberLength cs := by
  obtain ⟨whole, -, hwhole, rfl | ⟨frac, hfrac, rfl⟩⟩ := hw
  · obtain ⟨rest, rfl⟩ := hpre
    simp only [numberLength, List.takeWhile_append_of_pos hwhole, List.length_append]
    split <;> omega
  · -- the point ends the first digits
    obtain ⟨rest, rfl⟩ := hpre
    have htake : (whole ++ '.' :: (frac ++ rest)).takeWhile Char.isDigit = whole := by
      rw [takeWhile_append_cons (by decide)]
      simpa using hwhole
    have hdrop : (whole ++ '.' :: (frac ++ rest)).dropWhile Char.isDigit = '.' :: (frac ++ rest) := by
      rw [dropWhile_append_cons (by decide)]
      simpa using hwhole
    rw [List.append_assoc, List.cons_append, numberLength, htake, hdrop]
    simp only [List.takeWhile_append_of_pos hfrac, List.length_append, List.length_cons]
    omega

/-- `Finds` a numeral at the start, unless a longer one is there. -/
private theorem finds_numeral (hw : IsNumeral word) (hpre : word <+: cs) : Finds cs .number word := by
  have hlen := length_le_numberLength hw hpre
  have hdigit : ∃ c tail, cs = c :: tail ∧ c.isDigit = true := by
    obtain ⟨whole, hne, hwhole, hword⟩ := hw
    obtain ⟨c, more, rfl⟩ := List.exists_cons_of_ne_nil hne
    have hc := hwhole c List.mem_cons_self
    obtain ⟨rest, rfl⟩ := hpre
    rcases hword with rfl | ⟨frac, -, rfl⟩
    · exact ⟨c, _, rfl, hc⟩
    · exact ⟨c, _, rfl, hc⟩
  obtain ⟨c, tail, rfl, hc⟩ := hdigit
  have hfound := lexeme?_of_isDigit hc tail
  -- digits may follow, and then a longer numeral is found
  rcases hlen.lt_or_eq with hlt | heq
  · exact .inr ⟨_, hfound, hlt⟩
  · exact .inl (heq ▸ hfound)

/-- `Finds` a word at the start, unless a longer one is there. -/
private theorem finds_word (hw : IsWord word) (hpre : word <+: cs) : Finds cs (wordKind word) word := by
  obtain ⟨c, tail, rfl, hc, htail⟩ := hw
  obtain ⟨rest, rfl⟩ := hpre
  have hall : ∀ d ∈ c :: tail, continuesName d = true :=
    List.forall_mem_cons.mpr ⟨continuesName_of_startsName hc, htail⟩
  have hfound := lexeme?_of_startsName hc (tail ++ rest)
  rw [← List.cons_append, List.takeWhile_append_of_pos hall] at hfound
  cases hrun : rest.takeWhile continuesName with
  | nil =>
    rw [hrun, List.append_nil] at hfound
    exact .inl hfound
  | cons d run =>
    -- the word goes on
    refine .inr ⟨_, hfound, ?_⟩
    simp only [hrun, List.length_append, List.length_cons]
    omega

/-- `Finds` an operator or a punctuation mark at the start, unless a longer one is there. -/
private theorem finds_symbol {text : String} (hw : String.ofList word = text)
    (ho : (text, kind) ∈ operators) (hpre : word <+: cs) : Finds cs kind word := by
  subst hw
  have hpre' : (String.ofList word).toList <+: cs := by rwa [String.toList_ofList]
  have h := finds_operator ho hpre'
  rwa [String.toList_ofList] at h

end Lexeme

namespace TokenKind.IsLexeme

variable {kind kind' : TokenKind} {word cs : List Char}

/-- A lexeme that starts a text is found, unless a longer one is (`Finds`). -/
theorem found (h : kind.IsLexeme word) (hpre : word <+: cs) : Finds cs kind word := by
  -- by the class of the lexeme, each with its own way to be found
  cases kind with
  | identifier =>
    obtain ⟨hw, htrue, hfalse, hnull⟩ := h
    have hkind : wordKind word = .identifier := by
      rw [wordKind, if_neg (not_or.mpr ⟨htrue, hfalse⟩), if_neg hnull]
    exact hkind ▸ finds_word hw hpre
  | boolean =>
    -- the keywords are words
    rcases h with h | h <;> rw [← String.toList_inj, String.toList_ofList] at h <;> subst h
    · exact finds_word isWord_true hpre
    · exact finds_word isWord_false hpre
  | null =>
    replace h : String.ofList word = "null" := h
    rw [← String.toList_inj, String.toList_ofList] at h
    subst h
    exact finds_word isWord_null hpre
  | string => exact finds_quoted h hpre
  | number => exact finds_numeral h hpre
  | comparison op => exact finds_symbol h (by cases op <;> simp [operators, Comparison.symbol]) hpre
  | and | or | not | lparen | rparen | comma => exact finds_symbol h (by simp [operators]) hpre
  | eof => exact h.elim

/-- `lexeme?` finds something at least as long as any lexeme at the start of the text. -/
theorem length_le (h : kind.IsLexeme word) (hpre : word <+: cs) :
    ∃ r, lexeme? cs = some r ∧ word.length ≤ r.2 := by
  rcases h.found hpre with hfound | ⟨r, hfound, hlt⟩
  · exact ⟨_, hfound, le_rfl⟩
  · exact ⟨r, hfound, hlt.le⟩

/-- `lexeme?` finds a lexeme that stands alone as a whole, with its class. -/
theorem lexeme?_eq (h : kind.IsLexeme word) : lexeme? word = some (kind, word.length) := by
  rcases h.found (List.prefix_refl word) with hfound | ⟨⟨kind', n⟩, hfound, hlt⟩
  · exact hfound
  · have hle := lexeme?_le hfound
    exact absurd hlt (Nat.not_lt.mpr hle)

/-- `IsLexeme` holds of no empty text. -/
theorem ne_nil (h : kind.IsLexeme word) : word ≠ [] :=
  List.length_pos_iff.mp (lexeme?_pos h.lexeme?_eq)

/-- `IsLexeme` texts are those that the class spells. -/
theorem spells (h : kind.IsLexeme word) : kind.Spells (String.ofList word) := by
  have hne : String.ofList word ≠ "" := by
    intro hempty
    rw [← String.toList_inj, String.toList_ofList] at hempty
    exact h.ne_nil hempty
  cases kind with
  | identifier | string | number => exact hne
  | eof => exact h.elim
  | _ => exact h

/-- `IsLexeme` holds of a text for one class only. -/
theorem unique (h : kind.IsLexeme word) (h' : kind'.IsLexeme word) : kind = kind' := by
  have heq := h.lexeme?_eq.symm.trans h'.lexeme?_eq
  exact congrArg Prod.fst (Option.some.inj heq)

end TokenKind.IsLexeme

end RecordFilter
