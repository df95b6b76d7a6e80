import Mathlib.Data.List.Find
import RecordFilter.Token.Lexeme
/-!
# How far a lexeme reaches

What follows a lexeme can only change it by being part of it: a character that continues no operator,
no number and no word (`Lexeme.Separates`) may be appended, with any text after it, and the lexeme at
the start stays the same (`lexeme?_append`).
-/

namespace RecordFilter

/-! ### Runs of characters before another one -/

/-- `takeWhile` ends before a character that it does not take, whatever follows. -/
theorem takeWhile_append_cons {p : Char → Bool} {d : Char} (hd : p d = false)
    (cs rest : List Char) : (cs ++ d :: rest).takeWhile p = cs.takeWhile p := by
  induction cs with
  | nil => simp [hd]
  | cons c cs ih =>
    by_cases hc : p c = true
    · simp [hc, ih]
    · simp [hc]

/-- `dropWhile` ends before a character that it does not take, whatever follows. -/
theorem dropWhile_append_cons {p : Char → Bool} {d : Char} (hd : p d = false)
    (cs rest : List Char) : (cs ++ d :: rest).dropWhile p = cs.dropWhile p ++ d :: rest := by
  induction cs with
  | nil => simp [hd]
  | cons c cs ih =>
    by_cases hc : p c = true
    · simp [hc, ih]
    · simp [hc]

/-- `isPrefixOf` does not look beyond a character that the prefix does not hold. -/
private theorem isPrefixOf_append_cons {p : List Char} {d : Char} (hd : d ∉ p) (cs rest : List Char) :
    p.isPrefixOf (cs ++ d :: rest) = p.isPrefixOf cs := by
  induction p generalizing cs with
  | nil => rfl
  | cons a p ih =>
    rw [List.mem_cons, not_or] at hd
    -- the text ends, and the prefix would go on with the character; or both go on
    cases cs with
    | nil =>
      have had : (a == d) = false := beq_eq_false_iff_ne.mpr (Ne.symm hd.1)
      rw [List.nil_append, List.isPrefixOf_cons_cons, had, Bool.false_and]
      rfl
    | cons c cs => rw [List.cons_append, List.isPrefixOf_cons_cons, List.isPrefixOf_cons_cons, ih hd.2]

/-! ### What follows a lexeme -/

namespace Lexeme

/-- The character continues no lexeme that it does not belong to. -/
structure Separates (d : Char) : Prop where
  /-- It does not end an operator of two characters. -/
  notOperator : d ≠ '&' ∧ d ≠ '|' ∧ d ≠ '='
  /-- It does not continue a number. -/
  notDigit : d.isDigit = false
  /-- It does not continue a word. -/
  notName : continuesName d = false

variable {d : Char}

/-- `operator?` finds the same before a separating character as at the end. -/
private theorem operator?_append (hd : Separates d) (c : Char) (cs rest : List Char) :
    operator? (c :: cs ++ d :: rest) = operator? (c :: cs) := by
  -- `d` may be an operator itself, but it does not continue one
  have htail : ∀ o ∈ operators, d ∉ o.1.toList.tail := by
    have hall : ∀ o ∈ operators, ∀ x ∈ o.1.toList.tail, x = '&' ∨ x = '|' ∨ x = '=' := by
      simp [operators]
    intro o ho hmem
    rcases hall o ho d hmem with h | h | h
    · exact hd.notOperator.1 h
    · exact hd.notOperator.2.1 h
    · exact hd.notOperator.2.2 h
  unfold operator?
  congr 1
  apply List.find?_congr
  intro o ho
  have hd := htail o ho
  cases hp : o.1.toList with
  | nil => rfl
  | cons a p =>
    rw [hp, List.tail_cons] at hd
    rw [List.cons_append, List.isPrefixOf_cons_cons, List.isPrefixOf_cons_cons, isPrefixOf_append_cons hd]

/-- `quoted?` finds a closed quoted text whatever follows. -/
private theorem quoted?_append {cs : List Char} {r : TokenKind × Nat} (h : quoted? cs = some r)
    (rest : List Char) : quoted? (cs ++ rest) = some r := by
  unfold quoted? at h
  split at h
  · rename_i cs
    obtain ⟨i, hi, rfl⟩ := Option.map_eq_some_iff.mp h
    simp only [List.cons_append, quoted?, List.findIdx?_append, hi, Option.some_or, Option.map_some]
  · simp at h

/-- `quoted?` finds nothing in a text that does not start with a quote. -/
theorem quoted?_eq_none {c : Char} (h : c ≠ '"') (cs : List Char) : quoted? (c :: cs) = none := by
  unfold quoted?
  split
  · rename_i heq
    exact absurd (List.cons.inj heq).1 h
  · rfl

/-- `numberLength` stops at a separating character. -/
private theorem numberLength_append (hd : Separates d) (cs rest : List Char) :
    numberLength (cs ++ d :: rest) = numberLength cs := by
  have hdot : d ≠ '.' := by
    rintro rfl
    simpa [continuesName] using hd.notName
  unfold numberLength
  rw [takeWhile_append_cons hd.notDigit, dropWhile_append_cons hd.notDigit]
  cases cs.dropWhile Char.isDigit with
  | nil =>
    -- the digits reach `d`, which is no point
    dsimp only [List.nil_append]
    split
    · rename_i heq
      exact absurd (List.cons.inj heq).1 hdot
    · rfl
  | cons c tail =>
    by_cases hc : c = '.'
    · subst hc
      show _ + 1 + ((tail ++ d :: rest).takeWhile Char.isDigit).length = _
      rw [takeWhile_append_cons hd.notDigit]
      rfl
    · simp [hc]

/-- `number?` finds the same before a separating character as at the end. -/
private theorem number?_append (hd : Separates d) (c : Char) (cs rest : List Char) :
    number? (c :: cs ++ d :: rest) = number? (c :: cs) := by
  rw [List.cons_append, number?, ← List.cons_append, numberLength_append hd]
  rfl

/-- `word?` finds the same before a separating character as at the end. -/
private theorem word?_append (hd : Separates d) (c : Char) (cs rest : List Char) :
    word? (c :: cs ++ d :: rest) = word? (c :: cs) := by
  rw [List.cons_append, word?, ← List.cons_append, takeWhile_append_cons hd.notName]
  rfl

end Lexeme

/-- `lexeme?` at the start of a text that is no quoted one gives the same when a separating character
and any text are appended. -/
theorem lexeme?_append_of_ne {d : Char} (hd : Lexeme.Separates d) {c : Char} (hc : c ≠ '"')
    (cs rest : List Char) : lexeme? (c :: cs ++ d :: rest) = lexeme? (c :: cs) := by
  have hquoted : Lexeme.quoted? (c :: cs ++ d :: rest) = none := Lexeme.quoted?_eq_none hc _
  rw [lexeme?, lexeme?, Lexeme.operator?_append hd, Lexeme.number?_append hd, Lexeme.word?_append hd,
    hquoted, Lexeme.quoted?_eq_none hc]

/-- `lexeme?` finds the same when a separating character and any text are appended. -/
theorem lexeme?_append {d : Char} (hd : Lexeme.Separates d) {cs : List Char} {r : TokenKind × Nat}
    (h : lexeme? cs = some r) (rest : List Char) : lexeme? (cs ++ d :: rest) = some r := by
  cases cs with
  | nil => cases h
  | cons c cs =>
    by_cases hc : c = '"'
    · subst hc
      -- a quote starts neither a number nor a word
      have hnumber : Lexeme.number? ('"' :: cs) = none := rfl
      have hword : Lexeme.word? ('"' :: cs) = none := rfl
      simp only [lexeme?, Option.or_eq_some_iff] at h ⊢
      rw [Lexeme.operator?_append hd]
      refine h.imp_right (And.imp_right ?_)
      rintro (h | ⟨-, h⟩)
      · exact .inl (Lexeme.quoted?_append h _)
      · simp [hnumber, hword] at h
    · rw [lexeme?_append_of_ne hd hc, h]

end RecordFilter
