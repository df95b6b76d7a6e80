import RecordFilter.Token
import RecordFilter.Text.Alphabetic
import RecordFilter.Text.Numeric
/-!
# Lexemes

`lexeme?` gives the class and the length of the longest token at the start of a text.  It tries
the operators, longer ones first, then a quoted text, a number and a word; no two of these start
with the same character.  `lexeme?_pos` says that a token is never empty, so that cutting a text
into tokens comes to an end.
-/

namespace RecordFilter

namespace Lexeme

/-- The operators and punctuation marks, those of two characters first. -/
def operators : List (String × TokenKind) :=
  [("&&", .and), ("||", .or), ("==", .comparison .eq), ("!=", .comparison .ne),
   (">=", .comparison .ge), ("<=", .comparison .le), ("!", .not), (">", .comparison .gt),
   ("<", .comparison .lt), ("(", .lparen), (")", .rparen), (",", .comma)]

/-- An operator or punctuation mark at the start of the text. -/
def operator? (cs : List Char) : Option (TokenKind × Nat) :=
  (operators.find? fun o => o.1.toList.isPrefixOf cs).map fun o => (o.2, o.1.length)

/-- A text between double quotes at the start of the text; there are no escapes. -/
def quoted? : List Char → Option (TokenKind × Nat)
  | '"' :: cs => (cs.findIdx? (· == '"')).map fun i => (.string, i + 2)
  | _ => none

/-- The length of the digits at the start of the text, with at most one point among them. -/
def numberLength (cs : List Char) : Nat :=
  let whole := (cs.takeWhile Char.isDigit).length
  match cs.dropWhile Char.isDigit with
  | '.' :: rest => whole + 1 + (rest.takeWhile Char.isDigit).length
  | _ => whole

/-- A number at the start of the text. -/
def number? : List Char → Option (TokenKind × Nat)
  | [] => none
  | c :: cs => if c.isDigit then some (.number, numberLength (c :: cs)) else none

/-- The character can start a name. -/
def startsName (c : Char) : Bool := Text.isAlphabetic c || c == '_'

/-- The character can stand inside a name or between two names. -/
def continuesName (c : Char) : Bool :=
  Text.isAlphabetic c || Text.isNumeric c || c == '_' || c == '.'

/-- The class of a word. -/
def wordKind (word : List Char) : TokenKind :=
  if word = "true".toList ∨ word = "false".toList then .boolean
  else if word = "null".toList then .null
  else .identifier

/-- A word at the start of the text. -/
def word? : List Char → Option (TokenKind × Nat)
  | [] => none
  | c :: cs =>
    if startsName c then
      let word := (c :: cs).takeWhile continuesName
      some (wordKind word, word.length)
    else
      none

end Lexeme

/-- The class and the length of the token at the start of the text. -/
def lexeme? (cs : List Char) : Option (TokenKind × Nat) :=
  (Lexeme.operator? cs).or ((Lexeme.quoted? cs).or ((Lexeme.number? cs).or (Lexeme.word? cs)))

/-! ### Lexemes are not empty -/

namespace Lexeme

/-- An operator has at least one character. -/
theorem operator?_pos {cs : List Char} {kind : TokenKind} {n : Nat}
    (h : operator? cs = some (kind, n)) : 0 < n := by
  simp only [operator?, Option.map_eq_some_iff, Prod.mk.injEq] at h
  obtain ⟨o, ho, -, rfl⟩ := h
  have hall : ∀ o ∈ operators, 0 < o.1.length := by decide
  exact hall o (List.mem_of_find?_eq_some ho)

/-- A quoted text has its quotes. -/
theorem quoted?_pos {cs : List Char} {kind : TokenKind} {n : Nat}
    (h : quoted? cs = some (kind, n)) : 0 < n := by
  unfold quoted? at h
  split at h
  · simp only [Option.map_eq_some_iff, Prod.mk.injEq] at h
    obtain ⟨i, -, -, rfl⟩ := h
    omega
  · exact nomatch h

/-- A number has its first digit. -/
theorem number?_pos {cs : List Char} {kind : TokenKind} {n : Nat}
    (h : number? cs = some (kind, n)) : 0 < n := by
  cases cs with
  | nil => simp [number?] at h
  | cons c cs =>
    simp only [number?] at h
    split at h
    · rename_i hc
      simp only [Option.some.injEq, Prod.mk.injEq, numberLength] at h
      obtain ⟨-, rfl⟩ := h
      split
      · omega
      · simp [hc]
    · cases h

/-- What can start a name can stand inside it. -/
theorem continuesName_of_startsName {c : Char} (h : startsName c = true) :
    continuesName c = true := by
  simp only [startsName, Bool.or_eq_true] at h
  simp only [continuesName, Bool.or_eq_true]
  rcases h with h | h <;> simp [h]

/-- A word has its first character. -/
theorem word?_pos {cs : List Char} {kind : TokenKind} {n : Nat}
    (h : word? cs = some (kind, n)) : 0 < n := by
  cases cs with
  | nil => simp [word?] at h
  | cons c cs =>
    simp only [word?] at h
    split at h
    · rename_i hc
      simp only [Option.some.injEq, Prod.mk.injEq] at h
      obtain ⟨-, rfl⟩ := h
      simp [continuesName_of_startsName hc]
    · cases h

end Lexeme

/-- A token has at least one character. -/
theorem lexeme?_pos {cs : List Char} {kind : TokenKind} {n : Nat}
    (h : lexeme? cs = some (kind, n)) : 0 < n := by
  simp only [lexeme?, Option.or_eq_some_iff] at h
  rcases h with h | ⟨-, h | ⟨-, h | ⟨-, h⟩⟩⟩
  · exact Lexeme.operator?_pos h
  · exact Lexeme.quoted?_pos h
  · exact Lexeme.number?_pos h
  · exact Lexeme.word?_pos h

end RecordFilter
