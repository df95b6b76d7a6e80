import RecordFilter.Proofs.BlankCharacters
import RecordFilter.Proofs.Composition
import RecordFilter.Proofs.ExprPlaces
/-!
# Texts that are read as given tokens

`ReadsLike rest cs ts` says that the characters `cs` are read as tokens like `ts` wherever they stand
before `rest`.  Offsets do not count here, so the parts of a text can be put together without them
(`ReadsLike.append`).  A source that is read like tokens is the expression that these derive, but for
offsets (`Expr.exists_ofSource`), and none if they derive none (`Expr.exists_orExpr`).
-/

namespace RecordFilter

open Grammar

/-- The characters are read as tokens like the given ones, wherever they stand before `rest`. -/
def ReadsLike (rest cs : List Char) (ts : List Token) : Prop :=
  ∀ offset, ∃ us, Lexes rest offset cs us ∧ List.Forall₂ Token.Alike ts us

namespace ReadsLike

variable {rest cs ds : List Char} {ts us : List Token} {c : Char} {kind : TokenKind}
  {word : List Char}

/-- `ReadsLike` of no characters: no tokens. -/
theorem nil : ReadsLike rest [] [] := fun _ => ⟨[], .done, .nil⟩

/-- `ReadsLike` of two texts, one after the other. -/
theorem append (h : ReadsLike (ds ++ rest) cs ts) (h' : ReadsLike rest ds us) :
    ReadsLike rest (cs ++ ds) (ts ++ us) := by
  intro offset
  obtain ⟨ts', hts, halike⟩ := h offset
  -- the second text is read at whatever offset the first one leaves it
  obtain ⟨us', hus, halike'⟩ := h' (offset + cs.length)
  exact ⟨ts' ++ us', hts.append hus, List.rel_append halike halike'⟩

/-- `ReadsLike` of a blank: no token. -/
theorem blank (hc : Text.isBlank c = true) : ReadsLike rest [c] [] :=
  fun _ => ⟨[], .blank hc .done, .nil⟩

/-- `ReadsLike` of a text that `lexeme?` takes whole: one token. -/
theorem single (hc : Text.isBlank c = false)
    (hw : lexeme? (c :: word ++ rest) = some (kind, (c :: word).length)) :
    ReadsLike rest (c :: word) [⟨kind, String.ofList (c :: word), 0⟩] :=
  fun _ => ⟨_, .single hc hw, .cons ⟨rfl, rfl⟩ .nil⟩

end ReadsLike

/-- The characters are read as tokens like the given ones wherever they stand at the end of a text, or
before a separating character. -/
def ReadsApart (cs : List Char) (ts : List Token) : Prop :=
  ∀ rest : List Char, (∀ d ∈ rest.head?, Lexeme.Separates d) → ReadsLike rest cs ts

/-- `ReadsApart` of a lexeme: one token. -/
theorem ReadsApart.lexeme {kind : TokenKind} {text : String} (h : kind.IsLexeme text.toList) :
    ReadsApart text.toList [⟨kind, text, 0⟩] :=
  fun _ hrest offset => ⟨_, h.lexes hrest offset, .cons ⟨rfl, String.ofList_toList.symm⟩ .nil⟩

/-! ### Operators and punctuation marks -/

/-- `Lexeme.Separates` holds of the opening parenthesis. -/
theorem separates_lparen : Lexeme.Separates '(' := ⟨by decide, rfl, rfl⟩

/-- `Lexeme.Separates` holds of the comma. -/
theorem separates_comma : Lexeme.Separates ',' := ⟨by decide, rfl, rfl⟩

namespace ReadsLike

variable {rest : List Char}

/-- `ReadsLike` for an opening parenthesis, whatever follows. -/
theorem lparen : ReadsLike rest ['('] [⟨.lparen, "(", 0⟩] := single rfl rfl

/-- `ReadsLike` for a closing parenthesis, whatever follows. -/
theorem rparen : ReadsLike rest [')'] [⟨.rparen, ")", 0⟩] := single rfl rfl

/-- `ReadsLike` of a prefix, which must not stand before what makes it another operator. -/
theorem not (hrest : rest.head? ≠ some '=') : ReadsLike rest ['!'] [⟨.not, "!", 0⟩] := by
  refine single rfl ?_
  cases rest with
  | nil => rfl
  | cons d rest =>
    -- the operators that start with the prefix go on with an equals sign
    have hd : ('=' == d) = false := beq_eq_false_iff_ne.mpr fun h => hrest (congrArg some h.symm)
    simp [lexeme?, Lexeme.operator?, Lexeme.operators, List.find?, List.isPrefixOf, hd]
    rfl

/-- `ReadsLike` of a comma and the blank after it. -/
theorem comma : ReadsLike rest [',', ' '] [⟨.comma, ",", 0⟩] := by
  have hcomma : ReadsLike ([' '] ++ rest) [','] [⟨.comma, ",", 0⟩] := single rfl rfl
  exact hcomma.append (blank rfl)

/-- `ReadsLike` of a connective between blanks. -/
theorem connective (op : Connective) :
    ReadsLike rest (' ' :: (op.symbol.toList ++ [' '])) [⟨op.kind, op.symbol, 0⟩] :=
  fun offset => ⟨_, lexes_connective op rest offset, .cons ⟨rfl, rfl⟩ .nil⟩

/-- `ReadsLike` of a comparison operator between blanks. -/
theorem comparison (op : Comparison) :
    ReadsLike rest (' ' :: (op.symbol.toList ++ [' '])) [⟨.comparison op, op.symbol, 0⟩] := by
  -- with a blank behind it no longer operator is read
  have hop : ReadsLike ([' '] ++ rest) op.symbol.toList [⟨.comparison op, op.symbol, 0⟩] := by
    cases op with
    | eq | ne | gt | ge | lt | le => exact single rfl rfl
  have hblank : ReadsLike (op.symbol.toList ++ [' '] ++ rest) [' '] [] := blank rfl
  exact hblank.append (hop.append (blank rfl))

/-- `ReadsLike` of two texts with an operator between them, in parentheses. -/
theorem parenthesized {l r symbol : String} {ls rs : List Token} {t : Token}
    (hl : ReadsApart l.toList ls)
    (ht : ∀ rest, ReadsLike rest (' ' :: (symbol.toList ++ [' '])) [t])
    (hr : ReadsApart r.toList rs) :
    ReadsLike rest ("(" ++ l ++ " " ++ symbol ++ " " ++ r ++ ")").toList
      (⟨.lparen, "(", 0⟩ :: (ls ++ t :: rs ++ [⟨.rparen, ")", 0⟩])) := by
  have hblank : Lexeme.Separates ' ' := Lexeme.separates_of_isBlank rfl
  -- the operator starts and ends with a blank, and the right text stands before the parenthesis
  have hright : ReadsLike ([')'] ++ rest) r.toList rs := hr _ (by simpa using separates_rparen)
  have hleft : ReadsLike (' ' :: (symbol.toList ++ [' ']) ++ (r.toList ++ [')']) ++ rest)
      l.toList ls := hl _ (by simpa using hblank)
  have hread := lparen.append (hleft.append ((ht _).append (hright.append rparen)))
  simpa using hread

end ReadsLike

/-! ### Literals -/

namespace Literal

/-- The class of the token that a literal is written as. -/
def kind : Literal → TokenKind
  | string _ => .string
  | number _ => .number
  | bool _ => .boolean
  | null => .null

/-- The text of a literal is one token of its class. -/
def IsWritable (value : Literal) : Prop := value.kind.IsLexeme value.text.toList

/-- `Token.IsLiteral` of the token that is written as a literal. -/
theorem isLiteral (value : Literal) (offset : Nat) :
    Token.IsLiteral ⟨value.kind, value.text, offset⟩ value := by
  cases value with
  | string s => exact .string rfl rfl
  | number n => exact .number (t := ⟨.number, n, offset⟩) rfl
  | bool b =>
    have h := Token.IsLiteral.boolean (t := ⟨.boolean, boolText b, offset⟩) rfl
    cases b <;> exact h
  | null => exact .null rfl

/-- `IsWritable` holds of texts without quotes. -/
theorem isWritable_string {s : String} (h : '"' ∉ s.toList) : (string s).IsWritable :=
  ⟨s.toList, h, by simp [text]⟩

/-- The literal `null` is written as itself. -/
theorem isWritable_null : null.IsWritable := rfl

end Literal

/-! ### Sources -/

namespace Expr

variable {source : String} {ts : List Token} {e : Expr}

/-- `ofSource` gives the expression that the tokens of a source derive. -/
theorem ofSource_eq_ok_iff :
    ofSource source = .ok e ↔ ∃ ts, Lexes [] 0 source.toList ts ∧ OrExpr ts e := by
  unfold ofSource
  simp only [Except.bind_eq_ok_iff, Except.mapError_eq_ok_iff, tokenize_eq_ok_iff]
  constructor
  · rintro ⟨_, ⟨ts, hts, rfl⟩, hparse⟩
    have he := parse_sound hparse
    -- the parser stops before the end of input
    rw [beforeEnd_concat hts.ne_eof rfl] at he
    exact ⟨ts, hts, he⟩
  · rintro ⟨ts, hts, he⟩
    refine ⟨_, ⟨ts, hts, rfl⟩, parse_complete ?_⟩
    rwa [beforeEnd_concat hts.ne_eof rfl]

/-- `ofSource` gives what the tokens that a text is read like derive. -/
theorem exists_ofSource (h : ReadsLike [] source.toList ts) (he : OrExpr ts e) :
    ∃ e', ofSource source = .ok e' ∧ e.Alike e' := by
  obtain ⟨us, hus, halike⟩ := h 0
  -- tokens that are alike derive alike expressions
  obtain ⟨e', he', hee'⟩ := he.exists_alike halike
  exact ⟨e', ofSource_eq_ok_iff.mpr ⟨us, hus, he'⟩, hee'⟩

/-- `ofSource` only gives an expression if the tokens that the source is read like derive one. -/
theorem exists_orExpr (h : ReadsLike [] source.toList ts) (he : ofSource source = .ok e) :
    ∃ e', OrExpr ts e' ∧ e.Alike e' := by
  obtain ⟨us, hus, halike⟩ := h 0
  obtain ⟨us', hus', hderive⟩ := ofSource_eq_ok_iff.mp he
  -- a source has one list of tokens, so those that it is read like are alike to these
  have huniq : us' ++ [⟨.eof, "", source.length⟩] = us ++ [⟨.eof, "", source.length⟩] := by
    have htokens := tokenize_eq_ok_iff.mpr ⟨us', hus', rfl⟩
    rw [tokenize_eq_ok_iff.mpr ⟨us, hus, rfl⟩] at htokens
    exact (Except.ok.inj htokens).symm
  obtain rfl := List.append_cancel_right huniq
  exact hderive.exists_alike (halike.flip.imp fun _ _ h => h.symm)

end Expr

section

variable {schema : Schema} {root : RecordId} {source : String} {ts : List Token} {e e' : Expr}
  {p : Predicate}

/-- `compile` reads an expression with `Expr.ofSource` and plans it as a filter. -/
private theorem compile_eq_ok_iff_ofSource :
    compile schema root source = .ok p ↔
      ∃ e, Expr.ofSource source = .ok e ∧ planFilter schema root e = .ok p.plan := by
  rw [compile_eq_ok_iff]
  constructor
  · rintro ⟨ts, e, hts, he, hplan⟩
    exact ⟨e, Expr.ofSource_eq_ok_iff.mpr ⟨ts, hts, he⟩, hplan⟩
  · rintro ⟨e, he, hplan⟩
    obtain ⟨ts, hts, he⟩ := Expr.ofSource_eq_ok_iff.mp he
    exact ⟨ts, e, hts, he, hplan⟩

/-- `planFilter` makes the same filter of alike expressions. -/
private theorem planFilter_eq_ok_of_alike {plan : Plan} (h : e.Alike e')
    (hplan : planFilter schema root e = .ok plan) : planFilter schema root e' = .ok plan := by
  have hrel : Except.Rel ElaborationError.Alike Eq (planFilter schema root e)
      (planFilter schema root e') := planFilter_alike h
  rw [hplan] at hrel
  obtain ⟨plan', hplan', rfl⟩ := hrel.exists_ok
  exact hplan'

/-- `compile` makes of a source what its tokens are as a filter, wherever they stand. -/
theorem compile_eq_ok_iff_planFilter (h : ReadsLike [] source.toList ts) (he : OrExpr ts e) :
    compile schema root source = .ok p ↔ planFilter schema root e = .ok p.plan := by
  rw [compile_eq_ok_iff_ofSource]
  constructor
  · rintro ⟨x, hx, hplan⟩
    obtain ⟨e', he', halike⟩ := Expr.exists_orExpr h hx
    -- the tokens derive one expression only
    obtain rfl := he'.unique he
    exact planFilter_eq_ok_of_alike halike hplan
  · intro hplan
    obtain ⟨x, hx, halike⟩ := Expr.exists_ofSource h he
    exact ⟨x, hx, planFilter_eq_ok_of_alike halike hplan⟩

end

end RecordFilter
