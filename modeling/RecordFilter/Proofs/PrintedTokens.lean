import RecordFilter.Proofs.TokenReading
/-!
# The tokens of printed expressions

Names and literals of an expression that comes from a source are texts of tokens
(`Expr.IsWritable`).  Printed, such an expression is read as the tokens that its parts are written as
(`Expr.tokens`), wherever the text stands before a separating character
(`Expr.IsWritable.readsApart`).
-/

namespace RecordFilter

open Grammar

/-! ### Expressions of sources -/

/-- The names are a path that is written as one token. -/
structure IsWritablePath (names : List String) : Prop where
  ne_nil : names ≠ []
  segment : ∀ name ∈ names, IsSegment name
  lexeme : TokenKind.identifier.IsLexeme (".".intercalate names).toList

/-- `IsWritablePath` names are the path that their token reads as, wherever the token stands. -/
theorem IsWritablePath.isPath {names : List String} (h : IsWritablePath names) (offset : Nat) :
    Token.IsPath ⟨.identifier, ".".intercalate names, offset⟩ names :=
  ⟨rfl, h.ne_nil, rfl, h.segment⟩

/-- `IsWritablePath` names with a last one are written as the head of a call. -/
theorem IsWritablePath.isCallHead {target : List String} {method : String} (hne : target ≠ [])
    (h : IsWritablePath (target ++ [method])) :
    Token.IsCallHead ⟨.identifier, ".".intercalate target ++ "." ++ method, 0⟩
      ⟨target, 0, method, (".".intercalate target).length + 1⟩ where
  isPath := by
    rw [← intercalate_concat hne]
    exact h.isPath 0
  target_ne_nil := hne
  targetOffset := rfl
  methodOffset := by rw [Nat.zero_add]

/-- All paths and literals of the expression can be written as tokens; a call is written with its
target and its method in one token. -/
inductive Expr.IsWritable : Expr → Prop where
  | logical {op l r o} (hl : l.IsWritable) (hr : r.IsWritable) : IsWritable (.logical op l r o)
  | compare {op l r o} (hl : l.IsWritable) (hr : r.IsWritable) : IsWritable (.compare op l r o)
  | not {e o} (h : e.IsWritable) : IsWritable (.not e o)
  | path {names o} (h : IsWritablePath names) : IsWritable (.path names o)
  | literal {value o} (h : value.IsWritable) : IsWritable (.literal value o)
  | call {target method args o o'} (hne : target ≠ []) (h : IsWritablePath (target ++ [method]))
      (ha : ∀ e ∈ args, e.IsWritable) : IsWritable (.call (.path target o') method args o)

/-- The text of the token is one of its class. -/
def Token.IsWritten (t : Token) : Prop := t.kind.IsLexeme t.text.toList

/-- `Lexes` gives only tokens whose text is one of their class. -/
theorem Lexes.isWritten {rest cs : List Char} {offset : Nat} {ts : List Token}
    (h : Lexes rest offset cs ts) : ∀ t ∈ ts, t.IsWritten := by
  intro t ht
  obtain ⟨_, word, _, _, _, htext, hlexeme⟩ := h.exists_of_mem ht
  -- the token was made of the word that the lexer took
  have hword := isLexeme_of_lexeme? hlexeme
  rw [List.take_left] at hword
  rwa [Token.IsWritten, htext, String.toList_ofList]

namespace Grammar

variable {t : Token}

/-- `IsWritablePath` holds of the names that a written token reads as. -/
private theorem isWritablePath_of_isPath {names : List String} (h : t.IsPath names) (ht : t.IsWritten) :
    IsWritablePath names := by
  rw [Token.IsWritten, h.kind, ← h.text] at ht
  exact ⟨h.ne_nil, h.segment, ht⟩

/-- `Literal.IsWritable` holds of the literal that a written token reads as. -/
private theorem isWritable_of_isLiteral {value : Literal} (h : t.IsLiteral value) (ht : t.IsWritten) :
    value.IsWritable := by
  have hspells := TokenKind.IsLexeme.spells ht
  rw [String.ofList_toList] at hspells
  -- a literal has the class of its token, and its text
  have hkind : t.kind = value.kind := by
    cases h with
    | string hk _ => exact hk
    | number hk => exact hk
    | boolean hk => exact hk
    | null hk => exact hk
  rwa [Token.IsWritten, hkind, h.text hspells] at ht

/-- `Expr.IsWritable` holds of a call whose head is a written token if it holds of the arguments. -/
private theorem isWritable_of_isCallHead {head : CallHead} {args : List Expr} (h : t.IsCallHead head)
    (ht : t.IsWritten) (ha : ∀ e ∈ args, e.IsWritable) : (head.toExpr args).IsWritable :=
  .call h.target_ne_nil (isWritablePath_of_isPath h.isPath ht) ha

mutual

/-- `Expr.IsWritable` holds of what written tokens derive. -/
theorem OrExpr.isWritable {ts : List Token} {e : Expr} (h : OrExpr ts e)
    (hts : ∀ t ∈ ts, t.IsWritten) : e.IsWritable := by
  match h with
  | .and h => exact h.isWritable hts
  | .or hl _ hr =>
    rw [List.forall_mem_append, List.forall_mem_cons] at hts
    exact .logical (hl.isWritable hts.1) (hr.isWritable hts.2.2)

/-- `OrExpr.isWritable` for a conjunction. -/
theorem AndExpr.isWritable {ts : List Token} {e : Expr} (h : AndExpr ts e)
    (hts : ∀ t ∈ ts, t.IsWritten) : e.IsWritable := by
  match h with
  | .unary h => exact h.isWritable hts
  | .and hl _ hr =>
    rw [List.forall_mem_append, List.forall_mem_cons] at hts
    exact .logical (hl.isWritable hts.1) (hr.isWritable hts.2.2)

/-- `OrExpr.isWritable` for a negation or comparison. -/
theorem UnaryExpr.isWritable {ts : List Token} {e : Expr} (h : UnaryExpr ts e)
    (hts : ∀ t ∈ ts, t.IsWritten) : e.IsWritable := by
  match h with
  | .compare h => exact h.isWritable hts
  | .not _ h =>
    rw [List.forall_mem_cons] at hts
    exact .not (h.isWritable hts.2)

/-- `OrExpr.isWritable` for a comparison or primary. -/
theorem CompareExpr.isWritable {ts : List Token} {e : Expr} (h : CompareExpr ts e)
    (hts : ∀ t ∈ ts, t.IsWritten) : e.IsWritable := by
  match h with
  | .primary h => exact h.isWritable hts
  | .compare hl _ hr =>
    rw [List.forall_mem_append, List.forall_mem_cons] at hts
    exact .compare (hl.isWritable hts.1) (hr.isWritable hts.2.2)

/-- `OrExpr.isWritable` for a primary, where names and literals are. -/
theorem Primary.isWritable {ts : List Token} {e : Expr} (h : Primary ts e)
    (hts : ∀ t ∈ ts, t.IsWritten) : e.IsWritable := by
  match h with
  | .path ht =>
    rw [List.forall_mem_singleton] at hts
    exact .path (isWritablePath_of_isPath ht hts)
  | .literal ht =>
    rw [List.forall_mem_singleton] at hts
    exact .literal (isWritable_of_isLiteral ht hts)
  | .group _ h _ =>
    rw [List.forall_mem_cons, List.forall_mem_append] at hts
    exact h.isWritable hts.2.1
  | .emptyCall ht _ _ =>
    rw [List.forall_mem_cons] at hts
    exact isWritable_of_isCallHead ht hts.1 (List.forall_mem_nil _)
  | .call ht _ ha _ =>
    rw [List.forall_mem_cons, List.forall_mem_cons, List.forall_mem_append] at hts
    exact isWritable_of_isCallHead ht hts.1 (ha.isWritable hts.2.2.1)

/-- `OrExpr.isWritable` for each argument of a list. -/
theorem Args.isWritable {ts : List Token} {args : List Expr} (h : Args ts args)
    (hts : ∀ t ∈ ts, t.IsWritten) : ∀ e ∈ args, e.IsWritable := by
  match h with
  | .single h => exact List.forall_mem_singleton.mpr (h.isWritable hts)
  | .more ha _ h =>
    rw [List.forall_mem_append, List.forall_mem_cons] at hts
    rw [List.forall_mem_append, List.forall_mem_singleton]
    exact ⟨ha.isWritable hts.1, h.isWritable hts.2.2⟩

end

end Grammar

/-- What `Expr.ofSource` reads can be written. -/
theorem Expr.isWritable_of_ofSource {source : String} {e : Expr} (h : ofSource source = .ok e) :
    e.IsWritable := by
  obtain ⟨ts, hts, he⟩ := ofSource_eq_ok_iff.mp h
  exact he.isWritable hts.isWritten

/-! ### Tokens of expressions -/

namespace Expr

mutual

/-- The tokens that an expression is printed as. -/
def tokens : Expr → List Token
  | logical op left right _ =>
    ⟨.lparen, "(", 0⟩ ::
      (left.tokens ++ ⟨op.kind, op.symbol, 0⟩ :: right.tokens ++ [⟨.rparen, ")", 0⟩])
  | compare op left right _ =>
    ⟨.lparen, "(", 0⟩ ::
      (left.tokens ++ ⟨.comparison op, op.symbol, 0⟩ :: right.tokens ++ [⟨.rparen, ")", 0⟩])
  | not operand _ => ⟨.not, "!", 0⟩ :: operand.tokens
  | path names _ => [⟨.identifier, ".".intercalate names, 0⟩]
  | literal value _ => [⟨value.kind, value.text, 0⟩]
  | call target method args _ =>
    ⟨.identifier, target.text ++ "." ++ method, 0⟩ :: ⟨.lparen, "(", 0⟩ ::
      (tokensAll args ++ [⟨.rparen, ")", 0⟩])

/-- The tokens that expressions are printed as, with commas between them. -/
def tokensAll : List Expr → List Token
  | [] => []
  | [e] => e.tokens
  | e :: es => e.tokens ++ ⟨.comma, ",", 0⟩ :: tokensAll es

end

/-- `Expr.text` does not start with what makes a prefix another operator. -/
private theorem IsWritable.exists_head? {e : Expr} (h : e.IsWritable) :
    ∃ c, e.text.toList.head? = some c ∧ c ≠ '=' := by
  cases h with
  | logical _ _ => exact ⟨'(', by simp [text], by decide⟩
  | compare _ _ => exact ⟨'(', by simp [text], by decide⟩
  | not _ => exact ⟨'!', by simp [text], by decide⟩
  | path h => exact h.lexeme.exists_head?_ne fun _ => TokenKind.noConfusion
  | @literal value _ h =>
    refine TokenKind.IsLexeme.exists_head?_ne h fun _ => ?_
    cases value <;> exact TokenKind.noConfusion
  -- a call starts with the token of its path
  | @call target method args o o' hne h ha =>
    obtain ⟨c, hhead, hc⟩ := h.lexeme.exists_head?_ne fun _ => TokenKind.noConfusion
    rw [intercalate_concat hne] at hhead
    have htext : (Expr.call (.path target o') method args o).text.toList =
        (".".intercalate target ++ "." ++ method).toList ++ ("(" ++ textAll args ++ ")").toList := by
      simp [text]
    refine ⟨c, ?_, hc⟩
    rw [htext, List.head?_append, hhead]
    rfl

/-- `ReadsApart` of arguments, together: the comma behind each but the last separates it from what
follows. -/
private theorem readsApart_textAll {args : List Expr}
    (hargs : ∀ e ∈ args, ReadsApart e.text.toList e.tokens) :
    ReadsApart (textAll args).toList (tokensAll args) := by
  induction args with
  | nil => exact fun _ _ => .nil
  | cons e es ih =>
    rw [List.forall_mem_cons] at hargs
    cases es with
    | nil => exact hargs.1
    | cons e' es =>
      intro rest hrest
      -- the induction gives the later arguments; before them stand a comma and a blank
      have hothers := ih hargs.2 rest hrest
      have hfirst : ReadsLike ([',', ' '] ++ (textAll (e' :: es)).toList ++ rest) e.text.toList
          e.tokens := hargs.1 _ (by simpa using separates_comma)
      have hread := hfirst.append (ReadsLike.comma.append hothers)
      simpa [textAll, tokensAll] using hread

/-- `ReadsApart` of what is printed of a writable expression, as its tokens. -/
theorem IsWritable.readsApart {e : Expr} (h : e.IsWritable) :
    ReadsApart e.text.toList e.tokens := by
  induction h with
  | @logical op l r o hl hr ihl ihr =>
    exact fun _ _ => .parenthesized ihl (fun _ => .connective op) ihr
  | @compare op l r o hl hr ihl ihr =>
    exact fun _ _ => .parenthesized ihl (fun _ => .comparison op) ihr
  | @not e o h ih =>
    intro rest hrest
    -- the operand does not make `!=` of the prefix
    have hmark : ReadsLike (e.text.toList ++ rest) ['!'] [⟨.not, "!", 0⟩] := by
      obtain ⟨c, hhead, hc⟩ := h.exists_head?
      exact .not (by simpa [List.head?_append, hhead] using hc)
    have hread := hmark.append (ih rest hrest)
    simpa [text, tokens] using hread
  | @path names o h => exact .lexeme h.lexeme
  | @literal value o h => exact .lexeme h
  | @call target method args o o' hne h ha ih =>
    intro rest hrest
    -- the target and the method are one token
    have hpath := h.lexeme
    rw [intercalate_concat hne] at hpath
    have hargs : ReadsLike ([')'] ++ rest) (textAll args).toList (tokensAll args) :=
      readsApart_textAll ih _ (by simpa using separates_rparen)
    -- the parenthesis behind the head separates it from the arguments
    have hhead := ReadsApart.lexeme hpath (['('] ++ ((textAll args).toList ++ [')']) ++ rest)
      (by simpa using separates_lparen)
    have hread := hhead.append (ReadsLike.lparen.append (hargs.append .rparen))
    simpa [text, tokens] using hread

end Expr

end RecordFilter
