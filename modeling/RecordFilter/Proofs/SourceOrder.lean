import RecordFilter.Proofs.ErrorLocality
/-!
# Expressions keep the words of their source

An expression that is gone along in the order of its source, an operator between its operands and the
target of a call before its arguments, gives texts with their offsets (`Expr.words`).  They are the
tokens but for parentheses and commas, which leave no node: one for each of these tokens, in the same
order (`OrExpr.words_eq` and its companions, one for each rule of the grammar).  The rules that read
repetitions from the left keep that order, since `words` puts the left operand first.

A call takes its target and its method out of one token; here they are joined again, at the offset of
the target.  The offset of the call itself is the one at which its method stands (`parse_words`).
-/

namespace RecordFilter

open Grammar

/-! ### Words of expressions -/

namespace Expr

mutual

/-- The texts of the nodes with their offsets, in the order of the source.  A call whose target is a
path is the joined path and the method, at the offset of the target. -/
def words : Expr → List (String × Nat)
  | logical op left right offset => left.words ++ (op.symbol, offset) :: right.words
  | compare op left right offset => left.words ++ (op.symbol, offset) :: right.words
  | not operand offset => ("!", offset) :: operand.words
  | path names offset => [(".".intercalate names, offset)]
  | literal value offset => [(value.text, offset)]
  | call (path names start) method args _ =>
    (".".intercalate names ++ "." ++ method, start) :: wordsAll args
  -- the grammar has no other target
  | call target method args offset => target.words ++ (method, offset) :: wordsAll args

/-- The words of expressions, one expression after the other. -/
def wordsAll : List Expr → List (String × Nat)
  | [] => []
  | e :: es => e.words ++ wordsAll es

end

/-- `wordsAll` of a longer list has the words of the last expression at its end. -/
private theorem wordsAll_concat (es : List Expr) (e : Expr) : wordsAll (es ++ [e]) = wordsAll es ++ e.words := by
  induction es with
  | nil => simp [wordsAll]
  | cons e' es ih => rw [List.cons_append, wordsAll, ih, wordsAll, List.append_assoc]

end Expr

/-! ### Words of tokens -/

/-- A token of the class gives its text to a node. -/
def TokenKind.leavesNode : TokenKind → Bool
  | lparen | rparen | comma | eof => false
  | _ => true

/-- The tokens without parentheses, commas and the end of input, as texts with their offsets. -/
def wordsOf (ts : List Token) : List (String × Nat) :=
  (ts.filter fun t => t.kind.leavesNode).map fun t => (t.text, t.offset)

section

variable {t : Token} {ts us : List Token} {kind : TokenKind}

/-- `wordsOf` no tokens is empty. -/
@[simp] theorem wordsOf_nil : wordsOf [] = [] := rfl

/-- `wordsOf` goes along the tokens. -/
@[simp] theorem wordsOf_append (ts us : List Token) :
    wordsOf (ts ++ us) = wordsOf ts ++ wordsOf us := by
  rw [wordsOf, List.filter_append, List.map_append]
  rfl

/-- `wordsOf` has a token of a class that leaves a node. -/
private theorem wordsOf_cons (ht : t.kind = kind) (hk : kind.leavesNode = true) :
    wordsOf (t :: ts) = (t.text, t.offset) :: wordsOf ts := by
  rw [wordsOf, List.filter_cons_of_pos (by rwa [ht]), List.map_cons]
  rfl

/-- `wordsOf` passes over a token of a class that leaves no node. -/
private theorem wordsOf_cons_of_not (ht : t.kind = kind) (hk : kind.leavesNode = false) :
    wordsOf (t :: ts) = wordsOf ts := by
  rw [wordsOf, List.filter_cons_of_neg (by simp [ht, hk])]
  rfl

/-- `wordsOf` passes over parentheses. -/
private theorem wordsOf_enclosed {o c : Token} (ho : o.kind = .lparen) (hc : c.kind = .rparen) :
    wordsOf (o :: (ts ++ [c])) = wordsOf ts := by
  -- neither of the two parentheses has a word
  rw [wordsOf_cons_of_not ho rfl, wordsOf_append, wordsOf_cons_of_not hc rfl, wordsOf_nil,
    List.append_nil]

end

/-- `leavesNode` holds of the token of a literal. -/
private theorem Token.IsLiteral.leavesNode {t : Token} {value : Literal} (h : t.IsLiteral value) :
    t.kind.leavesNode = true :=
  h.kind_elim rfl rfl rfl rfl

/-! ### Phrases keep their words -/

namespace Grammar

/-- `words` of two operands and of the operator between them. -/
private theorem words_binary {l r : Expr} {ls rs : List Token} {t : Token} {kind : TokenKind}
    {symbol : String} (hts : ∀ u ∈ ls ++ t :: rs, u.kind.Spells u.text) (ht : t.kind = kind)
    (hk : kind.leavesNode = true) (hsymbol : ∀ s, kind.Spells s → s = symbol)
    (hl : (∀ u ∈ ls, u.kind.Spells u.text) → l.words = wordsOf ls)
    (hr : (∀ u ∈ rs, u.kind.Spells u.text) → r.words = wordsOf rs) :
    l.words ++ (symbol, t.offset) :: r.words = wordsOf (ls ++ t :: rs) := by
  rw [List.forall_mem_append, List.forall_mem_cons] at hts
  obtain ⟨hls, htt, hrs⟩ := hts
  -- the class of the operator has one text only, its symbol
  rw [ht] at htt
  rw [hl hls, hr hrs, wordsOf_append, wordsOf_cons ht hk, hsymbol t.text htt]

/-- `words` of a call start with its path, which is joined again. -/
private theorem words_of_callHead {t : Token} {head : CallHead} (h : t.IsCallHead head)
    (args : List Expr) :
    (head.toExpr args).words = (t.text, t.offset) :: Expr.wordsAll args := by
  -- the method is the last name of the path, and no word of its own
  rw [CallHead.toExpr, Expr.words, h.text, h.targetOffset]

mutual

/-- `OrExpr` derives expressions with the words of their tokens. -/
theorem OrExpr.words_eq {ts : List Token} {e : Expr} (h : OrExpr ts e)
    (hts : ∀ t ∈ ts, t.kind.Spells t.text) : e.words = wordsOf ts := by
  match h with
  | .and h => exact h.words_eq hts
  | .or hl ht hr =>
    rw [Expr.words]
    exact words_binary hts ht rfl (fun _ hs => hs) (fun hls => hl.words_eq hls)
      fun hrs => hr.words_eq hrs

/-- `OrExpr.words_eq` for a conjunction. -/
theorem AndExpr.words_eq {ts : List Token} {e : Expr} (h : AndExpr ts e)
    (hts : ∀ t ∈ ts, t.kind.Spells t.text) : e.words = wordsOf ts := by
  match h with
  | .unary h => exact h.words_eq hts
  | .and hl ht hr =>
    rw [Expr.words]
    exact words_binary hts ht rfl (fun _ hs => hs) (fun hls => hl.words_eq hls)
      fun hrs => hr.words_eq hrs

/-- `OrExpr.words_eq` for a negation or comparison. -/
theorem UnaryExpr.words_eq {ts : List Token} {e : Expr} (h : UnaryExpr ts e)
    (hts : ∀ t ∈ ts, t.kind.Spells t.text) : e.words = wordsOf ts := by
  match h with
  | .compare h => exact h.words_eq hts
  | @UnaryExpr.not t _ _ ht h =>
    rw [List.forall_mem_cons, ht] at hts
    obtain ⟨htt, hts⟩ := hts
    -- the class of a prefix has one text only
    have htext : t.text = "!" := htt
    rw [Expr.words, h.words_eq hts, wordsOf_cons ht rfl, htext]

/-- `OrExpr.words_eq` for a comparison or primary. -/
theorem CompareExpr.words_eq {ts : List Token} {e : Expr} (h : CompareExpr ts e)
    (hts : ∀ t ∈ ts, t.kind.Spells t.text) : e.words = wordsOf ts := by
  match h with
  | .primary h => exact h.words_eq hts
  | .compare hl ht hr =>
    rw [Expr.words]
    exact words_binary hts ht rfl (fun _ hs => hs) (fun hls => hl.words_eq hls)
      fun hrs => hr.words_eq hrs

/-- `OrExpr.words_eq` for a primary; of the tokens of a group or a call, parentheses have no word. -/
theorem Primary.words_eq {ts : List Token} {e : Expr} (h : Primary ts e)
    (hts : ∀ t ∈ ts, t.kind.Spells t.text) : e.words = wordsOf ts := by
  match h with
  | .path ht => rw [Expr.words, wordsOf_cons ht.kind rfl, ht.text, wordsOf_nil]
  | .literal ht =>
    rw [List.forall_mem_singleton] at hts
    rw [Expr.words, wordsOf_cons rfl ht.leavesNode, ht.text hts, wordsOf_nil]
  | .group ho h hc =>
    -- parentheses have no word, and a group has no node of its own
    rw [List.forall_mem_cons, List.forall_mem_append] at hts
    rw [wordsOf_enclosed ho hc]
    exact h.words_eq hts.2.1
  | .emptyCall ht ho hc =>
    -- the path is the only word of a call without arguments
    rw [words_of_callHead ht, Expr.wordsAll, wordsOf_cons ht.isPath.kind rfl,
      wordsOf_cons_of_not ho rfl, wordsOf_cons_of_not hc rfl, wordsOf_nil]
  | .call ht ho ha hc =>
    rw [List.forall_mem_cons, List.forall_mem_cons, List.forall_mem_append] at hts
    rw [words_of_callHead ht, wordsOf_cons ht.isPath.kind rfl, wordsOf_enclosed ho hc,
      ha.words_eq hts.2.2.1]

/-- `OrExpr.words_eq` for arguments; the commas between them have no word. -/
theorem Args.words_eq {ts : List Token} {args : List Expr} (h : Args ts args)
    (hts : ∀ t ∈ ts, t.kind.Spells t.text) : Expr.wordsAll args = wordsOf ts := by
  match h with
  | .single h =>
    rw [Expr.wordsAll, Expr.wordsAll, List.append_nil]
    exact h.words_eq hts
  | .more ha ht h =>
    rw [List.forall_mem_append, List.forall_mem_cons] at hts
    rw [Expr.wordsAll_concat, ha.words_eq hts.1, h.words_eq hts.2.2, wordsOf_append,
      wordsOf_cons_of_not ht rfl]

end

end Grammar

/-! ### Sources -/

/-- The words of what a source is parsed to are its tokens without parentheses, commas and the end of
input: each of them once, and in the same order.  The name of the method of a call stands in the source
at the offset of the call. -/
theorem parse_words {source : String} {ts : List Token} {e : Expr}
    (hts : tokenize source = .ok ts) (he : parse ts = .ok e) :
    e.words = wordsOf ts ∧
      ∀ target method args offset, .call target method args offset ∈ e.nodes →
        PointsAt source.toList offset method := by
  constructor
  · -- the parser sees the tokens up to the end of input, which has no word either
    obtain ⟨us, hus, rfl⟩ := tokenize_eq_ok_iff.mp hts
    have hderive := parse_sound he
    rw [beforeEnd_concat hus.ne_eof rfl] at hderive
    have hspells : ∀ t ∈ us, t.kind.Spells t.text := fun t ht => (hus.standsIn_source t ht).spells
    rw [hderive.words_eq hspells, wordsOf_append, wordsOf_cons_of_not rfl rfl, wordsOf_nil,
      List.append_nil]
  · intro target method args offset hmem
    -- the mark of a call is its method
    exact (parse_standsIn hts he _ hmem).pointsAt

/-- A group, a prefix and a call with two arguments: eight of fourteen tokens have a word. -/
theorem parse_words_of_call :
    let source := "!(A < 1) || B.C.D(\"x\", null)"
    let ts : List Token :=
      [⟨.not, "!", 0⟩, ⟨.lparen, "(", 1⟩, ⟨.identifier, "A", 2⟩, ⟨.comparison .lt, "<", 4⟩,
        ⟨.number, "1", 6⟩, ⟨.rparen, ")", 7⟩, ⟨.or, "||", 9⟩, ⟨.identifier, "B.C.D", 12⟩,
        ⟨.lparen, "(", 17⟩, ⟨.string, "\"x\"", 18⟩, ⟨.comma, ",", 21⟩, ⟨.null, "null", 23⟩,
        ⟨.rparen, ")", 27⟩, ⟨.eof, "", 28⟩]
    let call : Expr :=
      .call (.path ["B", "C"] 12) "D" [.literal (.string "x") 18, .literal .null 23] 16
    let e : Expr :=
      .logical .or (.not (.compare .lt (.path ["A"] 2) (.literal (.number "1") 6) 4) 0) call 9
    tokenize source = .ok ts ∧ parse ts = .ok e ∧ e.words = wordsOf ts ∧
      wordsOf ts = [("!", 0), ("A", 2), ("<", 4), ("1", 6), ("||", 9), ("B.C.D", 12), ("\"x\"", 18),
        ("null", 23)] ∧ PointsAt source.toList 16 "D" := by
  intro source ts call e
  have hts : tokenize source = .ok ts := by decide +kernel
  have he : parse ts = .ok e := rfl
  obtain ⟨hwords, hcalls⟩ := parse_words hts he
  have hmem : call ∈ e.nodes :=
    List.mem_cons_of_mem _ (List.mem_append_right _ (Expr.mem_nodes call))
  exact ⟨hts, he, hwords, rfl, hcalls _ _ _ _ hmem⟩

end RecordFilter
