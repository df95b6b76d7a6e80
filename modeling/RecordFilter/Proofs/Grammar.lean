import RecordFilter.Proofs.TokenText
/-!
# The grammar of filters

The grammar, the weakest binding first:

    or       := and ( `||` and )*
    and      := unary ( `&&` unary )*
    unary    := `!` unary | compare
    compare  := primary ( operator primary )?
    primary  := path | literal | `(` or `)` | path `(` args? `)`
    args     := or ( `,` or )*

Each rule relates the tokens of a phrase to the expression that they are.  Repetitions are read from
the left, so `||` and `&&` associate to the left; a comparison has no comparison as an operand, so
comparisons do not chain; a parenthesis leaves no node.
-/

namespace RecordFilter

namespace Grammar

mutual

/-- Conjunctions joined by `||`. -/
inductive OrExpr : List Token → Expr → Prop where
  | and {ts e} (h : AndExpr ts e) : OrExpr ts e
  | or {ls l t rs r} (hl : OrExpr ls l) (ht : t.kind = .or) (hr : AndExpr rs r) :
      OrExpr (ls ++ t :: rs) (.logical .or l r t.offset)

/-- Unary expressions joined by `&&`. -/
inductive AndExpr : List Token → Expr → Prop where
  | unary {ts e} (h : UnaryExpr ts e) : AndExpr ts e
  | and {ls l t rs r} (hl : AndExpr ls l) (ht : t.kind = .and) (hr : UnaryExpr rs r) :
      AndExpr (ls ++ t :: rs) (.logical .and l r t.offset)

/-- A comparison after prefixes `!`. -/
inductive UnaryExpr : List Token → Expr → Prop where
  | compare {ts e} (h : CompareExpr ts e) : UnaryExpr ts e
  | not {t ts e} (ht : t.kind = .not) (h : UnaryExpr ts e) : UnaryExpr (t :: ts) (.not e t.offset)

/-- A primary expression, or two of them that are compared. -/
inductive CompareExpr : List Token → Expr → Prop where
  | primary {ts e} (h : Primary ts e) : CompareExpr ts e
  | compare {op ls l t rs r} (hl : Primary ls l) (ht : t.kind = .comparison op)
      (hr : Primary rs r) : CompareExpr (ls ++ t :: rs) (.compare op l r t.offset)

/-- A path, a literal, an expression between parentheses, or a call. -/
inductive Primary : List Token → Expr → Prop where
  | path {t names} (ht : t.IsPath names) : Primary [t] (.path names t.offset)
  | literal {t value} (ht : t.IsLiteral value) : Primary [t] (.literal value t.offset)
  | group {o ts c e} (ho : o.kind = .lparen) (h : OrExpr ts e) (hc : c.kind = .rparen) :
      Primary (o :: (ts ++ [c])) e
  | emptyCall {t head o c} (ht : t.IsCallHead head) (ho : o.kind = .lparen)
      (hc : c.kind = .rparen) : Primary [t, o, c] (head.toExpr [])
  | call {t head o ts args c} (ht : t.IsCallHead head) (ho : o.kind = .lparen)
      (ha : Args ts args) (hc : c.kind = .rparen) :
      Primary (t :: o :: (ts ++ [c])) (head.toExpr args)

/-- Expressions between commas, of which there is at least one. -/
inductive Args : List Token → List Expr → Prop where
  | single {ts e} (h : OrExpr ts e) : Args ts [e]
  | more {ts args t us e} (ha : Args ts args) (ht : t.kind = .comma) (h : OrExpr us e) :
      Args (ts ++ t :: us) (args ++ [e])

end

theorem Args.ne_nil {ts : List Token} {args : List Expr} (h : Args ts args) : args ≠ [] := by
  match h with
  | .single _ => exact List.cons_ne_nil _ _
  | .more _ _ _ => exact List.concat_ne_nil _ _

/-- `Args` derives arguments with another one before them. -/
theorem Args.cons {us ts : List Token} {e : Expr} {t : Token} {args : List Expr}
    (he : OrExpr us e) (ht : t.kind = .comma) (h : Args ts args) :
    Args (us ++ t :: ts) (e :: args) := by
  match h with
  | .single h => exact .more (.single he) ht h
  | .more ha ht' h =>
    have hmore := Args.more (ha.cons he ht) ht' h
    rwa [List.append_assoc, List.cons_append] at hmore

end Grammar

end RecordFilter
