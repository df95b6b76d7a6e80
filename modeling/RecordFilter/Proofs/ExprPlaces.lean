import RecordFilter.Expr.Printer
import RecordFilter.Proofs.Grammar
import RecordFilter.Proofs.TokenPlaces
/-!
# Nodes stand where they say

Each node of an expression has a mark in the source: its operator, its names, its literal, or its
method.  If the tokens of an expression stand in a source, then the mark of each node stands at the
offset of the node (`OrExpr.standsIn`).  For a method this is an offset inside of its token, after
the names of the target.
-/

namespace RecordFilter

namespace Expr

mutual

/-- The expression and all the expressions inside it. -/
def nodes : Expr → List Expr
  | logical op left right offset => logical op left right offset :: (left.nodes ++ right.nodes)
  | compare op left right offset => compare op left right offset :: (left.nodes ++ right.nodes)
  | not operand offset => not operand offset :: operand.nodes
  | path names offset => [path names offset]
  | literal value offset => [literal value offset]
  | call target method args offset =>
    call target method args offset :: (target.nodes ++ nodesAll args)

/-- The nodes of expressions, one expression after the other. -/
def nodesAll : List Expr → List Expr
  | [] => []
  | e :: es => e.nodes ++ nodesAll es

end

/-- `nodesAll` of a longer list has the nodes of the last expression at its end. -/
theorem nodesAll_concat (es : List Expr) (e : Expr) :
    nodesAll (es ++ [e]) = nodesAll es ++ e.nodes := by
  induction es with
  | nil => simp [nodesAll]
  | cons e' es ih => rw [List.cons_append, nodesAll, ih, nodesAll, List.append_assoc]

/-- `nodes` of an expression has the expression itself. -/
theorem mem_nodes (e : Expr) : e ∈ e.nodes := by
  cases e <;> exact List.mem_cons_self

/-- The text that introduces the node. -/
def mark : Expr → String
  | logical op _ _ _ => op.symbol
  | compare op _ _ _ => op.symbol
  | not _ _ => "!"
  | path names _ => ".".intercalate names
  | literal value _ => value.text
  | call _ method _ _ => method

/-- The mark of the node stands at its offset. -/
structure StandsIn (cs : List Char) (e : Expr) : Prop where
  pointsAt : PointsAt cs e.offset e.mark
  mark_ne : e.mark ≠ ""

/-- `StandsIn` puts the offset of a node on a character of the source. -/
theorem StandsIn.lt_length {cs : List Char} {e : Expr} (h : e.StandsIn cs) : e.offset < cs.length :=
  h.pointsAt.lt_length h.mark_ne

end Expr

/-! ### Marks of tokens -/

/-- `IsLiteral` tokens are written as their literal. -/
theorem Token.IsLiteral.text {t : Token} {value : Literal} (h : t.IsLiteral value)
    (ht : t.kind.Spells t.text) : t.text = value.text := by
  cases h with
  | string hk htext => exact htext
  | number hk => rfl
  | boolean hk =>
    -- a truth value is one of two words, and `null` is one word
    rw [hk] at ht
    rcases ht with ht | ht <;> rw [ht] <;> rfl
  | null hk =>
    rw [hk] at ht
    exact ht

/-- `IsLiteral` does not hold of the end of input. -/
theorem Token.IsLiteral.ne_eof {t : Token} {value : Literal} (h : t.IsLiteral value) :
    t.kind ≠ .eof :=
  h.kind_elim TokenKind.noConfusion TokenKind.noConfusion TokenKind.noConfusion
    TokenKind.noConfusion

/-- `IsSegment` holds of no empty name. -/
theorem IsSegment.ne_empty {name : String} (h : IsSegment name) : name ≠ "" := by
  rintro rfl
  simpa using h.start

/-- A path with a name is not written as the empty text. -/
private theorem intercalate_ne_empty {names : List String} (hne : names ≠ [])
    (h : ∀ name ∈ names, IsSegment name) : ".".intercalate names ≠ "" := by
  obtain ⟨name, more, rfl⟩ := List.exists_cons_of_ne_nil hne
  have hname := (h name List.mem_cons_self).ne_empty
  -- the first name is not empty, so neither is what it starts
  cases more with
  | nil => rwa [String.intercalate_singleton]
  | cons next more =>
    rw [String.intercalate_cons_cons]
    intro hempty
    rw [String.append_eq_empty_iff, String.append_eq_empty_iff] at hempty
    exact hname hempty.1.1

namespace Grammar

variable {cs : List Char} {t : Token} {e : Expr}

/-- `StandsIn` of a node, from the token that has its text and its offset. -/
private theorem standsIn_of_token (ht : t.StandsIn cs) (hk : t.kind ≠ .eof) (ho : e.offset = t.offset)
    (hm : e.mark = t.text) : e.StandsIn cs := by
  constructor
  · rw [ho, hm]
    exact ht.pointsAt
  · rw [hm]
    exact ht.spells.ne_empty hk

/-- `StandsIn` of a node, from the token of the operator that marks it. -/
private theorem standsIn_of_operator {kind : TokenKind} (ht : t.StandsIn cs) (hk : t.kind = kind)
    (hm : ∀ s, kind.Spells s → s = e.mark) (hne : kind ≠ .eof) (ho : e.offset = t.offset) :
    e.StandsIn cs := by
  subst hk
  exact standsIn_of_token ht hne ho (hm t.text ht.spells).symm

/-- `StandsIn` of the nodes of two operands and of what joins them. -/
private theorem forall_standsIn_binary {l r : Expr} {ls rs : List Token}
    (hnodes : e.nodes = e :: (l.nodes ++ r.nodes)) (hts : ∀ u ∈ ls ++ t :: rs, u.StandsIn cs)
    (he : t.StandsIn cs → e.StandsIn cs)
    (hl : (∀ u ∈ ls, u.StandsIn cs) → ∀ n ∈ l.nodes, n.StandsIn cs)
    (hr : (∀ u ∈ rs, u.StandsIn cs) → ∀ n ∈ r.nodes, n.StandsIn cs) :
    ∀ n ∈ e.nodes, n.StandsIn cs := by
  -- the tokens are those of the operands and the one between them, and so are the nodes
  rw [List.forall_mem_append, List.forall_mem_cons] at hts
  obtain ⟨hls, ht, hrs⟩ := hts
  rw [hnodes, List.forall_mem_cons, List.forall_mem_append]
  exact ⟨he ht, hl hls, hr hrs⟩

/-- `StandsIn` of the target and the method of a call, which stand inside the path of the call. -/
private theorem standsIn_of_callHead {head : CallHead} (args : List Expr) (h : t.IsCallHead head)
    (ht : t.StandsIn cs) : (head.toExpr args).StandsIn cs ∧
      (Expr.path head.target head.targetOffset).StandsIn cs := by
  have hpoints := ht.pointsAt
  rw [h.text] at hpoints
  have hseg := h.isPath.segment
  rw [List.forall_mem_append, List.forall_mem_singleton] at hseg
  refine ⟨⟨?_, hseg.2.ne_empty⟩, ⟨?_, intercalate_ne_empty h.target_ne_nil hseg.1⟩⟩
  · -- the method stands after the target and the dot
    have hmethod := hpoints.right
    rw [String.length_append, ← Nat.add_assoc] at hmethod
    show PointsAt cs head.methodOffset head.method
    rw [h.methodOffset]
    exact hmethod
  · -- the target is the path up to the last dot
    show PointsAt cs head.targetOffset (".".intercalate head.target)
    rw [h.targetOffset]
    exact hpoints.left.left

mutual

/-- `OrExpr` derives expressions whose nodes stand where the tokens do. -/
theorem OrExpr.standsIn {ts : List Token} {e : Expr} (h : OrExpr ts e)
    (hts : ∀ t ∈ ts, t.StandsIn cs) : ∀ n ∈ e.nodes, n.StandsIn cs := by
  match h with
  | .and h => exact h.standsIn hts
  | .or hl ht hr =>
    refine forall_standsIn_binary rfl hts ?_ (fun hts => hl.standsIn hts) fun hts => hr.standsIn hts
    intro htt
    exact standsIn_of_operator htt ht (fun _ h => h) TokenKind.noConfusion rfl

/-- `OrExpr.standsIn` for a conjunction. -/
theorem AndExpr.standsIn {ts : List Token} {e : Expr} (h : AndExpr ts e)
    (hts : ∀ t ∈ ts, t.StandsIn cs) : ∀ n ∈ e.nodes, n.StandsIn cs := by
  match h with
  | .unary h => exact h.standsIn hts
  | .and hl ht hr =>
    refine forall_standsIn_binary rfl hts ?_ (fun hts => hl.standsIn hts) fun hts => hr.standsIn hts
    intro htt
    exact standsIn_of_operator htt ht (fun _ h => h) TokenKind.noConfusion rfl

/-- `OrExpr.standsIn` for a negation or comparison. -/
theorem UnaryExpr.standsIn {ts : List Token} {e : Expr} (h : UnaryExpr ts e)
    (hts : ∀ t ∈ ts, t.StandsIn cs) : ∀ n ∈ e.nodes, n.StandsIn cs := by
  match h with
  | .compare h => exact h.standsIn hts
  | .not ht h =>
    rw [List.forall_mem_cons] at hts
    obtain ⟨htt, hts⟩ := hts
    rw [Expr.nodes, List.forall_mem_cons]
    -- the node of the negation has the offset of its prefix
    refine ⟨standsIn_of_operator htt ht (fun _ h => h) TokenKind.noConfusion rfl, ?_⟩
    exact h.standsIn hts

/-- `OrExpr.standsIn` for a comparison or primary. -/
theorem CompareExpr.standsIn {ts : List Token} {e : Expr} (h : CompareExpr ts e)
    (hts : ∀ t ∈ ts, t.StandsIn cs) : ∀ n ∈ e.nodes, n.StandsIn cs := by
  match h with
  | .primary h => exact h.standsIn hts
  | .compare hl ht hr =>
    refine forall_standsIn_binary rfl hts ?_ (fun hts => hl.standsIn hts) fun hts => hr.standsIn hts
    intro htt
    exact standsIn_of_operator htt ht (fun _ h => h) TokenKind.noConfusion rfl

/-- `OrExpr.standsIn` for a primary, where the tokens of names and literals are. -/
theorem Primary.standsIn {ts : List Token} {e : Expr} (h : Primary ts e)
    (hts : ∀ t ∈ ts, t.StandsIn cs) : ∀ n ∈ e.nodes, n.StandsIn cs := by
  match h with
  | .path ht =>
    rw [List.forall_mem_singleton] at hts
    rw [Expr.nodes, List.forall_mem_singleton]
    exact standsIn_of_token hts (ht.kind ▸ TokenKind.noConfusion) rfl ht.text
  | .literal ht =>
    rw [List.forall_mem_singleton] at hts
    rw [Expr.nodes, List.forall_mem_singleton]
    exact standsIn_of_token hts ht.ne_eof rfl (ht.text hts.spells).symm
  | .group ho h hc =>
    -- parentheses leave no node
    rw [List.forall_mem_cons, List.forall_mem_append] at hts
    exact h.standsIn hts.2.1
  -- a call has two nodes in one token: the method and the path of the target
  | .emptyCall ht ho hc =>
    rw [List.forall_mem_cons] at hts
    obtain ⟨hcall, hpath⟩ := standsIn_of_callHead [] ht hts.1
    rw [CallHead.toExpr, Expr.nodes, List.forall_mem_cons, List.forall_mem_append]
    rw [Expr.nodes, List.forall_mem_singleton]
    exact ⟨hcall, hpath, List.forall_mem_nil _⟩
  | .call ht ho ha hc =>
    rw [List.forall_mem_cons, List.forall_mem_cons, List.forall_mem_append] at hts
    obtain ⟨hcall, hpath⟩ := standsIn_of_callHead _ ht hts.1
    rw [CallHead.toExpr, Expr.nodes, List.forall_mem_cons, List.forall_mem_append]
    rw [Expr.nodes, List.forall_mem_singleton]
    exact ⟨hcall, hpath, ha.standsIn hts.2.2.1⟩

/-- `OrExpr.standsIn` for the nodes of all arguments. -/
theorem Args.standsIn {ts : List Token} {args : List Expr} (h : Args ts args)
    (hts : ∀ t ∈ ts, t.StandsIn cs) : ∀ n ∈ Expr.nodesAll args, n.StandsIn cs := by
  match h with
  | .single h =>
    rw [Expr.nodesAll, Expr.nodesAll, List.append_nil]
    exact h.standsIn hts
  | .more ha ht h =>
    rw [List.forall_mem_append, List.forall_mem_cons] at hts
    -- a comma leaves no node
    rw [Expr.nodesAll_concat, List.forall_mem_append]
    exact ⟨ha.standsIn hts.1, h.standsIn hts.2.2⟩

end

end Grammar

end RecordFilter
