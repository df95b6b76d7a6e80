import Mathlib.Data.List.MinMax
import RecordFilter.Proofs.NestingBound
import RecordFilter.Proofs.OpenParentheses
/-!
# Limits leave room for shallow expressions

The nesting of a token is the number of parentheses that are open at it, with the number of prefixes
`!` that are at it or around it (`depthAt`).  A prefix is around the tokens of its operand, which the
expression tells (`OperandSizes`); every prefix of an accepted source has an operand
(`exists_operandSizes`).  No limit that is as great as the nesting of each token refuses the source
(`checkNesting_of_nestingDepth_le`).

The counter knows nothing of operands: it counts the prefixes that only prefixes and parentheses follow
(`prefixes_afterAll`), also if the parentheses in between are closed again.  It counts none too
many, because every operand has a token that is neither, a name or a literal
(`Grammar.UnaryExpr.exists_ends`), and until then the operand is not over.
-/

namespace RecordFilter

open Grammar

/-! ### Nesting of tokens -/

/-- The token with the index is a prefix `!`. -/
def isPrefixAt (ts : List Token) (i : Nat) : Bool := ts[i]?.any fun t => t.kind == .not

/-- For the index of each prefix, the number of the tokens that are its operand: those right after the
prefix are what it negates in the expression. -/
def OperandSizes (ts : List Token) (e : Expr) (size : Nat → Nat) : Prop :=
  ∀ i t, ts[i]? = some t → t.kind = .not →
    ∃ x, .not x t.offset ∈ e.nodes ∧ UnaryExpr ((ts.drop (i + 1)).take (size i)) x

/-- The number of parentheses that are open at the token with the index `j`, an opening one counting
itself, with the number of prefixes that are at that token or whose operand it belongs to. -/
def depthAt (ts : List Token) (size : Nat → Nat) (j : Nat) : Nat :=
  opened (ts.take (j + 1)) - closed (ts.take (j + 1)) +
    (List.range (j + 1)).countP fun i => isPrefixAt ts i && j ≤ i + size i

/-- The greatest nesting of a token. -/
def nestingDepth (ts : List Token) (size : Nat → Nat) : Nat :=
  ((List.range ts.length).map (depthAt ts size)).foldr max 0

/-- No token is nested deeper than `nestingDepth`. -/
private theorem depthAt_le_nestingDepth {ts : List Token} {size : Nat → Nat} {j : Nat}
    (hj : j < ts.length) : depthAt ts size j ≤ nestingDepth ts size :=
  List.le_max_of_le (List.mem_map_of_mem (List.mem_range.mpr hj)) (Nat.le_refl _)

/-! ### What the counter counts -/

/-- The counter keeps its prefixes at a token of the class. -/
def TokenKind.keepsPrefixes : TokenKind → Bool
  | lparen | rparen | not => true
  | _ => false

/-- The token with the index is a prefix, and there are only prefixes and parentheses after it. -/
def isPending (ts : List Token) (i : Nat) : Bool :=
  isPrefixAt ts i && (ts.drop (i + 1)).all fun t => t.kind.keepsPrefixes

/-- `isPrefixAt` as a statement about the token. -/
private theorem isPrefixAt_eq_true_iff {ts : List Token} {i : Nat} :
    isPrefixAt ts i = true ↔ ∃ t, ts[i]? = some t ∧ t.kind = .not := by
  simp [isPrefixAt, Option.any_eq_true]

section

variable {ts : List Token} {t : Token} {i : Nat}

/-- `isPending` of a prefix stays after one more token if that one does not end it. -/
private theorem isPending_concat (hi : i < ts.length) :
    isPending (ts ++ [t]) i = (isPending ts i && t.kind.keepsPrefixes) := by
  rw [isPending, isPending, isPrefixAt, List.getElem?_append_left hi, ← isPrefixAt,
    List.drop_append_of_le_length hi, List.all_append, Bool.and_assoc]
  simp

/-- The last token `isPending` exactly if it is a prefix: nothing comes after it. -/
private theorem isPending_length : isPending (ts ++ [t]) ts.length = (t.kind == .not) := by
  simp [isPending, isPrefixAt]

end

section

variable {n : Nesting} {ts : List Token} {t : Token}

/-- `Nesting.after` counts the parentheses that a token opens and closes. -/
private theorem parens_after (h : closed [t] ≤ n.parens + opened [t]) :
    (n.after t).parens + closed [t] = n.parens + opened [t] := by
  simp only [opened_cons, closed_cons, opened_nil, closed_nil] at h ⊢
  unfold Nesting.after
  split
  · rename_i hk
    simp [hk]
  · rename_i hk
    simp only [hk, if_true, reduceCtorEq, if_false] at h ⊢
    omega
  · rename_i hk
    simp [hk]
  · rename_i hopens hcloses _
    rw [if_neg hopens, if_neg hcloses]

/-- `afterAll` has the parentheses that are opened and not closed, if none is closed that is not open.
-/
private theorem parens_afterAll (h : ∀ us, us <+: ts → closed us ≤ opened us) :
    (({} : Nesting).afterAll ts).parens + closed ts = opened ts := by
  -- by the last token, since the counter moves along the tokens
  induction ts using List.reverseRecOn with
  | nil => rfl
  | append_singleton ts t ih =>
    have hbefore := ih fun us hus => h us (hus.trans (List.prefix_append ts [t]))
    have hle := h _ (List.prefix_refl _)
    rw [opened_append, closed_append] at hle
    -- what the token closes is open before it
    have hstep : closed [t] ≤ (({} : Nesting).afterAll ts).parens + opened [t] := by omega
    replace hstep := parens_after hstep
    rw [Nesting.afterAll_concat, opened_append, closed_append]
    omega

/-- `Nesting.after` a prefix has one prefix more, after a parenthesis as many, and after any other token
none. -/
private theorem prefixes_after (n : Nesting) (t : Token) :
    (n.after t).prefixes =
      if t.kind.keepsPrefixes then n.prefixes + (if t.kind = .not then 1 else 0) else 0 := by
  unfold Nesting.after TokenKind.keepsPrefixes
  cases t.kind <;> rfl

/-- `afterAll` has the prefixes that only prefixes and parentheses follow. -/
theorem prefixes_afterAll (ts : List Token) :
    (({} : Nesting).afterAll ts).prefixes = (List.range ts.length).countP (isPending ts) := by
  induction ts using List.reverseRecOn with
  | nil => rfl
  | append_singleton ts t ih =>
    -- which prefixes are still counted depends on the last token alone
    have hpending : (List.range ts.length).countP (isPending (ts ++ [t])) =
        (List.range ts.length).countP fun i => isPending ts i && t.kind.keepsPrefixes :=
      List.countP_congr fun i hi => by rw [isPending_concat (List.mem_range.mp hi)]
    rw [Nesting.afterAll_concat, prefixes_after, ih, List.length_append, List.length_singleton,
      List.range_succ, List.countP_append, List.countP_singleton, isPending_length, hpending]
    by_cases hkeeps : t.kind.keepsPrefixes = true
    · simp [hkeeps]
    · -- the token itself is no prefix then
      have hnot : t.kind ≠ .not := fun hk => hkeeps (hk ▸ rfl)
      simp [hkeeps, hnot]

end

/-! ### Operands -/

namespace Grammar

mutual

/-- `OrExpr` tokens hold one at which the counter forgets its prefixes: the operator, or one of its only
side. -/
theorem OrExpr.exists_ends {ts : List Token} {e : Expr} (h : OrExpr ts e) :
    ∃ t ∈ ts, t.kind.keepsPrefixes = false := by
  match h with
  | .and h => exact h.exists_ends
  | .or _ ht _ => exact ⟨_, List.mem_append_right _ List.mem_cons_self, ht ▸ rfl⟩

/-- `OrExpr.exists_ends` for a conjunction. -/
theorem AndExpr.exists_ends {ts : List Token} {e : Expr} (h : AndExpr ts e) :
    ∃ t ∈ ts, t.kind.keepsPrefixes = false := by
  match h with
  | .unary h => exact h.exists_ends
  | .and _ ht _ => exact ⟨_, List.mem_append_right _ List.mem_cons_self, ht ▸ rfl⟩

/-- `OrExpr.exists_ends` for a negation: the prefix itself is kept, but its operand holds such a token.
-/
theorem UnaryExpr.exists_ends {ts : List Token} {e : Expr} (h : UnaryExpr ts e) :
    ∃ t ∈ ts, t.kind.keepsPrefixes = false := by
  match h with
  | .compare h => exact h.exists_ends
  | .not _ h =>
    obtain ⟨t, ht, hends⟩ := h.exists_ends
    exact ⟨t, List.mem_cons_of_mem _ ht, hends⟩

/-- `OrExpr.exists_ends` for a comparison. -/
theorem CompareExpr.exists_ends {ts : List Token} {e : Expr} (h : CompareExpr ts e) :
    ∃ t ∈ ts, t.kind.keepsPrefixes = false := by
  match h with
  | .primary h => exact h.exists_ends
  | .compare _ ht _ => exact ⟨_, List.mem_append_right _ List.mem_cons_self, ht ▸ rfl⟩

/-- `OrExpr.exists_ends` for a name, literal, group or call. -/
theorem Primary.exists_ends {ts : List Token} {e : Expr} (h : Primary ts e) :
    ∃ t ∈ ts, t.kind.keepsPrefixes = false := by
  match h with
  -- the first token of a path, a literal or a call, and some token inside of a group
  | .path ht => exact ⟨_, List.mem_cons_self, ht.kind ▸ rfl⟩
  | .literal ht => exact ⟨_, List.mem_cons_self, ht.kind_elim rfl rfl rfl rfl⟩
  | .group _ h _ =>
    obtain ⟨t, ht, hends⟩ := h.exists_ends
    exact ⟨t, List.mem_cons_of_mem _ (List.mem_append_left _ ht), hends⟩
  | .emptyCall ht _ _ => exact ⟨_, List.mem_cons_self, ht.isPath.kind ▸ rfl⟩
  | .call ht _ _ _ => exact ⟨_, List.mem_cons_self, ht.isPath.kind ▸ rfl⟩

end

/-- Each prefix among the tokens has its operand right after it, and its negation among the nodes. -/
def OperandsIn (nodes : List Expr) (ts : List Token) : Prop :=
  ∀ t us, t :: us <:+ ts → t.kind = .not →
    ∃ vs x, vs <+: us ∧ UnaryExpr vs x ∧ .not x t.offset ∈ nodes

namespace OperandsIn

variable {ns ms : List Expr} {ts us : List Token} {t : Token} {e : Expr}

/-- `OperandsIn` asks for nodes, so more of them do no harm. -/
theorem mono (h : OperandsIn ns ts) (hsub : ns ⊆ ms) : OperandsIn ms ts := by
  intro t us hs ht
  obtain ⟨vs, x, hvs, hx, hmem⟩ := h t us hs ht
  exact ⟨vs, x, hvs, hx, hsub hmem⟩

/-- The operand of a prefix in the first tokens ends there, so `OperandsIn` can be shown of parts. -/
theorem append (h : OperandsIn ns ts) (h' : OperandsIn ns us) : OperandsIn ns (ts ++ us) := by
  intro t ws hs ht
  -- the prefix stands in the second part, or in the first with its operand
  rcases cons_suffix_append hs with hus | ⟨xs, rfl, hts⟩
  · exact h' t ws hus ht
  · obtain ⟨vs, x, hvs, hx, hmem⟩ := h t xs hts ht
    exact ⟨vs, x, hvs.trans (List.prefix_append xs us), hx, hmem⟩

/-- `OperandsIn` asks for no operand of a token that is no prefix. -/
theorem other (ht : t.kind ≠ .not) : OperandsIn ns [t] := by
  intro u us hs hu
  rcases List.suffix_cons_iff.mp hs with heq | hs
  · cases heq
    exact absurd hu ht
  · exact absurd (List.suffix_nil.mp hs) (List.cons_ne_nil _ _)

/-- `OperandsIn` with a token before the others that is no prefix. -/
theorem cons (ht : t.kind ≠ .not) (h : OperandsIn ns ts) : OperandsIn ns (t :: ts) :=
  append (other ht) h

/-- `OperandsIn` with a token after the others that is no prefix. -/
theorem concat (h : OperandsIn ns ts) (ht : t.kind ≠ .not) : OperandsIn ns (ts ++ [t]) :=
  h.append (other ht)

/-- `OperandsIn` of a prefix and its operand, if that is all that follows. -/
theorem not (t : Token) (hx : UnaryExpr ts e) (h : OperandsIn e.nodes ts) :
    OperandsIn (Expr.not e t.offset).nodes (t :: ts) := by
  intro u us hs hu
  rw [Expr.nodes]
  rcases List.suffix_cons_iff.mp hs with heq | hs
  · -- the prefix itself
    cases heq
    exact ⟨ts, e, List.prefix_refl ts, hx, List.mem_cons_self⟩
  · exact h.mono (List.subset_cons_self _ _) u us hs hu

/-- Two operands and the operator between them, with the nodes of the expression `e` that they form. -/
private theorem binary (h : OperandsIn ns ts) (ht : t.kind ≠ .not) (h' : OperandsIn ms us) :
    OperandsIn (e :: (ns ++ ms)) (ts ++ t :: us) := by
  have hleft : ns ⊆ e :: (ns ++ ms) :=
    List.subset_cons_of_subset e (List.subset_append_left ns ms)
  have hright : ms ⊆ e :: (ns ++ ms) :=
    List.subset_cons_of_subset e (List.subset_append_right ns ms)
  exact (h.mono hleft).append ((h'.mono hright).cons ht)

end OperandsIn

mutual

/-- `OperandsIn` of a disjunction: each prefix has its operand there, which is one of the nodes. -/
private theorem OrExpr.operandsIn {ts : List Token} {e : Expr} (h : OrExpr ts e) :
    OperandsIn e.nodes ts := by
  match h with
  | .and h => exact h.operandsIn
  | .or hl ht hr => exact hl.operandsIn.binary (ht ▸ TokenKind.noConfusion) hr.operandsIn

/-- `OperandsIn` of a conjunction, from its sides. -/
private theorem AndExpr.operandsIn {ts : List Token} {e : Expr} (h : AndExpr ts e) :
    OperandsIn e.nodes ts := by
  match h with
  | .unary h => exact h.operandsIn
  | .and hl ht hr => exact hl.operandsIn.binary (ht ▸ TokenKind.noConfusion) hr.operandsIn

/-- `OperandsIn` of a negation, whose first token is the prefix. -/
private theorem UnaryExpr.operandsIn {ts : List Token} {e : Expr} (h : UnaryExpr ts e) :
    OperandsIn e.nodes ts := by
  match h with
  | .compare h => exact h.operandsIn
  -- what follows the prefix in this phrase is its operand
  | .not _ h => exact .not _ h h.operandsIn

/-- `OperandsIn` of a comparison, from its sides. -/
private theorem CompareExpr.operandsIn {ts : List Token} {e : Expr} (h : CompareExpr ts e) :
    OperandsIn e.nodes ts := by
  match h with
  | .primary h => exact h.operandsIn
  | .compare hl ht hr => exact hl.operandsIn.binary (ht ▸ TokenKind.noConfusion) hr.operandsIn

/-- `OperandsIn` of a name, literal, group or call.  Parentheses and names are no prefixes. -/
private theorem Primary.operandsIn {ts : List Token} {e : Expr} (h : Primary ts e) :
    OperandsIn e.nodes ts := by
  match h with
  | .path ht => exact .other (ht.kind ▸ TokenKind.noConfusion)
  | .literal ht => exact .other (ht.kind_elim (by simp) (by simp) (by simp) (by simp))
  | .group ho h hc =>
    exact (h.operandsIn.concat (hc ▸ TokenKind.noConfusion)).cons (ho ▸ TokenKind.noConfusion)
  | .emptyCall ht ho hc =>
    exact .cons (ht.isPath.kind ▸ TokenKind.noConfusion)
      (.cons (ho ▸ TokenKind.noConfusion) (.other (hc ▸ TokenKind.noConfusion)))
  | @Primary.call _ head _ _ args _ ht ho ha hc =>
    have hargs : Expr.nodesAll args ⊆ (head.toExpr args).nodes :=
      List.subset_cons_of_subset _ (List.subset_append_right _ _)
    exact .cons (ht.isPath.kind ▸ TokenKind.noConfusion) (.cons (ho ▸ TokenKind.noConfusion)
      ((ha.operandsIn.mono hargs).concat (hc ▸ TokenKind.noConfusion)))

/-- `OperandsIn` of the arguments of a call, with the nodes of all of them. -/
private theorem Args.operandsIn {ts : List Token} {args : List Expr} (h : Args ts args) :
    OperandsIn (Expr.nodesAll args) ts := by
  match h with
  | .single h => exact h.operandsIn.mono (List.subset_append_left _ _)
  | .more ha ht h =>
    -- the arguments are read from the left, and so are their nodes
    rw [Expr.nodesAll_concat]
    exact (ha.operandsIn.mono (List.subset_append_left _ _)).append
      ((h.operandsIn.mono (List.subset_append_right _ _)).cons (ht ▸ TokenKind.noConfusion))

end

/-- If each prefix has its operand right after it (`OperandsIn`), then the operands have sizes
(`OperandSizes`). -/
private theorem OperandsIn.exists_size {e : Expr} {ts : List Token} (h : OperandsIn e.nodes ts) :
    ∃ size, OperandSizes ts e size := by
  have hsize : ∀ i, ∃ n, ∀ t, ts[i]? = some t → t.kind = .not →
      ∃ x, .not x t.offset ∈ e.nodes ∧ UnaryExpr ((ts.drop (i + 1)).take n) x := by
    -- the size at an index that holds no prefix is of no interest
    intro i
    by_cases hi : isPrefixAt ts i
    · obtain ⟨t, hget, ht⟩ := isPrefixAt_eq_true_iff.mp hi
      obtain ⟨hlt, heq⟩ := List.getElem?_eq_some_iff.mp hget
      have hsuffix : t :: ts.drop (i + 1) <:+ ts := by
        rw [← heq, ← List.drop_eq_getElem_cons hlt]
        exact List.drop_suffix i ts
      obtain ⟨vs, x, hvs, hx, hmem⟩ := h t _ hsuffix ht
      rw [List.prefix_iff_eq_take.mp hvs] at hx
      refine ⟨vs.length, fun u hu _ => ?_⟩
      rw [hget] at hu
      cases hu
      exact ⟨x, hmem, hx⟩
    · exact ⟨0, fun t hget ht => absurd (isPrefixAt_eq_true_iff.mpr ⟨t, hget, ht⟩) hi⟩
  choose size hsize using hsize
  exact ⟨size, hsize⟩

end Grammar

/-! ### The counter is below the nesting -/

section

variable {ts : List Token} {e : Expr} {size : Nat → Nat} {i j : Nat}

/-- `isPending` holds only of prefixes that have not seen the end of their operand. -/
private theorem le_of_isPending (hsize : OperandSizes ts e size) (hi : i < j + 1)
    (h : isPending (ts.take (j + 1)) i = true) : isPrefixAt ts i = true ∧ j ≤ i + size i := by
  rw [isPending, Bool.and_eq_true, isPrefixAt, List.getElem?_take_of_lt hi, ← isPrefixAt,
    List.all_eq_true] at h
  obtain ⟨hat, hall⟩ := h
  refine ⟨hat, ?_⟩
  obtain ⟨t, hget, ht⟩ := isPrefixAt_eq_true_iff.mp hat
  obtain ⟨x, -, hx⟩ := hsize i t hget ht
  obtain ⟨u, hu, hends⟩ := hx.exists_ends
  by_contra hlt
  -- then the operand is over, but all tokens up to here are prefixes and parentheses
  have hover : (ts.drop (i + 1)).take (size i) <+: (ts.take (j + 1)).drop (i + 1) := by
    rw [List.drop_take]
    exact List.take_prefix_take_left (by omega)
  have hkeeps := hall u (hover.subset hu)
  rw [hends] at hkeeps
  exact absurd hkeeps Bool.false_ne_true

/-- After the token with the index `j` the counter is at most at the nesting of that token: it counts
the same parentheses, and no prefix that is not around the token. -/
private theorem depth_afterAll_take_le (hbalanced : Balanced ts) (hsize : OperandSizes ts e size)
    (hj : j < ts.length) :
    (({} : Nesting).afterAll (ts.take (j + 1))).depth ≤ depthAt ts size j := by
  have hparens := parens_afterAll fun us hus =>
    hbalanced.closed_le (hus.trans (List.take_prefix (j + 1) ts))
  have hprefixes : (List.range (j + 1)).countP (isPending (ts.take (j + 1))) ≤
      (List.range (j + 1)).countP fun i => isPrefixAt ts i && j ≤ i + size i := by
    -- each prefix that is counted is around the token
    apply List.countP_mono_left
    intro i hi hpending
    obtain ⟨hat, hle⟩ := le_of_isPending hsize (List.mem_range.mp hi) hpending
    simp [hat, hle]
  have hlength : (ts.take (j + 1)).length = j + 1 := List.length_take_of_le hj
  rw [Nesting.depth, prefixes_afterAll, hlength, depthAt]
  omega

/-- The counter never exceeds `nestingDepth`. -/
private theorem peak_le_nestingDepth (hbalanced : Balanced ts) (hsize : OperandSizes ts e size) :
    ({} : Nesting).peak ts ≤ nestingDepth ts size := by
  rw [Nesting.peak_le_iff]
  -- before the first token the counter is at zero, and then at some token
  intro us hus
  cases hlength : us.length with
  | zero =>
    rw [List.length_eq_zero_iff.mp hlength]
    exact Nat.zero_le _
  | succ j =>
    have hj : j < ts.length := by
      have hle := hus.length_le
      omega
    rw [List.prefix_iff_eq_take.mp hus, hlength]
    exact (depth_afterAll_take_le hbalanced hsize hj).trans (depthAt_le_nestingDepth hj)

end

/-! ### Sources -/

/-- `OperandSizes` of an accepted source: each prefix has its operand after it. -/
theorem exists_operandSizes {source : String} {ts : List Token} {e : Expr}
    (hts : tokenize source = .ok ts) (he : parse ts = .ok e) : ∃ size, OperandSizes ts e size := by
  have hoperands := (parse_sound he).operandsIn
  obtain ⟨hsplit, hend⟩ := tokenize_split hts
  -- the end of input is no prefix
  rw [hsplit]
  exact (hoperands.concat (hend ▸ TokenKind.noConfusion)).exists_size

/-- No limit that is at least the nesting of an accepted source refuses it. -/
theorem checkNesting_of_nestingDepth_le {source : String} {ts : List Token} {e : Expr}
    (hts : tokenize source = .ok ts) (he : parse ts = .ok e) :
    (∃ size, OperandSizes ts e size) ∧
      ∀ size max, OperandSizes ts e size → nestingDepth ts size ≤ max →
        (⟨none, some max⟩ : Limits).checkNesting ts = .ok () := by
  refine ⟨exists_operandSizes hts he, ?_⟩
  intro size max hsize hmax
  obtain ⟨hsplit, hend⟩ := tokenize_split hts
  have hbalanced : Balanced ts := by
    rw [hsplit]
    exact (parse_sound he).balanced.concat (Token.isParenthesis_of_kind hend rfl)
  rw [Limits.checkNesting_eq_ok_iff]
  rintro _ ⟨⟩
  exact (peak_le_nestingDepth hbalanced hsize).trans hmax

/-- Two prefixes are around the name, and one parenthesis: a limit of three has room for them, and no
smaller one has. -/
theorem checkNesting_of_nestingDepth_le_of_group :
    let ts : List Token :=
      [⟨.not, "!", 0⟩, ⟨.lparen, "(", 1⟩, ⟨.not, "!", 2⟩, ⟨.identifier, "A", 3⟩, ⟨.rparen, ")", 4⟩,
        ⟨.eof, "", 5⟩]
    let e : Expr := .not (.not (.path ["A"] 3) 2) 0
    let size := fun i => if i = 0 then 4 else 1
    tokenize "!(!A)" = .ok ts ∧ parse ts = .ok e ∧ OperandSizes ts e size ∧
      nestingDepth ts size = 3 ∧ (⟨none, some 3⟩ : Limits).checkNesting ts = .ok () ∧
      (⟨none, some 2⟩ : Limits).checkNesting ts = .error (.limitExceeded .nestingDepth 3 2 2) := by
  intro ts e size
  have hts : tokenize "!(!A)" = .ok ts := by decide +kernel
  have he : parse ts = .ok e := rfl
  have hname : UnaryExpr [⟨.identifier, "A", 3⟩] (.path ["A"] 3) :=
    .compare (.primary (.path (Token.isPath_iff.mpr ⟨rfl, rfl⟩)))
  have hsize : OperandSizes ts e size := by
    intro i t hget ht
    match i with
    | 0 =>
      cases hget
      exact ⟨_, Expr.mem_nodes e,
        .compare (.primary (.group rfl (.and (.unary (.not rfl hname))) rfl))⟩
    | 2 =>
      cases hget
      exact ⟨_, List.mem_cons_of_mem _ (Expr.mem_nodes _), hname⟩
    | 1 | 3 | 4 | 5 =>
      cases hget
      exact nomatch ht
  have hdepth : nestingDepth ts size = 3 := rfl
  have hcheck := (checkNesting_of_nestingDepth_le hts he).2 size 3 hsize hdepth.le
  exact ⟨hts, he, hsize, hdepth, hcheck, rfl⟩

end RecordFilter
