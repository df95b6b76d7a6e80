import Mathlib.Tactic.Linarith
import RecordFilter.Proofs.Compilation
import RecordFilter.Proofs.ExprPlaces
import RecordFilter.Proofs.NestingCounter
/-!
# Nesting of accepted expressions

The limit on the nesting counts open parentheses and prefixes along the tokens.  What nests in an
expression are negations and arguments of calls (`Expr.nesting`).  After the tokens of an expression
the counter has the parentheses that it had before them and no prefix, and its peak bounds the nesting
(`Grammar.OrExpr.bounds` and its companions, one for each rule).

The counter forgets prefixes at the first name or literal, also if the arguments of a call follow,
which the prefixes are still around.  So the nesting may be above the limit `max`, but twice the nesting
is at most `max * (max + 3)` (`nesting_le`); and where no prefix is forgotten too early
(`Expr.PrefixesCounted`), the nesting is at most `max`.
-/

namespace RecordFilter

open Grammar

/-! ### Nesting of expressions -/

namespace Expr

mutual

/-- The greatest number of negations and of steps into arguments on a way from the root to a node. -/
def nesting : Expr → Nat
  | logical _ left right _ | compare _ left right _ => max left.nesting right.nesting
  | not operand _ => 1 + operand.nesting
  | path _ _ | literal _ _ => 0
  | call target _ args _ => max target.nesting (nestingArgs args)

/-- The nesting of a call whose target has none. -/
def nestingArgs : List Expr → Nat
  | [] => 0
  | e :: es => max (1 + e.nesting) (nestingArgs es)

end

/-- The number of negations at the root. -/
def leadingNots : Expr → Nat
  | not operand _ => 1 + operand.leadingNots
  | _ => 0

/-- The root is a connective. -/
def IsLogical : Expr → Prop
  | logical _ _ _ _ => True
  | _ => False

/-- Below each negation there is a connective, so a parenthesis, or no nesting but further negations. -/
def PrefixesCounted (e : Expr) : Prop :=
  ∀ operand offset, .not operand offset ∈ e.nodes →
    operand.IsLogical ∨ operand.nesting = operand.leadingNots

/-- The last argument of `Expr.nestingArgs` counts like any other. -/
private theorem nestingArgs_concat (es : List Expr) (e : Expr) :
    nestingArgs (es ++ [e]) = max (nestingArgs es) (1 + e.nesting) := by
  induction es with
  | nil => simp [nestingArgs]
  | cons e' es ih => rw [List.cons_append, nestingArgs, ih, nestingArgs, Nat.max_assoc]

/-- `nodesAll` has the nodes of each argument. -/
private theorem nodes_subset_nodesAll {es : List Expr} {e : Expr} (h : e ∈ es) : e.nodes ⊆ nodesAll es := by
  obtain ⟨as, bs, rfl⟩ := List.append_of_mem h
  -- past the arguments before it
  induction as with
  | nil => exact List.subset_append_left _ _
  | cons a as ih =>
    exact List.Subset.trans (ih (List.mem_append_right _ List.mem_cons_self))
      (List.subset_append_right _ _)

/-- A part of an expression forgets no prefix if the whole does not (`Expr.PrefixesCounted`). -/
theorem PrefixesCounted.mono {e e' : Expr} (h : e.PrefixesCounted) (hsub : e'.nodes ⊆ e.nodes) :
    e'.PrefixesCounted :=
  fun operand offset hmem => h operand offset (hsub hmem)

end Expr

/-! ### Tokens that are gone along -/

namespace Nesting

/-- The counter without the prefixes. -/
def reset (n : Nesting) : Nesting := { n with prefixes := 0 }

/-- The counter inside one more parenthesis. -/
def opened (n : Nesting) : Nesting := { n with parens := n.parens + 1 }

/-- The counter behind one more prefix. -/
def prefixed (n : Nesting) : Nesting := { n with prefixes := n.prefixes + 1 }

variable {n : Nesting} {t : Token} {ts ls rs : List Token}

/-- `Nesting.reset` forgets prefixes, not parentheses. -/
@[simp] theorem parens_reset : n.reset.parens = n.parens := rfl

/-- There is nothing to forget after `Nesting.reset`. -/
@[simp] theorem reset_reset : n.reset.reset = n.reset := rfl

/-- `Nesting.opened` is one parenthesis deeper. -/
@[simp] theorem parens_opened : n.opened.parens = n.parens + 1 := rfl

/-- `Nesting.opened` keeps the prefixes. -/
@[simp] theorem prefixes_opened : n.opened.prefixes = n.prefixes := rfl

/-- `Nesting.prefixed` keeps the parentheses. -/
@[simp] theorem parens_prefixed : n.prefixed.parens = n.parens := rfl

/-- `Nesting.prefixed` is one prefix deeper. -/
@[simp] theorem prefixes_prefixed : n.prefixed.prefixes = n.prefixes + 1 := rfl

/-- `Nesting.reset` forgets the prefix of `Nesting.prefixed` too. -/
@[simp] theorem reset_prefixed : n.prefixed.reset = n.reset := rfl

/-- An open parenthesis moves the counter to `Nesting.opened`; the prefixes before it are kept. -/
theorem after_lparen (ht : t.kind = .lparen) : n.after t = n.opened := by
  simp only [after, ht, opened]

/-- A prefix moves the counter to `Nesting.prefixed`. -/
private theorem after_not (ht : t.kind = .not) : n.after t = n.prefixed := by
  simp only [after, ht, prefixed]

/-- `Nesting.after` a closing parenthesis is where the counter was when it was opened, without the
prefixes. -/
private theorem after_rparen (ht : t.kind = .rparen) : n.opened.reset.after t = n.reset := by
  simp only [after, ht, opened, reset, Nat.add_sub_cancel]

/-- `Nesting.after` any other token has no prefixes. -/
private theorem after_eq_reset (ht : t.kind ∉ [.lparen, .rparen, .not]) : n.after t = n.reset := by
  rw [List.mem_cons, List.mem_cons, List.mem_singleton, not_or, not_or] at ht
  obtain ⟨hopens, hcloses, hnot⟩ := ht
  unfold after
  split
  · exact absurd ‹_› hopens
  · exact absurd ‹_› hcloses
  · exact absurd ‹_› hnot
  · rfl

/-- The `Nesting.peak` of what follows a token is not above the whole one. -/
private theorem peak_after_le (n : Nesting) (t : Token) (ts : List Token) :
    (n.after t).peak ts ≤ n.peak (t :: ts) :=
  Nat.le_max_right _ _

/-- The `Nesting.peak` of the first tokens is not above the whole one. -/
private theorem peak_left_le (n : Nesting) (ls rs : List Token) : n.peak ls ≤ n.peak (ls ++ rs) := by
  rw [peak_append]
  exact Nat.le_max_left _ _

/-- `Nesting.peak` along a right side starts without prefixes. -/
private theorem peak_right_le (hls : n.afterAll ls = n.reset) (ht : n.reset.after t = n.reset) :
    n.reset.peak rs ≤ n.peak (ls ++ t :: rs) := by
  have hrs := peak_after_le n.reset t rs
  rw [ht] at hrs
  rw [peak_append, hls]
  exact hrs.trans (Nat.le_max_right _ _)

/-- `afterAll` tokens between parentheses goes one level deeper and back. -/
private theorem afterAll_enclosed {o c : Token} (ho : o.kind = .lparen) (hc : c.kind = .rparen)
    (hts : n.opened.afterAll ts = n.opened.reset) : n.afterAll (o :: (ts ++ [c])) = n.reset := by
  rw [afterAll_cons, after_lparen ho, afterAll_append, hts, afterAll_cons, after_rparen hc,
    afterAll_nil]

/-- The `Nesting.peak` inside parentheses is not above the one around them. -/
private theorem peak_enclosed_le {o : Token} (ho : o.kind = .lparen) (c : Token) :
    n.opened.peak ts ≤ n.peak (o :: (ts ++ [c])) := by
  have hafter := peak_after_le n o (ts ++ [c])
  rw [after_lparen ho] at hafter
  exact (peak_left_le n.opened ts [c]).trans hafter

/-- `afterAll` two parts with a token between them that ends prefixes ends where it began, without
prefixes. -/
private theorem afterAll_between (hls : n.afterAll ls = n.reset) (ht : n.reset.after t = n.reset)
    (hrs : n.reset.afterAll rs = n.reset) : n.afterAll (ls ++ t :: rs) = n.reset := by
  rw [afterAll_append, hls, afterAll_cons, ht, hrs]

/-- What the counter, which was at `n` before the tokens, says about their expression.  If there is
room for `m` levels inside the parentheses, then twice the nesting is at most `m * (m + 3)`. -/
structure Bounds (n : Nesting) (ts : List Token) (e : Expr) : Prop where
  after : n.afterAll ts = n.reset
  leading : n.depth + e.leadingNots ≤ n.peak ts
  room : ∀ m, n.peak ts ≤ n.parens + m → 2 * e.nesting ≤ m * (m + 3)
  counted : e.PrefixesCounted → n.parens + e.nesting ≤ n.peak ts

/-- What it says if the expression is no connective, or between parentheses.  Then the prefixes before
it take room too. -/
structure UnaryBounds (n : Nesting) (ts : List Token) (e : Expr) : Prop extends Bounds n ts e where
  roomPrefixes : ∀ m, n.peak ts ≤ n.parens + m → 2 * (n.prefixes + e.nesting) ≤ m * (m + 3)
  inside : e.PrefixesCounted → e.IsLogical → n.parens + e.nesting + 1 ≤ n.peak ts

/-- What it says if moreover no prefix is at the start.  Then any number of prefixes for which there is
room could be before it. -/
structure PrimaryBounds (n : Nesting) (ts : List Token) (e : Expr) : Prop extends
    Bounds n ts e where
  roomAll : ∀ m, n.peak ts ≤ n.parens + m → 2 * (m + e.nesting) ≤ m * (m + 3)
  inside : e.PrefixesCounted → e.IsLogical → n.parens + e.nesting + 1 ≤ n.peak ts

/-- What it says about the arguments of a call. -/
structure ArgsBounds (n : Nesting) (ts : List Token) (args : List Expr) : Prop where
  after : n.afterAll ts = n.reset
  room : ∀ m, n.peak ts ≤ n.parens + m → 2 * Expr.nestingArgs args ≤ m * (m + 3) + 2
  counted : (∀ e ∈ args, e.PrefixesCounted) →
    n.parens + Expr.nestingArgs args ≤ n.peak ts + 1

variable {e l r : Expr}

/-- `PrimaryBounds` is the stronger statement: room for any number of prefixes is room for those that
are there. -/
theorem PrimaryBounds.unary (h : PrimaryBounds n ts e) : UnaryBounds n ts e where
  toBounds := h.toBounds
  roomPrefixes m hm := by
    have hall := h.roomAll m hm
    -- the prefixes before it are part of the depth, and so there is room for them
    have hprefixes : n.prefixes ≤ m := by
      have hdepth := h.leading.trans hm
      rw [depth] at hdepth
      omega
    omega
  inside := h.inside

/-- `PrimaryBounds` of an expression without nesting, at whose tokens the prefixes end. -/
private theorem primaryBounds_leaf (hts : n.afterAll ts = n.reset) (h0 : e.nesting = 0)
    (hleading : e.leadingNots = 0) (hlogical : ¬ e.IsLogical) : PrimaryBounds n ts e where
  after := hts
  leading := by
    have hdepth := depth_le_peak n ts
    omega
  room m _ := by
    rw [h0]
    exact Nat.zero_le _
  counted _ := by
    have hdepth := depth_le_peak n ts
    rw [depth] at hdepth
    omega
  roomAll m _ := by
    rw [h0]
    -- `2 * m ≤ m * (m + 3)`
    nlinarith
  inside _ h := absurd h hlogical

/-- `Bounds` of two operands with a token between them that ends prefixes. -/
theorem Bounds.between (hl : Bounds n ls l) (ht : n.reset.after t = n.reset)
    (hr : Bounds n.reset rs r) (hnesting : e.nesting = max l.nesting r.nesting)
    (hleading : e.leadingNots = 0) (hnodes : l.nodes ++ r.nodes ⊆ e.nodes) :
    Bounds n (ls ++ t :: rs) e := by
  -- each side has a peak that is not above the whole one
  have hpl := peak_left_le n ls (t :: rs)
  have hpr : n.reset.peak rs ≤ n.peak (ls ++ t :: rs) := peak_right_le hl.after ht
  refine ⟨afterAll_between hl.after ht hr.after, ?_, ?_, ?_⟩
  · have hdepth := depth_le_peak n (ls ++ t :: rs)
    omega
  · intro m hm
    have hroomLeft := hl.room m (hpl.trans hm)
    have hroomRight := hr.room m (hpr.trans hm)
    omega
  · intro hcounted
    have hleft :=
      hl.counted (hcounted.mono (List.Subset.trans (List.subset_append_left _ _) hnodes))
    have hright :=
      hr.counted (hcounted.mono (List.Subset.trans (List.subset_append_right _ _) hnodes))
    rw [parens_reset] at hright
    omega

end Nesting

namespace Grammar

open Nesting

/-- `Nesting.after` a path has no prefixes. -/
private theorem after_of_isPath {n : Nesting} {t : Token} {names : List String} (ht : t.IsPath names) :
    n.after t = n.reset :=
  after_eq_reset (by simp [ht.kind])

/-- `Nesting.after` a literal has no prefixes. -/
private theorem after_of_isLiteral {n : Nesting} {t : Token} {value : Literal} (ht : t.IsLiteral value) :
    n.after t = n.reset :=
  after_eq_reset (ht.kind_elim (by simp) (by simp) (by simp) (by simp))

mutual

/-- `Nesting.Bounds` of a disjunction, from those of its sides. -/
theorem OrExpr.bounds {ts : List Token} {e : Expr} (h : OrExpr ts e) (n : Nesting) :
    Bounds n ts e := by
  match h with
  | .and h => exact h.bounds n
  | .or (t := t) hl ht hr =>
    have hafter : n.reset.after t = n.reset := after_eq_reset (by simp [ht])
    exact (hl.bounds n).between hafter (hr.bounds n.reset) rfl rfl (List.subset_cons_self _ _)

/-- `Nesting.Bounds` of a conjunction, from those of its sides. -/
theorem AndExpr.bounds {ts : List Token} {e : Expr} (h : AndExpr ts e) (n : Nesting) :
    Bounds n ts e := by
  match h with
  | .unary h => exact (h.bounds n).toBounds
  | .and (t := t) hl ht hr =>
    have hafter : n.reset.after t = n.reset := after_eq_reset (by simp [ht])
    exact (hl.bounds n).between hafter (hr.bounds n.reset).toBounds rfl rfl
      (List.subset_cons_self _ _)

/-- `Nesting.UnaryBounds` of a negation: the prefix takes one more level on the way to its operand. -/
theorem UnaryExpr.bounds {ts : List Token} {e : Expr} (h : UnaryExpr ts e) (n : Nesting) :
    UnaryBounds n ts e := by
  match h with
  | .compare h => exact (h.bounds n).unary
  | @UnaryExpr.not t ts x ht h =>
    have hx := h.bounds n.prefixed
    have hafter : n.after t = n.prefixed := Nesting.after_not ht
    have hpeak : n.prefixed.peak ts ≤ n.peak (t :: ts) := hafter ▸ peak_after_le n t ts
    -- the operand is read with one more prefix, which its room already counts
    have hroom : ∀ m, n.peak (t :: ts) ≤ n.parens + m →
        2 * (n.prefixes + (1 + x.nesting)) ≤ m * (m + 3) := by
      intro m hm
      have hroom := hx.roomPrefixes m (hpeak.trans hm)
      rw [prefixes_prefixed] at hroom
      omega
    have hleading : n.depth + (1 + x.leadingNots) ≤ n.peak (t :: ts) := by
      have hleading := hx.leading
      simp only [Nesting.depth, parens_prefixed, prefixes_prefixed] at hleading ⊢
      omega
    refine ⟨⟨?_, hleading, fun m hm => ?_, fun hcounted => ?_⟩, hroom, fun _ h => h.elim⟩
    · rw [afterAll_cons, hafter, hx.after, reset_prefixed]
    · have hroom := hroom m hm
      rw [Expr.nesting]
      omega
    · rw [Expr.nesting]
      rcases hcounted _ _ (Expr.mem_nodes _) with hlogical | hnots
      · -- the operand is between parentheses, which make up for the prefix
        have hinside := hx.inside (hcounted.mono (List.subset_cons_self _ _)) hlogical
        rw [parens_prefixed] at hinside
        omega
      · -- all prefixes are counted together before the operand
        rw [Nesting.depth] at hleading
        omega

/-- `Nesting.PrimaryBounds` of a comparison, whose sides are primary expressions. -/
theorem CompareExpr.bounds {ts : List Token} {e : Expr} (h : CompareExpr ts e) (n : Nesting) :
    PrimaryBounds n ts e := by
  match h with
  | .primary h => exact h.bounds n
  | @CompareExpr.compare op ls l t rs r hl ht hr =>
    have hafter : n.reset.after t = n.reset := after_eq_reset (by simp [ht])
    have hleft := hl.bounds n
    have hright := hr.bounds n.reset
    have hpl := peak_left_le n ls (t :: rs)
    have hpr : n.reset.peak rs ≤ n.peak (ls ++ t :: rs) := peak_right_le hleft.after hafter
    refine ⟨hleft.toBounds.between hafter hright.toBounds rfl rfl (List.subset_cons_self _ _),
      fun m hm => ?_, fun _ h => h.elim⟩
    -- the room of both sides is that of the whole, since prefixes end at the operator
    have hroomLeft := hleft.roomAll m (hpl.trans hm)
    have hroomRight := hright.roomAll m (hpr.trans hm)
    rw [Expr.nesting]
    omega

/-- `Nesting.PrimaryBounds` of names, literals, groups and calls.  Only parentheses take levels here. -/
theorem Primary.bounds {ts : List Token} {e : Expr} (h : Primary ts e) (n : Nesting) :
    PrimaryBounds n ts e := by
  match h with
  | .path ht => exact primaryBounds_leaf (after_of_isPath ht) rfl rfl id
  | .literal ht => exact primaryBounds_leaf (after_of_isLiteral ht) rfl rfl id
  | @Primary.group o ts c e ho h hc =>
    -- a group is read one parenthesis deeper, and leaves no prefix behind
    have hin := h.bounds n.opened
    have hpeak : n.opened.peak ts ≤ n.peak (o :: (ts ++ [c])) := peak_enclosed_le ho c
    have hroom : ∀ m, n.peak (o :: (ts ++ [c])) ≤ n.parens + m →
        2 * (m + e.nesting) ≤ m * (m + 3) := by
      intro m hm
      -- the parenthesis takes one of the levels
      have hdepth := (depth_le_peak n.opened ts).trans (hpeak.trans hm)
      rw [Nesting.depth, parens_opened] at hdepth
      obtain ⟨k, rfl⟩ : ∃ k, m = k + 1 := ⟨m - 1, by omega⟩
      have hroom := hin.room k (by rw [parens_opened]; omega)
      nlinarith
    refine ⟨⟨afterAll_enclosed ho hc hin.after, ?_, fun m hm => ?_, fun hcounted => ?_⟩, hroom,
      fun hcounted _ => ?_⟩
    · have hleading := hin.leading
      simp only [Nesting.depth, parens_opened, prefixes_opened] at hleading ⊢
      omega
    · have hall := hroom m hm
      omega
    all_goals
      have hcounted := hin.counted hcounted
      rw [parens_opened] at hcounted
      omega
  | .emptyCall (t := t) (o := o) (c := c) ht ho hc =>
    have hnone : n.reset.opened.afterAll [] = n.reset.opened.reset := rfl
    have hin := afterAll_enclosed ho hc hnone
    rw [List.nil_append] at hin
    refine primaryBounds_leaf ?_ rfl rfl id
    rw [afterAll_cons, after_of_isPath ht.isPath, hin, reset_reset]
  | @Primary.call t head o ts args c ht ho ha hc =>
    -- the name ends the prefixes, so they take no room in the arguments
    have hin := ha.bounds n.reset.opened
    have hafter : n.after t = n.reset := after_of_isPath ht.isPath
    have hpeak : n.reset.opened.peak ts ≤ n.peak (t :: o :: (ts ++ [c])) :=
      (peak_enclosed_le ho c).trans (hafter ▸ peak_after_le n t _)
    have hnesting : (head.toExpr args).nesting = Expr.nestingArgs args := Nat.zero_max _
    have hroom : ∀ m, n.peak (t :: o :: (ts ++ [c])) ≤ n.parens + m →
        2 * (m + Expr.nestingArgs args) ≤ m * (m + 3) := by
      intro m hm
      have hdepth := (depth_le_peak n.reset.opened ts).trans (hpeak.trans hm)
      rw [Nesting.depth, parens_opened, parens_reset] at hdepth
      obtain ⟨k, rfl⟩ : ∃ k, m = k + 1 := ⟨m - 1, by omega⟩
      have hroom := hin.room k (by rw [parens_opened, parens_reset]; omega)
      nlinarith
    refine ⟨⟨?_, ?_, fun m hm => ?_, fun hcounted => ?_⟩, fun m hm => ?_, fun _ h => h.elim⟩
    · rw [afterAll_cons, hafter, afterAll_enclosed ho hc hin.after, reset_reset]
    · exact depth_le_peak n _
    · have hall := hroom m hm
      rw [hnesting]
      omega
    · have hargs : ∀ e ∈ args, e.PrefixesCounted := by
        intro e he
        refine hcounted.mono fun x hx => List.mem_cons_of_mem _ (List.mem_append_right _ ?_)
        exact Expr.nodes_subset_nodesAll he hx
      have hcounted := hin.counted hargs
      rw [parens_opened, parens_reset] at hcounted
      rw [hnesting]
      omega
    · rw [hnesting]
      exact hroom m hm

/-- `Nesting.ArgsBounds` of the arguments of a call, one after the other. -/
theorem Args.bounds {ts : List Token} {args : List Expr} (h : Args ts args) (n : Nesting) :
    ArgsBounds n ts args := by
  match h with
  | .single h =>
    have he := h.bounds n
    refine ⟨he.after, fun m hm => ?_, fun hcounted => ?_⟩
    · have hroom := he.room m hm
      simp only [Expr.nestingArgs]
      omega
    · have hcounted := he.counted (hcounted _ List.mem_cons_self)
      simp only [Expr.nestingArgs]
      omega
  | @Args.more ls args t rs e ha ht h =>
    -- a comma ends prefixes, as an operator does
    have hafter : n.reset.after t = n.reset := after_eq_reset (by simp [ht])
    have hargs := ha.bounds n
    have he := h.bounds n.reset
    have hpl := peak_left_le n ls (t :: rs)
    have hpr : n.reset.peak rs ≤ n.peak (ls ++ t :: rs) := peak_right_le hargs.after hafter
    refine ⟨afterAll_between hargs.after hafter he.after, fun m hm => ?_, fun hcounted => ?_⟩
    · have hroomLeft := hargs.room m (hpl.trans hm)
      have hroomRight := he.room m (hpr.trans hm)
      rw [Expr.nestingArgs_concat]
      omega
    · rw [List.forall_mem_append, List.forall_mem_singleton] at hcounted
      have hleft := hargs.counted hcounted.1
      have hright := he.counted hcounted.2
      rw [parens_reset] at hright
      rw [Expr.nestingArgs_concat]
      omega

end

end Grammar

/-- The limit bounds the nesting of what is accepted: twice the nesting is at most `max * (max + 3)`.
If no prefix is forgotten too early, the nesting is at most `max`. -/
theorem nesting_le {l : Limits} {max : Nat} {ts : List Token} {e : Expr}
    (hmax : l.maxNesting = some max) (hts : l.checkNesting ts = .ok ()) (he : parse ts = .ok e) :
    2 * e.nesting ≤ max * (max + 3) ∧ (e.PrefixesCounted → e.nesting ≤ max) := by
  have hbounds := (parse_sound he).bounds {}
  -- the parser reads only the tokens before the end
  have hpeak : ({} : Nesting).peak (beforeEnd ts) ≤ max := by
    -- the check bounds the peak along all tokens, and so along the first ones
    have hall := Limits.checkNesting_eq_ok_iff.mp hts max hmax
    have hsplit : ts = beforeEnd ts ++ ts.dropWhile fun t => t.kind != .eof :=
      List.takeWhile_append_dropWhile.symm
    rw [hsplit] at hall
    exact (Nesting.peak_left_le _ _ _).trans hall
  constructor
  · exact hbounds.room max (by simpa using hpeak)
  · intro hcounted
    have hnesting := hbounds.counted hcounted
    simp only [Nat.zero_add] at hnesting
    exact hnesting.trans hpeak

/-- A source whose tokens pass a limit of one, with an argument of a call behind a prefix. -/
private theorem exists_not_call :
    ∃ ts, tokenize "!Name.Contains(\"x\")" = .ok ts ∧
      (⟨none, some 1⟩ : Limits).checkNesting ts = .ok () ∧
      parse ts = .ok (.not
        (.call (.path ["Name"] 1) "Contains" [.literal (.string "x") 15] 6) 0) := by
  have hclose : Lexes [] 18 [')'] [⟨.rparen, ")", 18⟩] := .single rfl rfl
  have hargument : Lexes ([')'] ++ []) 15 "\"x\"".toList [⟨.string, "\"x\"", 15⟩] := .single rfl rfl
  have hopen : Lexes ("\"x\")".toList ++ []) 14 ['('] [⟨.lparen, "(", 14⟩] := .single rfl rfl
  have hname : Lexes ("(\"x\")".toList ++ []) 1 "Name.Contains".toList
      [⟨.identifier, "Name.Contains", 1⟩] := .single rfl rfl
  have hmark : Lexes ("Name.Contains(\"x\")".toList ++ []) 0 ['!'] [⟨.not, "!", 0⟩] :=
    .single rfl rfl
  have hlex := hmark.append (hname.append (hopen.append (hargument.append hclose)))
  exact ⟨_, tokenize_eq_ok_iff.mpr ⟨_, hlex, rfl⟩, rfl, rfl⟩

/-- The name of the call ends the prefix, so the limit has room for the parenthesis behind it, and
twice the nesting reaches `1 * (1 + 3)`. -/
theorem nesting_le_of_not_call :
    ∃ ts e, tokenize "!Name.Contains(\"x\")" = .ok ts ∧
      (⟨none, some 1⟩ : Limits).checkNesting ts = .ok () ∧ parse ts = .ok e ∧
      e.nesting = 2 ∧ 2 * e.nesting ≤ 1 * (1 + 3) := by
  obtain ⟨ts, hts, hcheck, he⟩ := exists_not_call
  have hmax : (⟨none, some 1⟩ : Limits).maxNesting = some 1 := rfl
  exact ⟨ts, _, hts, hcheck, he, rfl, (nesting_le hmax hcheck he).1⟩

/-- The limit itself is no bound: a prefix that the counter has forgotten is still around the
arguments of a call. -/
theorem not_forall_nesting_le :
    ¬ ∀ (source : String) (max : Nat) (ts : List Token) (e : Expr), tokenize source = .ok ts →
      (⟨none, some max⟩ : Limits).checkNesting ts = .ok () → parse ts = .ok e →
        e.nesting ≤ max := by
  intro h
  obtain ⟨ts, hts, hcheck, he⟩ := exists_not_call
  -- the nesting is two, the limit one
  have hle := h _ 1 ts _ hts hcheck he
  exact absurd hle (by decide)

end RecordFilter
