import RecordFilter.Proofs.Except
import RecordFilter.Proofs.Grammar
/-!
# What the parser has read

Between two tokens the parser holds pieces of phrases: left operands that wait for right ones, open
parentheses, and an operand.  `ParserState.Reads` says which tokens these pieces stand for, in the
order of the source.  Each step appends the token that it reads (`ParserState.step_reads`), and so a
run from the start has read exactly the tokens it was given (`ParserState.run_reads`).
-/

namespace RecordFilter

open Grammar

/-! ### Pieces of phrases -/

/-- What waits beside an operator has been read from the tokens: a left operand and the operator, or
nothing. -/
def Waits (Phrase : List Token → Expr → Prop) (kind : TokenKind) :
    Option (Expr × Nat) → List Token → Prop
  | none, ts => ts = []
  | some (e, offset), ts => ∃ ls t, ts = ls ++ [t] ∧ Phrase ls e ∧ t.kind = kind ∧ t.offset = offset

def ComparisonWaits : Option (Expr × Comparison × Nat) → List Token → Prop
  | none, ts => ts = []
  | some (e, op, offset), ts => Waits Primary (.comparison op) (some (e, offset)) ts

/-- The prefixes at the offsets, the innermost first, have been read from the tokens. -/
def PrefixesRead (offsets : List Nat) (ts : List Token) : Prop :=
  (∀ t ∈ ts, t.kind = .not) ∧ ts.map (·.offset) = offsets.reverse

namespace Pending

/-- What waits inside a parenthesis has been read from the tokens. -/
def Reads (p : Pending) (ts : List Token) : Prop :=
  ∃ ds cs ns ms, ts = ds ++ (cs ++ (ns ++ ms)) ∧ Waits OrExpr .or p.disjunction ds ∧
    Waits AndExpr .and p.conjunction cs ∧ PrefixesRead p.negations ns ∧
    ComparisonWaits p.comparison ms

/-- `Pending.empty` has read nothing. -/
private theorem empty_reads : Pending.empty.Reads [] :=
  ⟨[], [], [], [], rfl, rfl, rfl, ⟨List.forall_mem_nil _, rfl⟩, rfl⟩

/-- `Pending.Reads` has read nothing where nothing waits. -/
private theorem Reads.eq_nil {p : Pending} {ts : List Token} (h : p.Reads ts) (hp : p.isEmpty = true) :
    ts = [] := by
  obtain ⟨d, c, n, m⟩ := p
  obtain ⟨ds, cs, ns, ms, rfl, hd, hc, hn, hm⟩ := h
  simp only [isEmpty, Bool.and_eq_true, Option.isNone_iff_eq_none, List.isEmpty_iff] at hp
  obtain ⟨⟨⟨rfl, rfl⟩, rfl⟩, rfl⟩ := hp
  have hns : ns = [] := List.map_eq_nil_iff.mp hn.2
  rw [show ds = [] from hd, show cs = [] from hc, show ms = [] from hm, hns]
  rfl

variable {p : Pending} {ts ds cs ns ms us : List Token} {e : Expr}

/-- `Pending.compared` gives an operand to the comparison that waits for it. -/
private theorem compareExpr_compared (hm : ComparisonWaits p.comparison ms) (h : Primary us e) :
    CompareExpr (ms ++ us) (p.compared e) := by
  unfold compared
  split
  · rename_i left op offset hp
    rw [hp] at hm
    obtain ⟨ls, t, rfl, hl, ht, rfl⟩ := hm
    rw [List.append_assoc, List.singleton_append]
    exact .compare hl ht h
  · rename_i hp
    rw [hp] at hm
    subst hm
    exact .primary h

/-- `UnaryExpr` derives prefixes before a unary expression, the innermost last. -/
private theorem unaryExpr_foldl_not {offsets : List Nat} (hn : PrefixesRead offsets ns)
    (h : UnaryExpr us e) : UnaryExpr (ns ++ us) (offsets.foldl .not e) := by
  induction offsets generalizing ns us e with
  | nil =>
    obtain rfl : ns = [] := List.map_eq_nil_iff.mp hn.2
    exact h
  | cons offset offsets ih =>
    -- the innermost prefix is the last one read: it joins the operand first
    obtain ⟨hkind, hmap⟩ := hn
    rw [List.reverse_cons, List.map_eq_append_iff] at hmap
    obtain ⟨ns, last, rfl, hns, hlast⟩ := hmap
    obtain ⟨t, rfl, rfl⟩ := List.map_eq_singleton_iff.mp hlast
    rw [List.forall_mem_append, List.forall_mem_singleton] at hkind
    rw [List.append_assoc, List.singleton_append]
    exact ih ⟨hkind.1, hns⟩ (.not hkind.2 h)

/-- `Pending.negated` is derived from the prefixes, the waiting comparison and its right operand. -/
private theorem unaryExpr_negated (hn : PrefixesRead p.negations ns) (hm : ComparisonWaits p.comparison ms)
    (h : Primary us e) : UnaryExpr (ns ++ (ms ++ us)) (p.negated e) :=
  unaryExpr_foldl_not hn (.compare (compareExpr_compared hm h))

/-- `Pending.conjoined` gives an operand to the conjunction that waits for it. -/
private theorem andExpr_conjoined (hc : Waits AndExpr .and p.conjunction cs)
    (hn : PrefixesRead p.negations ns) (hm : ComparisonWaits p.comparison ms) (h : Primary us e) :
    AndExpr (cs ++ (ns ++ (ms ++ us))) (p.conjoined e) := by
  have hu := unaryExpr_negated hn hm h
  unfold conjoined
  split
  · rename_i left offset hp
    rw [hp] at hc
    obtain ⟨ls, t, rfl, hl, ht, rfl⟩ := hc
    rw [List.append_assoc, List.singleton_append]
    exact .and hl ht hu
  · rename_i hp
    rw [hp] at hc
    subst hc
    exact .unary hu

/-- `Pending.complete` gives an operand to all that waits for it. -/
theorem Reads.orExpr_complete (hp : p.Reads ts) (h : Primary us e) :
    OrExpr (ts ++ us) (p.complete e) := by
  obtain ⟨ds, cs, ns, ms, rfl, hd, hc, hn, hm⟩ := hp
  -- what binds tighter is completed first, and stands further to the right
  have ha := andExpr_conjoined hc hn hm h
  simp only [List.append_assoc]
  unfold complete
  split
  · rename_i left offset hp
    rw [hp] at hd
    obtain ⟨ls, t, rfl, hl, ht, rfl⟩ := hd
    rw [List.append_assoc, List.singleton_append]
    exact .or hl ht ha
  · rename_i hp
    rw [hp] at hd
    subst hd
    exact .and ha

end Pending

/-! ### States -/

/-- An open parenthesis, and the arguments before it is closed, have been read from the tokens. -/
inductive Opening.Reads : Opening → List Token → Prop where
  | group {t : Token} (ht : t.kind = .lparen) : Reads (.group t) [t]
  | call {t : Token} {head : CallHead} {o : Token} (ht : t.IsCallHead head)
      (ho : o.kind = .lparen) : Reads (.call head [] o) [t, o]
  | args {t : Token} {head : CallHead} {o : Token} {ts : List Token} {args : List Expr} {c : Token}
      (ht : t.IsCallHead head) (ho : o.kind = .lparen) (ha : Args ts args) (hc : c.kind = .comma) :
      Reads (.call head args o) (t :: o :: (ts ++ [c]))

/-- `Args` derives the arguments of the open call with one more. -/
private theorem Opening.Reads.args_concat {head : CallHead} {args : List Expr} {o : Token}
    {ts us : List Token} {e : Expr} (h : (Opening.call head args o).Reads ts) (he : OrExpr us e) :
    ∃ t vs, ts ++ us = t :: o :: vs ∧ t.IsCallHead head ∧ o.kind = .lparen ∧
      Args vs (args ++ [e]) := by
  cases h with
  | call ht ho => exact ⟨_, us, rfl, ht, ho, .single he⟩
  | args ht ho ha hc => exact ⟨_, _, by simp, ht, ho, .more ha hc he⟩

/-- The open parentheses and what waits around them have been read from the tokens. -/
inductive EnclosingReads : List (Opening × Pending) → List Token → Prop where
  | nil : EnclosingReads [] []
  | cons {opening : Opening} {outer : Pending} {more : List (Opening × Pending)}
      {as bs cs : List Token} (hmore : EnclosingReads more as) (houter : outer.Reads bs)
      (hopening : opening.Reads cs) :
      EnclosingReads ((opening, outer) :: more) (as ++ (bs ++ cs))

/-- The operand, or the path that may become a call, has been read from the tokens. -/
inductive Operand.Reads : Operand → List Token → Prop where
  | missing : Reads .missing []
  | path {t : Token} {names : List String} (ht : t.IsPath names) : Reads (.path t names) [t]
  | complete {ts : List Token} {e : Expr} (h : Primary ts e) : Reads (.complete e) ts

namespace ParserState

/-- The state has been read from the tokens. -/
def Reads (s : ParserState) (ts : List Token) : Prop :=
  ∃ as bs cs, ts = as ++ (bs ++ cs) ∧ EnclosingReads s.enclosing as ∧ s.pending.Reads bs ∧
    s.operand.Reads cs

/-- `ParserState.Reads` of the start: nothing has been read. -/
theorem start_reads : ParserState.Reads {} [] :=
  ⟨[], [], [], rfl, .nil, Pending.empty_reads, .missing⟩

variable {s s' : ParserState} {ts us : List Token} {t : Token} {e : Expr}

/-- `ParserState.Reads` where an operand is missing: all has been read into the enclosing parentheses
and what waits. -/
private theorem Reads.of_missing (h : s.Reads ts) (hs : s.operand = .missing) :
    ∃ as bs, ts = as ++ bs ∧ EnclosingReads s.enclosing as ∧ s.pending.Reads bs := by
  obtain ⟨as, bs, cs, rfl, ha, hb, hc⟩ := h
  rw [hs] at hc
  cases hc
  exact ⟨as, bs, by simp, ha, hb⟩

/-- `emptyCall?` closes a call right behind its opening parenthesis. -/
private theorem emptyCall?_reads (h : s.Reads ts) (hs : s.operand = .missing) (ht : t.kind = .rparen)
    (hclosed : s.emptyCall? = some s') : s'.Reads (ts ++ [t]) := by
  obtain ⟨as, bs, rfl, ha, hb⟩ := h.of_missing hs
  unfold emptyCall? at hclosed
  split at hclosed
  · rename_i head o outer more henc
    rw [Option.ite_none_right_eq_some] at hclosed
    obtain ⟨hempty, hclosed⟩ := hclosed
    cases hclosed
    -- nothing was read since the parenthesis was opened
    obtain rfl := hb.eq_nil hempty
    rw [henc] at ha
    cases ha with
    | cons hmore houter hopening =>
      cases hopening with
      | call hh ho => exact ⟨_, _, _, by simp, hmore, houter, .complete (.emptyCall hh ho ht)⟩
      | args hh ho hargs hc => exact absurd rfl hargs.ne_nil
  · simp at hclosed

/-- `readOperand` reads a token where an operand is expected. -/
private theorem readOperand_reads (h : s.Reads ts) (hs : s.operand = .missing)
    (hstep : s.readOperand t = .ok s') : s'.Reads (ts ++ [t]) := by
  obtain ⟨as, bs, rfl, ha, hb⟩ := h.of_missing hs
  have literal {value : Literal} (hv : t.IsLiteral value) :
      (s.withOperand (.literal value t.offset)).Reads (as ++ bs ++ [t]) :=
    ⟨as, bs, [t], List.append_assoc .., ha, hb, .complete (.literal hv)⟩
  unfold readOperand at hstep
  split at hstep
  · -- `!`: one more prefix, unless a comparison waits for its operand
    rename_i hk
    split at hstep
    · rename_i hcmp
      cases hstep
      obtain ⟨ds, cs, ns, ms, rfl, hd, hc, hn, hm⟩ := hb
      rw [Option.isNone_iff_eq_none] at hcmp
      rw [hcmp] at hm
      obtain rfl : ms = [] := hm
      refine ⟨as, ds ++ (cs ++ (ns ++ [t])), [], by simp, ha, ?_, hs ▸ .missing⟩
      refine ⟨ds, cs, ns ++ [t], [], by simp, hd, hc, ⟨?_, ?_⟩, by rw [hcmp]; rfl⟩
      · exact List.forall_mem_append.mpr ⟨hn.1, List.forall_mem_singleton.mpr hk⟩
      · simp [hn.2]
    · simp at hstep
  · -- `(`: what waits so far waits outside
    rename_i hk
    cases hstep
    exact ⟨_, [], [], by simp, .cons ha hb (.group hk), Pending.empty_reads, .missing⟩
  · -- a path, that may still become a call
    rename_i hk
    split at hstep
    · rename_i names hnames
      cases hstep
      have hpath : t.IsPath names := Token.isPath_iff.mpr ⟨hk, hnames⟩
      exact ⟨as, bs, [t], List.append_assoc .., ha, hb, .path hpath⟩
    · simp at hstep
  · -- the literals
    rename_i hk
    split at hstep
    · rename_i text htext
      cases hstep
      exact literal (.string hk (unquote?_eq_some_iff.mp htext))
    · simp at hstep
  · rename_i hk
    cases hstep
    exact literal (.number hk)
  · rename_i hk
    cases hstep
    exact literal (.boolean hk)
  · rename_i hk
    cases hstep
    exact literal (.null hk)
  · -- `)`: only a call without arguments ends where an operand is expected
    rename_i hk
    split at hstep
    · rename_i closed hclosed
      cases hstep
      exact emptyCall?_reads h hs hk hclosed
    · split at hstep <;> simp at hstep
  all_goals simp at hstep

/-- `refuse` never succeeds. -/
theorem refuse_ne_ok : s.refuse t ≠ .ok s' := by
  unfold refuse
  split <;> simp

/-- `readOperator` reads a token after a complete operand. -/
private theorem readOperator_reads {as bs cs : List Token} (ha : EnclosingReads s.enclosing as)
    (hb : s.pending.Reads bs) (he : Primary cs e) (hstep : s.readOperator e t = .ok s') :
    s'.Reads (as ++ (bs ++ cs) ++ [t]) := by
  have hcomplete : OrExpr (bs ++ cs) (s.pending.complete e) := hb.orExpr_complete he
  unfold readOperator at hstep
  dsimp only at hstep
  split at hstep
  · -- a comparison: the operand waits, unless another comparison did
    rename_i op hk
    split at hstep
    · rename_i hcmp
      cases hstep
      obtain ⟨ds, cs', ns, ms, rfl, hd, hc, hn, hm⟩ := hb
      rw [Option.isNone_iff_eq_none] at hcmp
      rw [hcmp] at hm
      obtain rfl : ms = [] := hm
      refine ⟨as, ds ++ (cs' ++ (ns ++ (cs ++ [t]))), [], by simp, ha, ?_, .missing⟩
      exact ⟨ds, cs', ns, cs ++ [t], rfl, hd, hc, hn, cs, t, rfl, he, hk, rfl⟩
    · exact absurd hstep refuse_ne_ok
  · -- `&&`: all but the disjunction is completed
    rename_i hk
    cases hstep
    obtain ⟨ds, cs', ns, ms, rfl, hd, hc, hn, hm⟩ := hb
    have hand := Pending.andExpr_conjoined hc hn hm he
    refine ⟨as, ds ++ ((cs' ++ (ns ++ (ms ++ cs))) ++ [t]), [], by simp, ha, ?_, .missing⟩
    exact ⟨ds, _, [], [], by simp, hd, ⟨_, t, rfl, hand, hk, rfl⟩, ⟨List.forall_mem_nil _, rfl⟩, rfl⟩
  · -- `||`: all that waits is completed
    rename_i hk
    cases hstep
    refine ⟨as, bs ++ cs ++ [t], [], by simp, ha, ?_, .missing⟩
    exact ⟨_, [], [], [], by simp, ⟨_, t, rfl, hcomplete, hk, rfl⟩, rfl, ⟨List.forall_mem_nil _, rfl⟩,
      rfl⟩
  · -- `)`: the parenthesis becomes an operand of what waits outside
    rename_i hk
    split at hstep
    · simp at hstep
    · rename_i o outer more henc
      cases hstep
      rw [henc] at ha
      cases ha with
      | cons hmore houter hopening =>
        cases hopening with
        | group ho => exact ⟨_, _, _, by simp, hmore, houter, .complete (.group ho hcomplete hk)⟩
    · rename_i head args o outer more henc
      cases hstep
      rw [henc] at ha
      cases ha with
      | cons hmore houter hopening =>
        obtain ⟨h, vs, hvs, hh, ho, hargs⟩ := hopening.args_concat hcomplete
        refine ⟨_, _, _, ?_, hmore, houter, .complete (.call hh ho hargs hk)⟩
        rw [← List.cons_append, ← List.cons_append, ← hvs]
        simp
  · -- `,`: one more argument of a call that stays open
    rename_i hk
    split at hstep
    · rename_i head args o outer more henc
      cases hstep
      rw [henc] at ha
      cases ha with
      | cons hmore houter hopening =>
        obtain ⟨h, vs, hvs, hh, ho, hargs⟩ := hopening.args_concat hcomplete
        refine ⟨_, [], [], ?_, .cons hmore houter (.args hh ho hargs hk), Pending.empty_reads,
          .missing⟩
        rw [← List.cons_append, ← List.cons_append, ← hvs]
        simp
    · exact absurd hstep refuse_ne_ok
  · exact absurd hstep refuse_ne_ok

/-- `step` reads its token. -/
theorem step_reads (h : s.Reads ts) (hstep : s.step t = .ok s') : s'.Reads (ts ++ [t]) := by
  unfold step at hstep
  split at hstep
  · rename_i hs
    exact readOperand_reads h hs hstep
  · rename_i token names hs
    obtain ⟨as, bs, cs, rfl, ha, hb, hc⟩ := h
    rw [hs] at hc
    cases hc with
    | path hpath =>
      -- a parenthesis after a path opens a call, anything else follows it as an operand
      split at hstep
      · rename_i hk
        split at hstep
        · rename_i head hhead
          cases hstep
          have hcall := ((CallHead.ofPath?_eq_some_iff hpath).mp hhead).1
          exact ⟨_, [], [], by simp, .cons ha hb (.call hcall hk), Pending.empty_reads, .missing⟩
        · simp at hstep
      · exact readOperator_reads ha hb (.path hpath) hstep
  · rename_i e hs
    obtain ⟨as, bs, cs, rfl, ha, hb, hc⟩ := h
    rw [hs] at hc
    cases hc with
    | complete he => exact readOperator_reads ha hb he hstep

/-! ### Runs -/

/-- The state after reading tokens one after the other. -/
def run (s : ParserState) (ts : List Token) : Except ParseError ParserState := ts.foldlM step s

/-- `run` without tokens stays where it is. -/
@[simp] theorem run_nil (s : ParserState) : s.run [] = .ok s := rfl

/-- `run` takes a step for its first token. -/
theorem run_cons (s : ParserState) (t : Token) (ts : List Token) :
    s.run (t :: ts) = (s.step t >>= fun s' => s'.run ts) := rfl

/-- `run` takes two lists of tokens one after the other. -/
theorem run_append (s : ParserState) (ts us : List Token) :
    s.run (ts ++ us) = (s.run ts >>= fun s' => s'.run us) :=
  List.foldlM_append

/-- `run` reads the tokens that it takes, behind those that were read before. -/
theorem run_reads (h : s.Reads ts) (hrun : s.run us = .ok s') : s'.Reads (ts ++ us) := by
  induction us generalizing s ts with
  | nil =>
    cases hrun
    rwa [List.append_nil]
  | cons t us ih =>
    rw [run_cons, Except.bind_eq_ok_iff] at hrun
    obtain ⟨s₁, hstep, hrun⟩ := hrun
    -- each step keeps the invariant (`step_reads`)
    rw [List.append_cons]
    exact ih (step_reads h hstep) hrun

end ParserState

end RecordFilter
