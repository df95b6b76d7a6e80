import Mathlib.Data.List.Forall2
import RecordFilter.Expr.Parser
import RecordFilter.Proofs.Except
/-!
# Alike but for offsets

Tokens, expressions and errors carry offsets, which say where they stand and nothing else.  Two of
them are alike if they differ in their offsets only.  The parser takes tokens that are alike to
outcomes that are alike (`parse_alike`): it never decides by an offset.
-/

namespace RecordFilter

/-! ### Tokens and expressions -/

/-- The tokens differ in their offsets only. -/
structure Token.Alike (t u : Token) : Prop where
  kind : t.kind = u.kind
  text : t.text = u.text

/-- The errors differ in their offsets only. -/
structure ParseError.Alike (e e' : ParseError) : Prop where
  fault : e.fault = e'.fault
  token : e.token = e'.token

mutual

/-- The expressions differ in their offsets only. -/
inductive Expr.Alike : Expr → Expr → Prop where
  | logical {op l l' r r' o o'} (hl : l.Alike l') (hr : r.Alike r') :
      Alike (.logical op l r o) (.logical op l' r' o')
  | compare {op l l' r r' o o'} (hl : l.Alike l') (hr : r.Alike r') :
      Alike (.compare op l r o) (.compare op l' r' o')
  | not {e e' o o'} (h : e.Alike e') : Alike (.not e o) (.not e' o')
  | path {names o o'} : Alike (.path names o) (.path names o')
  | literal {value o o'} : Alike (.literal value o) (.literal value o')
  | call {target target' method args args' o o'} (ht : target.Alike target')
      (ha : Expr.AllAlike args args') :
      Alike (.call target method args o) (.call target' method args' o')

/-- The expressions of two lists differ in their offsets only. -/
inductive Expr.AllAlike : List Expr → List Expr → Prop where
  | nil : AllAlike [] []
  | cons {e e' es es'} (h : e.Alike e') (hs : AllAlike es es') : AllAlike (e :: es) (e' :: es')

end

/-- `Expr.AllAlike` survives that an alike expression is appended on each side, as the parser does with
a complete argument. -/
theorem Expr.AllAlike.concat {es es' : List Expr} {e e' : Expr} (hs : AllAlike es es')
    (h : e.Alike e') : AllAlike (es ++ [e]) (es' ++ [e']) := by
  match hs with
  | .nil => exact .cons h .nil
  | .cons h' hs => exact .cons h' (hs.concat h)

/-- `Token.Alike` does not depend on the order of the two tokens. -/
theorem Token.Alike.symm {t u : Token} (h : t.Alike u) : u.Alike t := ⟨h.kind.symm, h.text.symm⟩

mutual

/-- `Expr.Alike` does not depend on the order of the two expressions; by recursion on the derivation. -/
theorem Expr.Alike.symm {e e' : Expr} (h : e.Alike e') : e'.Alike e := by
  match h with
  | .logical hl hr => exact .logical hl.symm hr.symm
  | .compare hl hr => exact .compare hl.symm hr.symm
  | .not h => exact .not h.symm
  | .path => exact .path
  | .literal => exact .literal
  | .call ht ha => exact .call ht.symm ha.symm

/-- The lists of arguments in `Expr.Alike.symm`. -/
theorem Expr.AllAlike.symm {es es' : List Expr} (h : AllAlike es es') : AllAlike es' es := by
  match h with
  | .nil => exact .nil
  | .cons h hs => exact .cons h.symm hs.symm

end

mutual

/-- `Alike` is transitive: the two derivations have the same shape. -/
theorem Expr.Alike.trans {e e' e'' : Expr} (h : e.Alike e') (h' : e'.Alike e'') : e.Alike e'' := by
  match h, h' with
  | .logical hl hr, .logical hl' hr' => exact .logical (hl.trans hl') (hr.trans hr')
  | .compare hl hr, .compare hl' hr' => exact .compare (hl.trans hl') (hr.trans hr')
  | .not h, .not h' => exact .not (h.trans h')
  | .path, .path => exact .path
  | .literal, .literal => exact .literal
  | .call ht ha, .call ht' ha' => exact .call (ht.trans ht') (ha.trans ha')

/-- The lists of arguments in `Expr.Alike.trans`. -/
theorem Expr.AllAlike.trans {es es' es'' : List Expr} (h : AllAlike es es')
    (h' : AllAlike es' es'') : AllAlike es es'' := by
  match h, h' with
  | .nil, .nil => exact .nil
  | .cons h hs, .cons h' hs' => exact .cons (h.trans h') (hs.trans hs')

end

/-! ### States of the parser -/

/-- `Option.Rel` holds of options that are both absent or both present. -/
private theorem isNone_eq {α β : Type} {r : α → β → Prop} {a : Option α} {b : Option β}
    (h : Option.Rel r a b) : a.isNone = b.isNone := by
  cases h <;> rfl

/-- `List.Forall₂` holds of lists that are both empty or both not. -/
private theorem isEmpty_eq {α β : Type} {r : α → β → Prop} {as : List α} {bs : List β}
    (h : List.Forall₂ r as bs) : as.isEmpty = bs.isEmpty := by
  cases h <;> rfl

namespace Pending

/-- What waits differs in its offsets only. -/
structure Alike (p q : Pending) : Prop where
  disjunction : Option.Rel (fun a b => a.1.Alike b.1) p.disjunction q.disjunction
  conjunction : Option.Rel (fun a b => a.1.Alike b.1) p.conjunction q.conjunction
  negations : p.negations.length = q.negations.length
  comparison : Option.Rel (fun a b => a.1.Alike b.1 ∧ a.2.1 = b.2.1) p.comparison q.comparison

variable {p q : Pending} {e e' : Expr}

/-- `Pending.empty` is alike to itself. -/
theorem Alike.empty : Pending.empty.Alike .empty := ⟨.none, .none, rfl, .none⟩

/-- `Pending.isEmpty` looks at no offset. -/
theorem Alike.isEmpty (h : p.Alike q) : p.isEmpty = q.isEmpty := by
  obtain ⟨d, c, n, m⟩ := p
  obtain ⟨d', c', n', m'⟩ := q
  obtain ⟨hd, hc, hn, hm⟩ := h
  -- of the prefixes only the number is the same, and only the number counts
  have hempty : n.isEmpty = n'.isEmpty := by
    rw [Bool.eq_iff_iff, List.isEmpty_iff_length_eq_zero, List.isEmpty_iff_length_eq_zero, hn]
  cases hd <;> cases hc <;> cases hm <;> simp [Pending.isEmpty, hempty]

/-- `Pending.compared` keeps alike operands alike: the waiting comparisons have the same operator. -/
theorem Alike.compared (h : p.Alike q) (he : e.Alike e') :
    (p.compared e).Alike (q.compared e') := by
  obtain ⟨d, c, n, m⟩ := p
  obtain ⟨d', c', n', m'⟩ := q
  obtain ⟨-, -, -, hm⟩ := h
  -- either no comparison waits, or one with the same operator on each side
  cases hm with
  | none => exact he
  | @some a b h =>
    obtain ⟨l, op, o⟩ := a
    obtain ⟨l', op', o'⟩ := b
    obtain ⟨hl, rfl⟩ := h
    exact .compare hl he

/-- `Expr.not`, applied for each of some prefixes, makes alike expressions of alike ones. -/
private theorem foldl_not_alike {n n' : List Nat} (hn : n.length = n'.length) (he : e.Alike e') :
    (n.foldl .not e).Alike (n'.foldl .not e') := by
  induction n generalizing n' e e' with
  | nil =>
    obtain rfl := List.length_eq_zero_iff.mp hn.symm
    exact he
  | cons o n ih =>
    cases n' with
    | nil => exact nomatch hn
    | cons o' tail =>
      rw [List.length_cons, List.length_cons, Nat.succ_inj] at hn
      rw [List.foldl_cons, List.foldl_cons]
      exact ih hn (.not he)

/-- `Pending.negated` keeps alike operands alike: there are equally many prefixes on both sides. -/
theorem Alike.negated (h : p.Alike q) (he : e.Alike e') : (p.negated e).Alike (q.negated e') :=
  foldl_not_alike h.negations (h.compared he)

/-- `Pending.conjoined` keeps alike operands alike. -/
theorem Alike.conjoined (h : p.Alike q) (he : e.Alike e') :
    (p.conjoined e).Alike (q.conjoined e') := by
  have hn := h.negated he
  obtain ⟨d, c, n, m⟩ := p
  obtain ⟨d', c', n', m'⟩ := q
  obtain ⟨-, hc, -, -⟩ := h
  cases hc with
  | none => exact hn
  | some h => exact .logical h hn

/-- `Pending.complete` keeps alike operands alike. -/
theorem Alike.complete (h : p.Alike q) (he : e.Alike e') :
    (p.complete e).Alike (q.complete e') := by
  have hc := h.conjoined he
  obtain ⟨d, c, n, m⟩ := p
  obtain ⟨d', c', n', m'⟩ := q
  obtain ⟨hd, -, -, -⟩ := h
  cases hd with
  | none => exact hc
  | some h => exact .logical h hc

end Pending

/-- The heads of calls differ in their offsets only. -/
structure CallHead.Alike (h h' : CallHead) : Prop where
  target : h.target = h'.target
  method : h.method = h'.method

/-- Alike heads and arguments make alike calls (`CallHead.toExpr`). -/
theorem CallHead.Alike.toExpr {h h' : CallHead} {args args' : List Expr} (hh : h.Alike h')
    (ha : Expr.AllAlike args args') : (h.toExpr args).Alike (h'.toExpr args') := by
  obtain ⟨target, offset, method, methodOffset⟩ := h
  obtain ⟨target', offset', method', methodOffset'⟩ := h'
  obtain ⟨rfl, rfl⟩ := hh
  exact .call .path ha

/-- The open parentheses differ in their offsets only. -/
inductive Opening.Alike : Opening → Opening → Prop where
  | group {t t'} (ht : t.Alike t') : Alike (.group t) (.group t')
  | call {h h' args args' t t'} (hh : h.Alike h') (ha : Expr.AllAlike args args')
      (ht : t.Alike t') : Alike (.call h args t) (.call h' args' t')

/-- The tokens of alike open parentheses are alike (`Opening.paren`). -/
theorem Opening.Alike.paren {o o' : Opening} (h : o.Alike o') : o.paren.Alike o'.paren := by
  cases h with
  | group ht => exact ht
  | call _ _ ht => exact ht

/-- The operands differ in their offsets only. -/
inductive Operand.Alike : Operand → Operand → Prop where
  | missing : Alike .missing .missing
  | path {t t' names} (ht : t.Alike t') : Alike (.path t names) (.path t' names)
  | complete {e e'} (he : e.Alike e') : Alike (.complete e) (.complete e')

namespace ParserState

/-- The states differ in their offsets only. -/
structure Alike (s s' : ParserState) : Prop where
  pending : s.pending.Alike s'.pending
  enclosing : List.Forall₂ (fun a b => a.1.Alike b.1 ∧ a.2.Alike b.2) s.enclosing s'.enclosing
  operand : s.operand.Alike s'.operand

variable {s s' : ParserState} {t t' : Token} {e e' : Expr}

/-- `ParseError.ofToken` makes alike errors of one fault at alike tokens. -/
private theorem ofToken_alike (ht : t.Alike t') (fault : ParseFault) {S : ParserState → ParserState → Prop} :
    Except.Rel ParseError.Alike S (.error (.ofToken t fault)) (.error (.ofToken t' fault)) :=
  .error ⟨rfl, ht.text⟩

/-- `ParserState.emptyCall?` closes an empty call in both states or in none. -/
theorem Alike.emptyCall? (h : s.Alike s') : Option.Rel Alike s.emptyCall? s'.emptyCall? := by
  obtain ⟨p, enclosing, o⟩ := s
  obtain ⟨p', enclosing', o'⟩ := s'
  obtain ⟨hp, henc, -⟩ := h
  -- only a call that has no argument yet can be an empty call
  cases henc with
  | nil => exact .none
  | @cons a b _ _ hab hmore =>
    obtain ⟨opening, outer⟩ := a
    obtain ⟨opening', outer'⟩ := b
    obtain ⟨hopening, houter⟩ := hab
    cases hopening with
    | group ht => exact .none
    | call hh ha ht =>
      cases ha with
      | cons _ _ => exact .none
      | nil =>
        -- only whether something waits decides
        simp only [ParserState.emptyCall?, hp.isEmpty]
        split
        · exact .some ⟨houter, hmore, .complete (hh.toExpr .nil)⟩
        · exact .none

/-- `ParserState.readOperand` takes alike states and tokens to alike outcomes. -/
theorem Alike.readOperand (h : s.Alike s') (ht : t.Alike t') :
    Except.Rel ParseError.Alike Alike (s.readOperand t) (s'.readOperand t') := by
  have literal (value : Literal) : (s.withOperand (.literal value t.offset)).Alike
      (s'.withOperand (.literal value t'.offset)) :=
    ⟨h.pending, h.enclosing, .complete .literal⟩
  -- both sides branch on the class and the text, which are the same
  unfold ParserState.readOperand
  rw [← ht.kind, ← ht.text]
  split
  · -- `!`
    rw [isNone_eq h.pending.comparison]
    split
    · refine .ok ⟨⟨h.pending.disjunction, h.pending.conjunction, ?_, h.pending.comparison⟩,
        h.enclosing, h.operand⟩
      simp [h.pending.negations]
    · exact ofToken_alike ht _
  · exact .ok ⟨.empty, .cons ⟨.group ht, h.pending⟩ h.enclosing, .missing⟩
  · split
    · exact .ok ⟨h.pending, h.enclosing, .path ht⟩
    · exact ofToken_alike ht _
  · split
    · exact .ok (literal _)
    · exact ofToken_alike ht _
  · exact .ok (literal _)
  · exact .ok (literal _)
  · exact .ok (literal _)
  · -- `)`
    have hclosed := h.emptyCall?
    generalize s.emptyCall? = closed, s'.emptyCall? = closed' at hclosed
    cases hclosed with
    | some hcc => exact .ok hcc
    | none =>
      dsimp only
      rw [isEmpty_eq h.enclosing]
      split <;> exact ofToken_alike ht _
  all_goals exact ofToken_alike ht _

/-- `ParserState.refuse` chooses the same fault in alike states. -/
theorem Alike.refuse (h : s.Alike s') (ht : t.Alike t') :
    Except.Rel ParseError.Alike Alike (s.refuse t) (s'.refuse t') := by
  unfold ParserState.refuse
  rw [isEmpty_eq h.enclosing]
  split <;> exact ofToken_alike ht _

/-- `ParserState.readOperator` takes alike states, operands and tokens to alike outcomes. -/
theorem Alike.readOperator (h : s.Alike s') (ht : t.Alike t') (he : e.Alike e') :
    Except.Rel ParseError.Alike Alike (s.readOperator e t) (s'.readOperator e' t') := by
  have hcomplete := h.pending.complete he
  have hrefuse := h.refuse ht
  unfold ParserState.readOperator
  dsimp only
  rw [← ht.kind]
  split
  · -- a comparison
    rw [isNone_eq h.pending.comparison]
    split
    · exact .ok ⟨⟨h.pending.disjunction, h.pending.conjunction, h.pending.negations, .some ⟨he, rfl⟩⟩,
        h.enclosing, .missing⟩
    · exact hrefuse
  · -- `&&`
    exact .ok ⟨⟨h.pending.disjunction, .some (h.pending.conjoined he), rfl, .none⟩,
      h.enclosing, .missing⟩
  · -- `||`
    exact .ok ⟨⟨.some hcomplete, .none, rfl, .none⟩, h.enclosing, .missing⟩
  · -- `)`
    obtain ⟨p, enclosing, o⟩ := s
    obtain ⟨p', enclosing', o'⟩ := s'
    obtain ⟨-, henc, -⟩ := h
    -- the innermost parentheses are of one kind
    cases henc with
    | nil => exact ofToken_alike ht _
    | @cons a b _ _ hab hmore =>
      obtain ⟨opening, outer⟩ := a
      obtain ⟨opening', outer'⟩ := b
      obtain ⟨hopening, houter⟩ := hab
      cases hopening with
      | group _ => exact .ok ⟨houter, hmore, .complete hcomplete⟩
      | call hh ha _ => exact .ok ⟨houter, hmore, .complete (hh.toExpr (ha.concat hcomplete))⟩
  · -- `,`
    obtain ⟨p, enclosing, o⟩ := s
    obtain ⟨p', enclosing', o'⟩ := s'
    obtain ⟨-, henc, -⟩ := h
    cases henc with
    | nil => exact hrefuse
    | @cons a b _ _ hab hmore =>
      obtain ⟨opening, outer⟩ := a
      obtain ⟨opening', outer'⟩ := b
      obtain ⟨hopening, houter⟩ := hab
      cases hopening with
      | group _ => exact hrefuse
      | call hh ha ho =>
        have hopen := Opening.Alike.call hh (ha.concat hcomplete) ho
        exact .ok ⟨.empty, .cons ⟨hopen, houter⟩ hmore, .missing⟩
  · exact hrefuse

/-- `CallHead.ofPath?` looks at the names only, so the offset of the path does not matter. -/
private theorem ofPath?_alike (t t' : Token) (names : List String) :
    Option.Rel CallHead.Alike (CallHead.ofPath? t names) (CallHead.ofPath? t' names) := by
  unfold CallHead.ofPath?
  split
  · exact .some ⟨rfl, rfl⟩
  · exact .none

/-- `ParserState.step` takes alike states and tokens to alike outcomes. -/
theorem Alike.step (h : s.Alike s') (ht : t.Alike t') :
    Except.Rel ParseError.Alike Alike (s.step t) (s'.step t') := by
  obtain ⟨p, enclosing, o⟩ := s
  obtain ⟨p', enclosing', o'⟩ := s'
  obtain ⟨hp, henc, ho⟩ := h
  -- what has been read of the operand chooses the function that reads the token
  cases ho with
  | missing => exact readOperand ⟨hp, henc, .missing⟩ ht
  | @path u u' names hu =>
    dsimp only [ParserState.step]
    rw [← ht.kind]
    split
    · -- a path becomes the head of a call on both sides, or on neither
      have hhead := ofPath?_alike u u' names
      generalize CallHead.ofPath? u names = head, CallHead.ofPath? u' names = head' at hhead
      cases hhead with
      | none => exact ofToken_alike hu _
      | some hh => exact .ok ⟨.empty, .cons ⟨.call hh .nil ht, hp⟩ henc, .missing⟩
    · exact readOperator ⟨hp, henc, .path hu⟩ ht .path
  | complete he => exact readOperator ⟨hp, henc, .complete he⟩ ht he

/-- `ParserState.step`, taken for alike tokens one after the other, leads from alike states to alike
outcomes. -/
private theorem Alike.foldlM_step {ts ts' : List Token} (h : s.Alike s')
    (hts : List.Forall₂ Token.Alike ts ts') :
    Except.Rel ParseError.Alike Alike (ts.foldlM ParserState.step s)
      (ts'.foldlM ParserState.step s') := by
  -- along the tokens, with the states general
  induction hts generalizing s s' with
  | nil => exact .ok h
  | cons ht _ ih => exact (h.step ht).bind fun _ _ h => ih h

/-- `ParserState.finish` gives alike expressions in alike states, or refuses alike parentheses. -/
theorem Alike.finish (h : s.Alike s') (ht : t.Alike t') :
    Except.Rel ParseError.Alike Expr.Alike (s.finish t) (s'.finish t') := by
  obtain ⟨p, enclosing, o⟩ := s
  obtain ⟨p', enclosing', o'⟩ := s'
  obtain ⟨hp, henc, ho⟩ := h
  -- an operand is missing, or the innermost open parenthesis is cited, if there is one
  cases ho with
  | missing => exact .error ⟨rfl, ht.text⟩
  | path _ =>
    cases henc with
    | nil => exact .ok (hp.complete .path)
    | cons hopening _ => exact .error ⟨rfl, hopening.1.paren.text⟩
  | complete he =>
    cases henc with
    | nil => exact .ok (hp.complete he)
    | cons hopening _ => exact .error ⟨rfl, hopening.1.paren.text⟩

end ParserState

/-! ### Parsing -/

/-- `beforeEnd` takes alike tokens to alike tokens. -/
theorem beforeEnd_alike {ts ts' : List Token} (h : List.Forall₂ Token.Alike ts ts') :
    List.Forall₂ Token.Alike (beforeEnd ts) (beforeEnd ts') := by
  induction h with
  | nil => exact .nil
  | @cons t t' ts ts' ht _ ih =>
    unfold beforeEnd at ih ⊢
    rw [List.takeWhile_cons, List.takeWhile_cons, ← ht.kind]
    split
    · exact .cons ht ih
    · exact .nil

/-- The ends of input of alike tokens are alike (`inputEnd`). -/
private theorem inputEnd_alike {ts ts' : List Token} (h : List.Forall₂ Token.Alike ts ts') :
    (inputEnd ts).Alike (inputEnd ts') := by
  -- without an end of input, one is made up, and where it stands may differ
  have hend (o o' : Nat) : Token.Alike
      ((ts.find? fun t => t.kind == .eof).getD ⟨.eof, "", o⟩)
      ((ts'.find? fun t => t.kind == .eof).getD ⟨.eof, "", o'⟩) := by
    induction h with
    | nil => exact ⟨rfl, rfl⟩
    | @cons t t' ts ts' ht _ ih =>
      rw [List.find?_cons, List.find?_cons, ← ht.kind]
      split
      · exact ht
      · exact ih
  exact hend _ _

/-- `parse` takes alike tokens to alike expressions, or to alike errors. -/
theorem parse_alike {ts ts' : List Token} (h : List.Forall₂ Token.Alike ts ts') :
    Except.Rel ParseError.Alike Expr.Alike (parse ts) (parse ts') := by
  have hend := inputEnd_alike h
  have hbefore := beforeEnd_alike h
  unfold parse
  generalize beforeEnd ts = us, beforeEnd ts' = us' at hbefore
  cases hbefore with
  | nil => exact .error ⟨rfl, hend.text⟩
  | cons ht hts =>
    have hstart : ParserState.Alike {} {} := ⟨.empty, .nil, .missing⟩
    exact (hstart.foldlM_step (.cons ht hts)).bind fun _ _ hs => hs.finish hend

end RecordFilter
