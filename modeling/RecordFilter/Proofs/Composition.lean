import RecordFilter.Proofs.Compilation
import RecordFilter.Proofs.ElaborationAlike
import RecordFilter.Sample
/-!
# Filters compose as texts

A filter that compiles can be put between parentheses anywhere in a larger text: its tokens are read
as before (`Lexes.before`, `Lexes.shift`), they derive the same expression with other offsets
(`OrExpr.exists_alike`), and that has the same plan (`planFilter_alike`).  So filters can be joined
and negated as texts, and the outcome is that of their results (`compile_compose`).
-/

namespace RecordFilter

open Grammar

/-- `OrExpr` derives alike expressions from alike tokens. -/
theorem Grammar.OrExpr.exists_alike {ts ts' : List Token} {e : Expr} (h : OrExpr ts e)
    (hts : List.Forall₂ Token.Alike ts ts') : ∃ e', OrExpr ts' e' ∧ e.Alike e' := by
  -- the parser gives both expressions, and it does not look at offsets
  have hrel := parse_alike hts
  have hparse := parse_complete (h.beforeEnd_eq ▸ h)
  rw [hparse] at hrel
  obtain ⟨e', hparse', he⟩ := hrel.exists_ok
  have hself : beforeEnd ts' = ts' := by
    -- as many tokens stand before the end on either side
    refine (List.takeWhile_prefix _).eq_of_length ?_
    have hlen := (beforeEnd_alike hts).length_eq
    rw [h.beforeEnd_eq, hts.length_eq] at hlen
    exact hlen.symm
  exact ⟨e', hself ▸ parse_sound hparse', he⟩

/-- `Token.shift` makes tokens that are alike to what they were. -/
private theorem forall₂_alike_shift (ts : List Token) (n : Nat) :
    List.Forall₂ Token.Alike ts (ts.map (·.shift n)) :=
  List.forall₂_map_right_iff.mpr (List.forall₂_same.mpr fun _ _ => ⟨rfl, rfl⟩)

section

variable {schema : Schema} {root : RecordId} {s s₁ s₂ : String} {p p₁ p₂ : Predicate}

/-! ### Parts of a joined text -/

/-- `Lexeme.Separates` holds of the closing parenthesis. -/
theorem separates_rparen : Lexeme.Separates ')' := ⟨by decide, rfl, rfl⟩

/-- `Primary` derives a text that compiles, between parentheses and wherever it stands, as an operand
with the plan of the text. -/
private theorem exists_group (h : compile schema root s = .ok p) (rest : List Char) (o : Nat) :
    ∃ ts e, Lexes rest o ('(' :: (s.toList ++ [')'])) ts ∧ Primary ts e ∧
      planFilter schema root e = .ok p.plan := by
  obtain ⟨ts, e, hts, he, hplan⟩ := compile_eq_ok_iff.mp h
  obtain ⟨e', he', hee'⟩ := he.exists_alike (forall₂_alike_shift ts (o + 1))
  have hplan' : Except.Rel ElaborationError.Alike Eq (planFilter schema root e)
      (planFilter schema root e') := planFilter_alike hee'
  rw [hplan] at hplan'
  obtain ⟨plan, hplan', rfl⟩ := hplan'.exists_ok
  -- the tokens of the part are those it has alone, moved behind the parenthesis
  have hopen : Lexes (s.toList ++ [')'] ++ rest) o ['('] [⟨.lparen, "(", o⟩] := .single rfl rfl
  have hclose : Lexes rest (o + 1 + s.toList.length) [')'] [⟨.rparen, ")", _⟩] := .single rfl rfl
  have hinner := (hts.before separates_rparen rest).shift (o + 1)
  rw [Nat.zero_add] at hinner
  exact ⟨_, e', hopen.append (hinner.append hclose), .group rfl he' rfl, hplan'⟩

/-- The class of the token that a connective is written as. -/
def Connective.kind : Connective → TokenKind
  | .and => .and
  | .or => .or

/-- `Lexes` reads a connective between blanks as its token. -/
theorem lexes_connective (op : Connective) (rest : List Char) (o : Nat) :
    Lexes rest o (' ' :: (op.symbol.toList ++ [' '])) [⟨op.kind, op.symbol, o + 1⟩] := by
  have hblank (o : Nat) : Lexes rest o [' '] [] := .blank rfl .done
  cases op with
  | and => exact .blank rfl (.append (.single rfl rfl) (hblank _))
  | or => exact .blank rfl (.append (.single rfl rfl) (hblank _))

/-- `OrExpr` derives the joined expression from two unary ones with the token of a connective between
them. -/
theorem orExpr_logical {op : Connective} {ls rs : List Token} {t : Token} {l r : Expr}
    (hl : UnaryExpr ls l) (ht : t.kind = op.kind) (hr : UnaryExpr rs r) :
    OrExpr (ls ++ t :: rs) (.logical op l r t.offset) := by
  cases op with
  | and => exact .and (.and (.unary hl) ht hr)
  | or => exact .or (.and (.unary hl)) ht (.unary hr)

/-! ### Plans of joined expressions -/

/-- `planFilter` of a connective joins the plans of its operands, if they are filters. -/
private theorem planFilter_logical {op : Connective} {l r : Expr} {pl pr : Plan} {o : Nat}
    (hl : planFilter schema root l = .ok pl) (hr : planFilter schema root r = .ok pr) :
    planFilter schema root (.logical op l r o) = .ok (op.plan pl pr) := by
  obtain ⟨tl, htl, hbl, rfl⟩ := planFilter_eq_ok_iff.mp hl
  obtain ⟨tr, htr, hbr, rfl⟩ := planFilter_eq_ok_iff.mp hr
  refine planFilter_eq_ok_iff.mpr
    ⟨{ plan := op.plan tl.plan tr.plan, type := .bool, offset := o }, ?_, rfl, rfl⟩
  simp only [elaborate, htl, htr, Except.ok_bind, TypedPlan.logical,
    TypedPlan.expectBool_eq_ok_iff.mpr ⟨rfl, hbl⟩, TypedPlan.expectBool_eq_ok_iff.mpr ⟨rfl, hbr⟩]
  cases op <;> rfl

/-- `planFilter` of a negation negates the plan of its operand, if that is a filter. -/
private theorem planFilter_not {e : Expr} {plan : Plan} {o : Nat}
    (h : planFilter schema root e = .ok plan) :
    planFilter schema root (.not e o) = .ok (.not plan) := by
  obtain ⟨t, ht, hb, rfl⟩ := planFilter_eq_ok_iff.mp h
  refine planFilter_eq_ok_iff.mpr ⟨{ plan := .not t.plan, type := t.type, offset := o }, ?_, hb, rfl⟩
  simp only [elaborate, ht, Except.ok_bind, TypedPlan.not,
    TypedPlan.expectBool_eq_ok_iff.mpr ⟨rfl, hb⟩]
  rfl

/-! ### Joined texts -/

/-- `compile` of two texts in parentheses with a connective between them joins their plans. -/
private theorem compile_logical (op : Connective) (h₁ : compile schema root s₁ = .ok p₁)
    (h₂ : compile schema root s₂ = .ok p₂) :
    compile schema root ("(" ++ s₁ ++ ") " ++ op.symbol ++ " (" ++ s₂ ++ ")") =
      .ok ⟨op.plan p₁.plan p₂.plan⟩ := by
  -- the text from left to right: a group, the connective between blanks, a group
  let mid := ' ' :: (op.symbol.toList ++ [' '])
  let right := '(' :: (s₂.toList ++ [')'])
  obtain ⟨ls, l, hls, hl, hpl⟩ := exists_group h₁ (mid ++ (right ++ [])) 0
  have hmid := hls.append (lexes_connective op (right ++ []) _)
  obtain ⟨rs, r, hrs, hr, hpr⟩ := exists_group h₂ [] (0 + ('(' :: (s₁.toList ++ [')']) ++ mid).length)
  have hlex := hmid.append hrs
  rw [← List.append_cons] at hlex
  -- the three parts, read one after the other, are the whole text
  have htext : ("(" ++ s₁ ++ ") " ++ op.symbol ++ " (" ++ s₂ ++ ")").toList =
      '(' :: (s₁.toList ++ [')']) ++ mid ++ right := by
    simp [mid, right]
  rw [← htext] at hlex
  exact compile_eq_ok_iff.mpr ⟨_, _, hlex,
    orExpr_logical (.compare (.primary hl)) rfl (.compare (.primary hr)), planFilter_logical hpl hpr⟩

/-- `compile` of a text in parentheses behind a prefix negates its plan. -/
private theorem compile_not (h : compile schema root s = .ok p) :
    compile schema root ("!(" ++ s ++ ")") = .ok ⟨.not p.plan⟩ := by
  obtain ⟨ts, e, hts, he, hplan⟩ := exists_group h [] 1
  have hnot : Lexes ('(' :: (s.toList ++ [')']) ++ []) 0 ['!'] [⟨.not, "!", 0⟩] := .single rfl rfl
  have hlex := hnot.append hts
  have htext : ("!(" ++ s ++ ")").toList = ['!'] ++ '(' :: (s.toList ++ [')']) := by simp
  rw [← htext] at hlex
  have hderive : OrExpr ([⟨.not, "!", 0⟩] ++ ts) (.not e 0) :=
    .and (.unary (.not rfl (.compare (.primary he))))
  exact compile_eq_ok_iff.mpr ⟨_, _, hlex, hderive, planFilter_not hplan⟩

/-- Texts that compile still do when they are put between parentheses and joined by `&&` or `||`, or
negated.  The outcome on a record is that of the parts.  What the host is asked is what the first
part asks, followed by what the second part asks if the first does not decide the outcome. -/
theorem compile_compose (h₁ : compile schema root s₁ = .ok p₁)
    (h₂ : compile schema root s₂ = .ok p₂) :
    (∃ p, compile schema root ("(" ++ s₁ ++ ") && (" ++ s₂ ++ ")") = .ok p ∧
      ∀ (ρ : Type) (host : Host ρ) (record : ρ),
        p.test host record = (p₁.test host record && p₂.test host record) ∧
        p.accesses host record = p₁.accesses host record ++
          if p₁.test host record = true then p₂.accesses host record else []) ∧
    (∃ p, compile schema root ("(" ++ s₁ ++ ") || (" ++ s₂ ++ ")") = .ok p ∧
      ∀ (ρ : Type) (host : Host ρ) (record : ρ),
        p.test host record = (p₁.test host record || p₂.test host record) ∧
        p.accesses host record = p₁.accesses host record ++
          if p₁.test host record = false then p₂.accesses host record else []) ∧
    ∃ p, compile schema root ("!(" ++ s₁ ++ ")") = .ok p ∧
      ∀ (ρ : Type) (host : Host ρ) (record : ρ),
        p.test host record = !p₁.test host record ∧
        p.accesses host record = p₁.accesses host record := by
  have hand := compile_logical .and h₁ h₂
  have hor := compile_logical .or h₁ h₂
  have htext (op : Connective) :
      "(" ++ s₁ ++ ") " ++ op.symbol ++ " (" ++ s₂ ++ ")" =
        "(" ++ s₁ ++ (") " ++ op.symbol ++ " (") ++ s₂ ++ ")" := by
    simp only [String.append_assoc]
  rw [htext] at hand hor
  refine ⟨⟨_, hand, ?_⟩, ⟨_, hor, ?_⟩, ⟨_, compile_not h₁, ?_⟩⟩
  · intro ρ host record
    exact ⟨rfl, rfl⟩
  · intro ρ host record
    refine ⟨rfl, ?_⟩
    -- running stops where the first part is true, which is said the other way round here
    show _ ++ (if p₁.test host record = true then [] else _) = _
    cases p₁.test host record <;> rfl
  · intro ρ host record
    exact ⟨rfl, rfl⟩

/-- Whoever works or does not work passes the filter that joins the two cases. -/
theorem compile_compose_of_active_or_not :
    compile Sample.schema Sample.personId "Active" = .ok ⟨.member .root "Active"⟩ ∧
      compile Sample.schema Sample.personId "!Active" = .ok ⟨.not (.member .root "Active")⟩ ∧
      ∃ p, compile Sample.schema Sample.personId "(Active) || (!Active)" = .ok p ∧
        ∀ person, p.test Sample.host (.person person) = true := by
  have hactive : compile Sample.schema Sample.personId "Active" = .ok ⟨.member .root "Active"⟩ := by
    have hparse : parse [⟨.identifier, "Active", 0⟩] = .ok (.path ["Active"] 0) := rfl
    exact compile_eq_ok_iff.mpr ⟨_, _, .single rfl rfl, parse_sound hparse, rfl⟩
  have hnot : compile Sample.schema Sample.personId "!Active" =
      .ok ⟨.not (.member .root "Active")⟩ := by
    have hparse : parse [⟨.not, "!", 0⟩, ⟨.identifier, "Active", 1⟩] =
        .ok (.not (.path ["Active"] 1) 0) := rfl
    have hmark : Lexes ("Active".toList ++ []) 0 ['!'] [⟨.not, "!", 0⟩] := .single rfl rfl
    exact compile_eq_ok_iff.mpr ⟨_, _, hmark.append (.single rfl rfl), parse_sound hparse, rfl⟩
  obtain ⟨-, ⟨p, hp, htest⟩, -⟩ := compile_compose hactive hnot
  refine ⟨hactive, hnot, p, hp, fun person => ?_⟩
  rw [(htest _ _ _).1]
  show (person.active || !person.active) = true
  exact Bool.or_not_self _

end

end RecordFilter
