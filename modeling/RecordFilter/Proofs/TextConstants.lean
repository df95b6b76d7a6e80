import RecordFilter.Proofs.CriteriaAgreement
import RecordFilter.Proofs.PrintedTokens
/-!
# Constants where a text is asked for

A literal is first given the type that its text suggests.  Where a text is asked for it becomes the
text that was written again (`Literal.convertConstant_text`), on each of the two ways there: beside the
operand of a comparison, and as the argument of a method that is found by conversion
(`TypedPlan.resolve_text`).  So a member that holds a text is compared with exactly the text of the
literal, in the order of `String` (`Comparison.holds_texts`), and its methods are called with exactly
that text (`text_kept`).
-/

namespace RecordFilter

open Grammar

/-! ### What a literal is as a text -/

/-- `inferText` of a text that suggests a text is the text itself. -/
theorem inferText_eq_str {text s : String} (h : inferText text = .str s) : s = text := by
  unfold inferText at h
  -- what reads as a number or a truth value suggests that; the last branch keeps the text
  split at h
  · exact nomatch h
  · split at h
    · exact nomatch h
    · split at h
      · exact nomatch h
      · split at h
        · exact nomatch h
        · exact (Scalar.str.inj h).symm

/-- `readNumber` is present, and a text only if it is the given one. -/
private theorem readNumber_kept (text : String) :
    readNumber text ≠ .null ∧ ∀ s, readNumber text = .str s → s = text := by
  have hint (i : Int64) : Scalar.int i ≠ .null ∧ ∀ s, Scalar.int i = .str s → s = text :=
    ⟨Scalar.noConfusion, fun _ h => Scalar.noConfusion h⟩
  have hfloat (x : Float) : Scalar.float x ≠ .null ∧ ∀ s, Scalar.float x = .str s → s = text :=
    ⟨Scalar.noConfusion, fun _ h => Scalar.noConfusion h⟩
  have htext : Scalar.str text ≠ .null ∧ ∀ s, Scalar.str text = .str s → s = text :=
    ⟨Scalar.noConfusion, fun _ h => (Scalar.str.inj h).symm⟩
  -- with a point a double is tried, without one an integer and then a double
  unfold readNumber
  dsimp only
  split
  · split
    · exact hfloat _
    · exact htext
  · split
    · exact hint _
    · split
      · exact hfloat _
      · exact htext

namespace Literal

variable {value : Literal} {text : String}

/-- `Literal.value` of a literal with a text is present, and a text only if it is that one. -/
theorem value_kept (h : value.source? = some text) :
    value.value ≠ .null ∧ ∀ s, value.value = .str s → s = text := by
  cases value with
  | null => exact nomatch h
  | bool b => exact ⟨Scalar.noConfusion, fun _ h => nomatch h⟩
  | number n =>
    obtain rfl : n = text := Option.some.inj h
    exact readNumber_kept n
  | string s =>
    obtain rfl : s = text := Option.some.inj h
    exact ⟨inferText_ne_null s, fun _ h => inferText_eq_str h⟩

/-- `convertConstant` of a literal to a text gives the text that was written for it. -/
theorem convertConstant_text {type : StaticType} (schema : Schema) (h : value.source? = some text)
    (htype : type.base = .str) :
    convertConstant schema value.value value.source? type = some (.str text) := by
  obtain ⟨base, nullable⟩ := type
  obtain rfl : base = .str := htype
  obtain ⟨hnull, hstr⟩ := value_kept h
  -- what is no text is written as the source, and a text is the source already
  rw [h]
  cases hv : value.value with
  | null => exact absurd hv hnull
  | str s => rw [hstr s hv]; rfl
  | bool _ | int _ | float _ => rfl

end Literal

/-- The text stands in a filter as it is written here: between quotes, or bare if it is a number or a
truth value. -/
inductive WrittenAs : String → String → Prop where
  | quoted {text} (h : '"' ∉ text.toList) : WrittenAs text ("\"" ++ text ++ "\"")
  | number {text} (h : TokenKind.number.IsLexeme text.toList) : WrittenAs text text
  | boolean {text} (h : TokenKind.boolean.IsLexeme text.toList) : WrittenAs text text

/-- `WrittenAs` gives a literal that keeps the text. -/
private theorem WrittenAs.exists_literal {text written : String} (h : WrittenAs text written) :
    ∃ value : Literal, value.IsWritable ∧ value.text = written ∧ value.source? = some text := by
  cases h with
  | quoted h => exact ⟨.string text, Literal.isWritable_string h, rfl, rfl⟩
  | number h => exact ⟨.number text, h, rfl, rfl⟩
  | boolean h =>
    -- of the names, only `true` and `false` are truth values
    have hspells := TokenKind.IsLexeme.spells h
    rw [String.ofList_toList] at hspells
    rcases hspells with rfl | rfl
    · exact ⟨.bool true, h, rfl, rfl⟩
    · exact ⟨.bool false, h, rfl, rfl⟩

/-! ### Comparisons of texts -/

/-- What the operator says of two texts in the order of their code points, which is the order of
`String`. -/
def Comparison.OfTexts : Comparison → String → String → Prop
  | eq, v, t => v = t
  | ne, v, t => v ≠ t
  | gt, v, t => t < v
  | ge, v, t => t ≤ v
  | lt, v, t => v < t
  | le, v, t => v ≤ t

/-- On two texts `Comparison.holds` is what the operator says of texts. -/
theorem Comparison.holds_texts {ρ : Type} (op : Comparison) {v t : String} :
    op.holds (.str v : Value ρ) (.str t) = true ↔ op.OfTexts v t := by
  have heq : Text.codePointOrder v.toList t.toList = .eq ↔ v = t :=
    Text.codePointOrder_eq_eq.trans String.toList_inj
  have hlt : Text.codePointOrder v.toList t.toList = .lt ↔ v < t := Text.codePointOrder_eq_lt
  have hgt : Text.codePointOrder v.toList t.toList = .gt ↔ t < v := Text.codePointOrder_eq_gt
  show op.ofOrdering (Text.codePointOrder v.toList t.toList) = true ↔ _
  -- `≤` and `≥` are the negations of the two strict orders
  cases op <;> simp [ofOrdering, OfTexts, heq, hlt, hgt, ← String.not_lt]

/-! ### Plans with a text -/

section

variable {schema : Schema} {root : RecordId} {m : Member} {value : Literal} {text : String}

namespace TypedPlan

/-- `compare` takes a member that holds a text with the text of the literal. -/
private theorem compare_text (op : Comparison) (htype : m.type.required = .str)
    (h : value.source? = some text) :
    compare schema op (.ofMember m) (.ofLiteral value) 0 =
      .ok { plan := .compare op (.member .root m.name) (.const (.str text)), type := .bool,
            offset := 0 } := by
  have hbase : (TypedPlan.ofMember m).type.base = .str := TypedPlan.ofMember_base htype
  -- the literal is converted to the kind of the member, where every operator is defined
  refine compare_const_eq_ok ?_ (Literal.value_kept h).1 (Literal.convertConstant_text schema h hbase)
    ?_
  · rw [hbase]
    exact BaseType.noConfusion
  · rw [hbase]
    rfl

/-- `resolve` gives a method that takes a text the text of the literal, whether the literal already is a
text or has to be converted. -/
theorem resolve_text {c : Candidate} (hparams : c.params = [.str]) (h : value.source? = some text) :
    ∃ args, resolve schema [.ofLiteral value] c [] = .ok (c, args) ∧
      args.map (·.plan) = [.const (.str text)] := by
  have hconvert : convertConstant schema value.value value.source? (.ofDeclared .str) =
      some (.str text) := Literal.convertConstant_text schema h rfl
  obtain ⟨a, ha, hplan⟩ : ∃ a, argument? schema .str (.ofLiteral value) = some a ∧
      a.plan = .const (.str text) := by
    by_cases hstr : value.value.staticType.base = .str
    · -- the literal is a text already, and so the text that was written
      rw [convertConstant_self (Literal.value_kept h).1 hstr.symm] at hconvert
      exact ⟨_, if_pos hstr, congrArg Plan.const (Option.some.inj hconvert)⟩
    -- any other literal is converted by its source
    · have hcoerce : (TypedPlan.ofLiteral value).coerce? schema (.ofDeclared .str) =
          some ⟨.const (.str text), ⟨.str, false⟩, 0, value.source?⟩ := by
        show (convertConstant schema value.value value.source? _).map _ = _
        rw [hconvert]
        rfl
      exact ⟨_, (if_neg hstr).trans hcoerce, rfl⟩
  exact ⟨[a], (resolve_one_eq_ok_iff hparams).mpr ⟨a, ha, rfl, rfl⟩, congrArg (fun p => [p]) hplan⟩

/-- `call` of a built-in method of texts that takes a text gives it the text of the literal. -/
private theorem call_text {b : Builtin} (htype : m.type.required = .str) (hb : b.params .str = [.str])
    (h : value.source? = some text) (offset : Nat) :
    ∃ t, call schema (.ofMember m) b.name [.ofLiteral value] offset = .ok t ∧
      t.type.base = (StaticType.ofDeclared b.returns).base ∧
      t.plan = .builtin b (.member .root m.name) [.const (.str text)] := by
  obtain ⟨args, hresolve, hargs⟩ :
      ∃ args, resolve schema [.ofLiteral value] (.ofBuiltin .str b) [] =
          .ok (.ofBuiltin .str b, args) ∧ args.map (·.plan) = [.const (.str text)] :=
    resolve_text hb h
  have hbase : (TypedPlan.ofMember m).type.base = .str := TypedPlan.ofMember_base htype
  -- built-in methods of texts have no two of one name
  have hnamed : Candidate.named schema .str b.name = [.ofBuiltin .str b] := by
    cases b <;> rfl
  unfold call
  simp only [hbase, hnamed]
  -- the candidate stays, for it has one parameter
  have harity : (Candidate.ofBuiltin .str b).params.length = 1 := by
    show (b.params .str).length = 1
    rw [hb]
    rfl
  simp only [List.filter_cons, harity, List.length_singleton, beq_self_eq_true, if_true,
    List.filter_nil, hresolve, Except.ok_bind]
  exact ⟨_, rfl, rfl, congrArg (Plan.builtin b _) hargs⟩

end TypedPlan

/-! ### Sources with a text -/

variable {name written : String}

/-- `IsMemberName` texts with a dot between them are one token. -/
private theorem IsMemberName.isWritablePath {method : String} (hname : IsMemberName name)
    (hmethod : IsMemberName method) : IsWritablePath ([name] ++ [method]) where
  ne_nil := List.cons_ne_nil _ _
  segment := by
    rw [List.forall_mem_append, List.forall_mem_singleton, List.forall_mem_singleton]
    exact ⟨hname.isSegment, hmethod.isSegment⟩
  lexeme := by
    obtain ⟨⟨c, cs, hc, hstart, hcs⟩, -⟩ := hname.lexeme
    obtain ⟨⟨d, ds, hd, hstart', hds⟩, -⟩ := hmethod.lexeme
    have htext : (".".intercalate ([name] ++ [method])).toList = c :: (cs ++ '.' :: d :: ds) := by
      rw [intercalate_concat (List.cons_ne_nil _ _), String.intercalate_singleton]
      simp [hc, hd]
    -- the text is no keyword because of the dot
    have hdot : '.' ∈ c :: (cs ++ '.' :: d :: ds) := by simp
    rw [htext]
    refine ⟨⟨c, _, rfl, hstart, ?_⟩, ?_, ?_, ?_⟩
    · rw [List.forall_mem_append, List.forall_mem_cons, List.forall_mem_cons]
      exact ⟨hcs, by decide +kernel, Lexeme.continuesName_of_startsName hstart', hds⟩
    -- no keyword holds a dot
    all_goals
      intro hword
      rw [hword] at hdot
      exact absurd hdot (by decide)

private theorem Builtin.isMemberName_name (b : Builtin) : IsMemberName b.name := by
  rw [IsMemberName.iff_lexeme?]
  cases b <;> exact ⟨by decide +kernel, by decide +kernel⟩

/-- `Expr.ofSource` reads the source of a call on a member with a literal as that call, wherever its
parts stand. -/
private theorem exists_ofSource_call {method : String} (hname : IsMemberName name)
    (hmethod : IsMemberName method) (hvalue : value.IsWritable) :
    ∃ e, Expr.ofSource (name ++ "." ++ method ++ "(" ++ value.text ++ ")") = .ok e ∧
      (Expr.call (.path [name] 0) method [.literal value 0] 0).Alike e := by
  have hpath := hname.isWritablePath hmethod
  have hne : [name] ≠ [] := List.cons_ne_nil _ _
  have hwritable : (Expr.call (.path [name] 0) method [.literal value 0] 0).IsWritable :=
    .call hne hpath (List.forall_mem_singleton.mpr (.literal hvalue))
  have htext : name ++ "." ++ method ++ "(" ++ value.text ++ ")" =
      (Expr.call (.path [name] 0) method [.literal value 0] 0).text := by
    simp [Expr.text, Expr.textAll]
  -- the text is that of an expression, so its tokens are known, and they derive the call
  have hread := hwritable.readsApart [] (by simp)
  have hargument : OrExpr [⟨value.kind, value.text, 0⟩] (.literal value 0) :=
    .and (.unary (.compare (.primary (.literal (value.isLiteral 0)))))
  have hderive : OrExpr (Expr.call (.path [name] 0) method [.literal value 0] 0).tokens
      (.call (.path [name] 0) method [.literal value 0] ((".".intercalate [name]).length + 1)) :=
    .and (.unary (.compare (.primary (.call (hpath.isCallHead hne) rfl (.single hargument) rfl))))
  rw [← htext] at hread
  obtain ⟨e, he, halike⟩ := Expr.exists_ofSource hread hderive
  -- offsets play no part
  exact ⟨e, he, Expr.Alike.trans (.call .path (.cons .literal .nil)) halike⟩

/-- `elaborate` plans a call on a member with a literal on the member that has the name. -/
private theorem elaborate_memberCall {method : String} {t : TypedPlan}
    (hm : (schema.recordType root).member? name = some m)
    (ht : TypedPlan.call schema (.ofMember m) method [.ofLiteral value] 0 = .ok t) :
    elaborate schema root (.call (.path [name] 0) method [.literal value 0] 0) = .ok t := by
  have hpath : followPath schema .root (.record root) 0 [name] =
      .ok (.member .root m.name, .ofDeclared m.type) :=
    followPath_cons_eq_ok_iff.mpr ⟨_, _, .member rfl hm, rfl⟩
  simp only [elaborate, elaborateAll, hpath, Except.ok_bind, Except.pure_eq_ok]
  exact ht

/-! ### Main statement -/

/-- The methods of texts that take a text. -/
def Builtin.takingText : List Builtin :=
  [contains, startsWith, endsWith, equals, indexOf, compareTo]

private theorem Builtin.params_of_takingText {b : Builtin} (hb : b ∈ takingText) :
    b.params .str = [.str] := by
  have hall : ∀ b ∈ takingText, b.params .str = [.str] := by decide
  exact hall b hb

/-- A literal beside a member that holds a text is exactly the text that was written, whatever it looks
like.  Every comparison with it compiles, and says of the text of the member and the one that was written
what its operator says of texts (`Comparison.OfTexts`).  Every method in `Builtin.takingText` can be called
with it; the call is given the text of the member and exactly the text that was written. -/
theorem text_kept (hname : IsMemberName name)
    (hm : (schema.recordType root).member? name = some m) (htype : m.type.required = .str)
    (hwritten : WrittenAs text written) :
    (∀ op : Comparison, ∃ p,
      compile schema root (name ++ " " ++ op.symbol ++ " " ++ written) = .ok p ∧
      ∀ (ρ : Type) (host : Host ρ) (record : ρ) (v : String),
        host.member record m.name = .str v → (p.test host record = true ↔ op.OfTexts v text)) ∧
    ∀ b ∈ Builtin.takingText, ∃ e t,
      Expr.ofSource (name ++ "." ++ b.name ++ "(" ++ written ++ ")") = .ok e ∧
      elaborate schema root e = .ok t ∧
      t.type.base = (StaticType.ofDeclared b.returns).base ∧
      ∀ (ρ : Type) (host : Host ρ) (record : ρ) (v : String),
        host.member record m.name = .str v →
        t.plan.value host record = b.apply (.str v) [.str text] := by
  obtain ⟨value, hwritable, rfl, hsource⟩ := hwritten.exists_literal
  constructor
  · intro op
    refine ⟨⟨.compare op (.member .root m.name) (.const (.str text))⟩,
      (compile_memberComparison_iff hname hwritable).mpr
        ⟨m, hm, _, TypedPlan.compare_text op htype hsource, rfl⟩, ?_⟩
    intro ρ host record v hv
    show op.holds (host.member record m.name) (.str text) = true ↔ _
    rw [hv, Comparison.holds_texts]
  · intro b hb
    obtain ⟨e, he, halike⟩ := exists_ofSource_call hname b.isMemberName_name hwritable
    obtain ⟨t, ht, hbase, hplan⟩ :
        ∃ t, TypedPlan.call schema (.ofMember m) b.name [.ofLiteral value] 0 = .ok t ∧
          t.type.base = (StaticType.ofDeclared b.returns).base ∧
          t.plan = .builtin b (.member .root m.name) [.const (.str text)] :=
      TypedPlan.call_text htype (Builtin.params_of_takingText hb) hsource 0
    -- the call that is read differs in offsets only, so its plan is that of the call at the start
    have hrel : Except.Rel ElaborationError.Alike TypedPlan.Alike
        (elaborate schema root (.call (.path [name] 0) b.name [.literal value 0] 0))
        (elaborate schema root e) := elaborate_alike halike
    rw [elaborate_memberCall hm ht] at hrel
    obtain ⟨t', ht', halike'⟩ := hrel.exists_ok
    refine ⟨e, t', he, ht', halike'.type ▸ hbase, ?_⟩
    intro ρ host record v hv
    rw [← halike'.plan, hplan]
    simp only [Plan.value, Plan.values, hv, Scalar.toValue]

/-- A mail address is compared with the text `007`, not with the number seven, though it stands there as
a number: the address `7` differs from it, `0064` comes before it, and in `x007` it is found at the
second character. -/
theorem text_kept_of_email_007 :
    let ana (address : String) : Sample.Record :=
      .person ⟨"Ana Lima", 29, some address, 78250.5, true, 1, none⟩
    (Sample.schema.recordType Sample.personId).member? "email" =
        some ⟨"Email", .property, .optional .str⟩ ∧
      WrittenAs "007" "007" ∧
      (∃ p, compile Sample.schema Sample.personId "email == 007" = .ok p ∧
        p.test Sample.host (ana "007") = true ∧ p.test Sample.host (ana "7") = false) ∧
      (∃ p, compile Sample.schema Sample.personId "email < 007" = .ok p ∧
        p.test Sample.host (ana "0064") = true ∧ p.test Sample.host (ana "7") = false) ∧
      ∃ e t, Expr.ofSource "email.IndexOf(007)" = .ok e ∧
        elaborate Sample.schema Sample.personId e = .ok t ∧
        t.plan.value Sample.host (ana "x007") = .int 1 ∧
        t.plan.value Sample.host (ana "x7") = .int (-1) := by
  intro ana
  have hname : IsMemberName "email" :=
    IsMemberName.iff_lexeme?.mpr ⟨by decide +kernel, by decide +kernel⟩
  have hm : (Sample.schema.recordType Sample.personId).member? "email" =
      some ⟨"Email", .property, .optional .str⟩ := by decide +kernel
  have hwritten : WrittenAs "007" "007" :=
    .number ⟨['0', '0', '7'], List.cons_ne_nil _ _, List.all_eq_true.mp rfl, .inl rfl⟩
  have hemail (address : String) : Sample.host.member (ana address) "Email" = .str address := rfl
  obtain ⟨hcompare, hcall⟩ := text_kept hname hm rfl hwritten
  obtain ⟨p, hp, heq⟩ := hcompare .eq
  obtain ⟨q, hq, hlt⟩ := hcompare .lt
  obtain ⟨e, t, he, ht, -, hvalue⟩ := hcall .indexOf (by decide)
  -- what the texts are decides each comparison
  have heq (address : String) : p.test Sample.host (ana address) = true ↔ address = "007" :=
    heq _ _ _ _ (hemail address)
  have hlt (address : String) : q.test Sample.host (ana address) = true ↔ address < "007" :=
    hlt _ _ _ _ (hemail address)
  have hindex (address : String) :
      t.plan.value Sample.host (ana address) = Builtin.indexOf.apply (.str address) [.str "007"] :=
    hvalue _ _ _ _ (hemail address)
  exact ⟨hm, hwritten,
    ⟨p, hp, (heq "007").mpr rfl, Bool.eq_false_iff.mpr (mt (heq "7").mp (by decide))⟩,
    ⟨q, hq, (hlt "0064").mpr (by decide), Bool.eq_false_iff.mpr (mt (hlt "7").mp (by decide))⟩,
    e, t, he, ht, hindex "x007", hindex "x7"⟩

end

end RecordFilter
