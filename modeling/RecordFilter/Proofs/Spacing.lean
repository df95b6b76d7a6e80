import RecordFilter.Proofs.PrintedTokens
/-!
# Blanks between tokens do not count

The tokens of a source can be written anew with any blanks between them, before them and after them
(`Renders`).  The new text has the same tokens, and since neither the parser nor elaboration decides
anything by an offset, it compiles to the same filter or is refused for the same reason
(`compile_rendering`).
-/

namespace RecordFilter

/-! ### Tokens written with blanks -/

/-- All of the text is blank. -/
def IsGap (cs : List Char) : Prop := ∀ c ∈ cs, Text.isBlank c = true

/-- The texts of the tokens one after the other, each with a gap after it, which is not empty where
another token follows. -/
inductive RendersApart : List Token → List Char → Prop where
  | nil : RendersApart [] []
  | cons {ts cs} (t : Token) (gap : List Char) (hgap : IsGap gap) (hapart : ts ≠ [] → gap ≠ [])
      (h : RendersApart ts cs) : RendersApart (t :: ts) (t.text.toList ++ (gap ++ cs))

/-- The text is a gap followed by the texts of the tokens with gaps between them. -/
def Renders (ts : List Token) (source : String) : Prop :=
  ∃ gap cs, IsGap gap ∧ RendersApart ts cs ∧ source.toList = gap ++ cs

namespace ReadsLike

variable {rest cs : List Char} {ts : List Token}

/-- `IsGap` holds of characters that are read as no token. -/
private theorem gap (h : IsGap cs) : ReadsLike rest cs [] := by
  -- a blank at a time
  induction cs with
  | nil => exact .nil
  | cons c cs ih =>
    rw [IsGap, List.forall_mem_cons] at h
    exact (blank h.1).append (ih h.2)

/-- `RendersApart` tokens are read again from the characters. -/
private theorem rendersApart (h : RendersApart ts cs) (hts : ∀ t ∈ ts, t.IsWritten) :
    ReadsLike [] cs ts := by
  -- one token with its gap at a time, from the front
  induction h with
  | nil => exact .nil
  | @cons ts cs t gap hgap hapart h ih =>
    rw [List.forall_mem_cons] at hts
    -- the lexeme ends at its gap, or at the end of the text
    have hend : ∀ d ∈ (gap ++ cs ++ []).head?, Lexeme.Separates d := by
      intro d hd
      cases hgap' : gap with
      | cons b gap' =>
        rw [hgap', List.cons_append, List.cons_append, List.head?_cons, Option.mem_some_iff] at hd
        exact Lexeme.separates_of_isBlank (hgap d (by simp [hgap', hd]))
      | nil =>
        -- only the last token may stand without a gap
        have hlast : ts = [] := by
          by_contra hne
          exact hapart hne hgap'
        subst hlast
        cases h
        simp [hgap'] at hd
    have hword : ReadsLike (gap ++ cs ++ []) t.text.toList [t] := fun offset =>
      ⟨_, TokenKind.IsLexeme.lexes hts.1 hend offset, .cons ⟨rfl, String.ofList_toList.symm⟩ .nil⟩
    have hgaps : ReadsLike (cs ++ []) gap [] := ReadsLike.gap hgap
    exact hword.append (hgaps.append (ih hts.2))

private theorem renders {source : String} (h : Renders ts source) (hts : ∀ t ∈ ts, t.IsWritten) :
    ReadsLike [] source.toList ts := by
  obtain ⟨gap, cs, hgap, hcs, hsource⟩ := h
  have hfront : ReadsLike (cs ++ []) gap [] := ReadsLike.gap hgap
  rw [hsource]
  exact hfront.append (rendersApart hcs hts)

end ReadsLike

/-- `Renders` keeps the tokens of a source but for their offsets. -/
private theorem tokenize_rendering {source rendering : String} {ts : List Token}
    (hts : tokenize source = .ok ts) (h : Renders (beforeEnd ts) rendering) :
    ∃ us, tokenize rendering = .ok us ∧ List.Forall₂ Token.Alike ts us := by
  -- the end of the input is a token that nothing is written for
  obtain ⟨words, hwords, rfl⟩ := tokenize_eq_ok_iff.mp hts
  rw [beforeEnd_concat hwords.ne_eof rfl] at h
  obtain ⟨us, hus, halike⟩ := ReadsLike.renders h hwords.isWritten 0
  exact ⟨_, tokenize_eq_ok_iff.mpr ⟨us, hus, rfl⟩,
    List.rel_append halike (.cons ⟨rfl, rfl⟩ .nil)⟩

/-! ### Filters of alike tokens -/

/-- The errors are of one kind and differ in their offsets only. -/
inductive CompileError.Alike : CompileError → CompileError → Prop where
  | tokenize {e e'} (h : e.character = e'.character) : Alike (.tokenize e) (.tokenize e')
  | parse {e e'} (h : e.Alike e') : Alike (.parse e) (.parse e')
  | elaborate {e e'} (h : e.Alike e') : Alike (.elaborate e) (.elaborate e')
  | limitExceeded {limit actual max o o'} :
      Alike (.limitExceeded limit actual max o) (.limitExceeded limit actual max o')

/-- The filters let the same records pass, and ask every host the same questions about them. -/
def Predicate.Agrees (p q : Predicate) : Prop :=
  ∀ (ρ : Type) (host : Host ρ) (record : ρ),
    p.test host record = q.test host record ∧ p.accesses host record = q.accesses host record

theorem Predicate.Agrees.refl (p : Predicate) : p.Agrees p := fun _ _ _ => ⟨rfl, rfl⟩

/-- `Predicate.ofTokens` makes the same filter of tokens that differ in their offsets only, or none for
the same reason. -/
private theorem Predicate.ofTokens_alike {schema : Schema} {root : RecordId} {ts us : List Token}
    (h : List.Forall₂ Token.Alike ts us) :
    Except.Rel CompileError.Alike Predicate.Agrees (ofTokens schema root ts)
      (ofTokens schema root us) := by
  unfold ofTokens
  refine ((parse_alike h).mapError fun _ _ he => .parse he).bind fun e e' he => ?_
  have hplan : Except.Rel ElaborationError.Alike Eq (planFilter schema root e)
      (planFilter schema root e') := planFilter_alike he
  refine (hplan.mapError fun _ _ he => .elaborate he).map ?_
  -- the plans are equal, because no offset is left in them
  rintro plan _ rfl
  exact .refl _

/-- Blanks do not count.  If the tokens of a source are written anew, with any blanks before and after
them and at least one between two of them, then the text has the same tokens but for their offsets.
For every record type, both compile, to filters that agree on every record, or both fail with the same
error but for its offset. -/
theorem compile_rendering {source rendering : String} {ts : List Token}
    (hts : tokenize source = .ok ts) (h : Renders (beforeEnd ts) rendering) :
    (∃ us, tokenize rendering = .ok us ∧ List.Forall₂ Token.Alike ts us) ∧
    ∀ (schema : Schema) (root : RecordId),
      Except.Rel CompileError.Alike Predicate.Agrees (compile schema root source)
        (compile schema root rendering) := by
  obtain ⟨us, hus, halike⟩ := tokenize_rendering hts h
  refine ⟨⟨us, hus, halike⟩, fun schema root => ?_⟩
  -- what comes after tokenization sees the tokens only
  rw [compile_eq, compile_eq, hts, hus]
  exact Predicate.ofTokens_alike halike

/-- A filter without blanks, and its tokens with line breaks, tabs and a wide space between them: both
compile, and to filters that agree. -/
theorem compile_rendering_of_inactive_or_adult :
    ∃ ts, tokenize "!Active||Age>=18" = .ok ts ∧
      Renders (beforeEnd ts) "\t!\n Active\u3000|| Age\u2003>= 18\n" ∧
      ∃ p q, compile Sample.schema Sample.personId "!Active||Age>=18" = .ok p ∧
        compile Sample.schema Sample.personId "\t!\n Active\u3000|| Age\u2003>= 18\n" = .ok q ∧
        p.Agrees q := by
  have hts : tokenize "!Active||Age>=18" = .ok
      [⟨.not, "!", 0⟩, ⟨.identifier, "Active", 1⟩, ⟨.or, "||", 7⟩, ⟨.identifier, "Age", 9⟩,
        ⟨.comparison .ge, ">=", 12⟩, ⟨.number, "18", 14⟩, ⟨.eof, "", 16⟩] := by decide +kernel
  have hgap {cs : List Char} (h : cs.all Text.isBlank = true) : IsGap cs := List.all_eq_true.mp h
  have hrenders : Renders
      [⟨.not, "!", 0⟩, ⟨.identifier, "Active", 1⟩, ⟨.or, "||", 7⟩, ⟨.identifier, "Age", 9⟩,
        ⟨.comparison .ge, ">=", 12⟩, ⟨.number, "18", 14⟩]
      "\t!\n Active\u3000|| Age\u2003>= 18\n" := by
    -- each token with the gap behind it
    have hwords :=
      RendersApart.cons ⟨.not, "!", 0⟩ ['\n', ' '] (hgap rfl) (by simp)
        (.cons ⟨.identifier, "Active", 1⟩ ['\u3000'] (hgap rfl) (by simp)
        (.cons ⟨.or, "||", 7⟩ [' '] (hgap rfl) (by simp)
        (.cons ⟨.identifier, "Age", 9⟩ ['\u2003'] (hgap rfl) (by simp)
        (.cons ⟨.comparison .ge, ">=", 12⟩ [' '] (hgap rfl) (by simp)
        (.cons ⟨.number, "18", 14⟩ ['\n'] (hgap rfl) (by simp) .nil)))))
    exact ⟨['\t'], _, hgap rfl, hwords, by simp⟩
  have hcompile : compile Sample.schema Sample.personId "!Active||Age>=18" =
      .ok ⟨.or (.not (.member .root "Active"))
        (.compare .ge (.member .root "Age") (.const (.int 18)))⟩ := by
    rw [compile_eq, hts]
    rfl
  have hrel := (compile_rendering hts hrenders).2 Sample.schema Sample.personId
  rw [hcompile] at hrel
  obtain ⟨q, hq, hagree⟩ := hrel.exists_ok
  exact ⟨_, hts, hrenders, _, q, hcompile, hq, hagree⟩

end RecordFilter
