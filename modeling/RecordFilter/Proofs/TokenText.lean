import RecordFilter.Expr.Parser
/-!
# What the texts of tokens say

The parser reads names out of the text of a path, and a text out of its quotes.  The predicates here
say the same without an algorithm: a path is made of the names that dots join to its text
(`Token.IsPath`), a literal token spells its literal (`Token.IsLiteral`), and a path is the head of
a call if it has a name before the method (`Token.IsCallHead`).  The functions of the parser are
shown to decide them.
-/

namespace RecordFilter

/-! ### Pieces -/

namespace Text

/-- `pieces` leaves a text without the separator whole. -/
private theorem pieces_of_not_mem {sep : Char} {p : List Char} (h : sep ∉ p) : pieces sep p = (p, []) := by
  induction p with
  | nil => rfl
  | cons c p ih =>
    rw [List.mem_cons, not_or] at h
    simp only [pieces, ih h.2, if_neg (Ne.symm h.1)]

/-- `pieces` has its first piece end at the first separator. -/
private theorem pieces_append {sep : Char} {p : List Char} (h : sep ∉ p) (cs : List Char) :
    pieces sep (p ++ sep :: cs) = (p, (pieces sep cs).1 :: (pieces sep cs).2) := by
  induction p with
  | nil => simp only [List.nil_append, pieces, if_true]
  | cons c p ih =>
    rw [List.mem_cons, not_or] at h
    simp only [List.cons_append, pieces, ih h.2, if_neg (Ne.symm h.1)]

/-- `pieces` finds pieces without the separator again that the separator joins. -/
private theorem pieces_intercalate {sep : Char} {p : List Char} {ps : List (List Char)}
    (h : ∀ q ∈ p :: ps, sep ∉ q) : pieces sep ([sep].intercalate (p :: ps)) = (p, ps) := by
  -- each further piece stands after one separator
  induction ps generalizing p with
  | nil => rw [List.intercalate_singleton, pieces_of_not_mem (h p List.mem_cons_self)]
  | cons q qs ih =>
    rw [List.forall_mem_cons] at h
    rw [List.intercalate_cons_cons, List.append_assoc, List.singleton_append, pieces_append h.1,
      ih h.2]

end Text

/-! ### Paths -/

/-- The text can be a name of a path: it starts like a name, and holds no dot. -/
structure IsSegment (name : String) : Prop where
  start : name.toList.head?.any Lexeme.startsName = true
  noDot : '.' ∉ name.toList

/-- The token is a path of the names. -/
structure Token.IsPath (t : Token) (names : List String) : Prop where
  kind : t.kind = .identifier
  ne_nil : names ≠ []
  text : ".".intercalate names = t.text
  segment : ∀ name ∈ names, IsSegment name

/-- `splitPath?` cuts a text into the names that dots join to it. -/
theorem splitPath?_eq_some_iff {text : String} {names : List String} :
    splitPath? text = some names ↔
      names ≠ [] ∧ ".".intercalate names = text ∧ ∀ name ∈ names, IsSegment name := by
  simp only [splitPath?, Option.ite_none_right_eq_some, Option.some.injEq, List.all_eq_true]
  constructor
  · -- the pieces of the text join to it, and hold no dot
    rintro ⟨hstart, rfl⟩
    refine ⟨List.cons_ne_nil _ _, ?_, ?_⟩
    · rw [← String.toList_inj, String.toList_intercalate, List.map_map]
      simpa [Function.comp_def] using Text.intercalate_pieces '.' text.toList
    · rintro _ hname
      obtain ⟨p, hp, rfl⟩ := List.mem_map.mp hname
      constructor
      · simpa using hstart p hp
      · simpa using Text.sep_not_mem_pieces '.' text.toList p hp
  · -- names without dots are the pieces of what they are joined to
    rintro ⟨hne, rfl, hseg⟩
    obtain ⟨name, more, rfl⟩ := List.exists_cons_of_ne_nil hne
    have hpieces : Text.pieces '.' (".".intercalate (name :: more)).toList =
        (name.toList, more.map String.toList) := by
      rw [String.toList_intercalate, List.map_cons]
      apply Text.pieces_intercalate
      rw [← List.map_cons, List.forall_mem_map]
      exact fun n hn => (hseg n hn).noDot
    rw [hpieces]
    constructor
    · simpa using fun n hn => (hseg n hn).start
    · simp [Function.comp_def]

/-- `IsPath` holds of tokens that `splitPath?` cuts into the names. -/
theorem Token.isPath_iff {t : Token} {names : List String} :
    t.IsPath names ↔ t.kind = .identifier ∧ splitPath? t.text = some names := by
  rw [splitPath?_eq_some_iff]
  constructor
  · exact fun ⟨hk, hne, ht, hs⟩ => ⟨hk, hne, ht, hs⟩
  · exact fun ⟨hk, hne, ht, hs⟩ => ⟨hk, hne, ht, hs⟩

/-! ### Literals -/

/-- The token spells the literal. -/
inductive Token.IsLiteral : Token → Literal → Prop where
  /-- A text stands between quotes. -/
  | string {t : Token} {s : String} (hk : t.kind = .string) (ht : t.text = "\"" ++ s ++ "\"") :
      IsLiteral t (.string s)
  /-- A number is kept as written. -/
  | number {t : Token} (hk : t.kind = .number) : IsLiteral t (.number t.text)
  /-- A truth value is false unless it is written as `true`. -/
  | boolean {t : Token} (hk : t.kind = .boolean) : IsLiteral t (.bool (t.text == "true"))
  /-- `null` is the absent value. -/
  | null {t : Token} (hk : t.kind = .null) : IsLiteral t .null

/-- What holds of the four classes of literals holds of the class of a literal token. -/
@[elab_as_elim]
theorem Token.IsLiteral.kind_elim {t : Token} {value : Literal} {P : TokenKind → Prop}
    (h : t.IsLiteral value) (string : P .string) (number : P .number) (boolean : P .boolean)
    (null : P .null) : P t.kind := by
  cases h with
  | string hk _ | number hk | boolean hk | null hk =>
    rw [hk]
    assumption

/-- `unquote?` finds a text between its quotes. -/
theorem unquote?_eq_some_iff {text s : String} :
    unquote? text = some s ↔ text = "\"" ++ s ++ "\"" := by
  unfold unquote?
  constructor
  · intro h
    split at h
    · rename_i cs hcs
      rw [Option.ite_none_right_eq_some, Option.some.injEq] at h
      obtain ⟨hlast, rfl⟩ := h
      -- the text starts with a quote and what follows ends in one
      obtain ⟨cs, rfl⟩ := List.getLast?_eq_some_iff.mp hlast
      rw [← String.toList_inj, hcs]
      simp
    · simp at h
  · rintro rfl
    simp

/-! ### Calls -/

/-- The token is the path of a call: the names before the last one are the target, and the last one
is the method, which starts after the target and a dot. -/
structure Token.IsCallHead (t : Token) (head : CallHead) : Prop where
  isPath : t.IsPath (head.target ++ [head.method])
  target_ne_nil : head.target ≠ []
  targetOffset : head.targetOffset = t.offset
  /-- The method starts after the target and a dot. -/
  methodOffset : head.methodOffset = t.offset + (".".intercalate head.target).length + 1

/-- The lengths of names with a dot behind each add up to that of the joined path and one dot. -/
private theorem foldl_length {names : List String} (h : names ≠ []) (n : Nat) :
    names.foldl (fun size name => size + name.length + 1) n =
      n + (".".intercalate names).length + 1 := by
  induction names generalizing n with
  | nil => exact absurd rfl h
  | cons name names ih =>
    rw [List.foldl_cons]
    -- the last name has no dot after it in the path, and that is the one dot more
    cases names with
    | nil => rw [List.foldl_nil, String.intercalate_singleton]
    | cons next more =>
      rw [ih (List.cons_ne_nil _ _), String.intercalate_cons_cons, String.length_append,
        String.length_append]
      have hdot : ".".length = 1 := rfl
      omega

/-- `CallHead.ofPath?` reads the head of a call from the names of its path. -/
theorem CallHead.ofPath?_eq_some_iff {t : Token} {names : List String} {head : CallHead}
    (ht : t.IsPath names) :
    CallHead.ofPath? t names = some head ↔
      t.IsCallHead head ∧ names = head.target ++ [head.method] := by
  unfold ofPath?
  constructor
  · intro h
    split at h
    · rename_i name more method hinit hlast
      cases h
      obtain ⟨init, rfl⟩ := List.getLast?_eq_some_iff.mp hlast
      rw [List.dropLast_concat] at hinit
      subst hinit
      refine ⟨⟨ht, List.cons_ne_nil _ _, rfl, ?_⟩, rfl⟩
      -- the offset of the method is counted name by name
      simp only [foldl_length (List.cons_ne_nil _ _)]
      omega
    · exact nomatch h
  -- what the head says of the token determines all of its fields
  · rintro ⟨hhead, hnames⟩
    obtain ⟨target, targetOffset, method, methodOffset⟩ := head
    obtain ⟨-, hne, hto, hmo⟩ := hhead
    dsimp only at hne hto hmo hnames
    subst hto hmo
    obtain ⟨name, more, rfl⟩ := List.exists_cons_of_ne_nil hne
    have hinit : names.dropLast = name :: more := by rw [hnames, List.dropLast_concat]
    have hlast : names.getLast? = some method := by rw [hnames, List.getLast?_concat]
    simp only [hinit, hlast, foldl_length hne]
    rw [Nat.zero_add, Nat.add_assoc]

/-- `intercalate` puts the last name of a path after the others and a dot. -/
theorem intercalate_concat {names : List String} (h : names ≠ []) (name : String) :
    ".".intercalate (names ++ [name]) = ".".intercalate names ++ "." ++ name := by
  rw [String.intercalate_append_of_ne_nil h (List.cons_ne_nil _ _), String.intercalate_singleton]

/-- `IsCallHead` tokens are written as the target, a dot and the method. -/
theorem Token.IsCallHead.text {t : Token} {head : CallHead} (h : t.IsCallHead head) :
    t.text = ".".intercalate head.target ++ "." ++ head.method := by
  rw [← h.isPath.text, intercalate_concat h.target_ne_nil]

end RecordFilter
