import RecordFilter.Limits
/-!
# The nesting counter along tokens

The counter of open parentheses and prefixes moves by at most one level with each token
(`Nesting.depth_after_le`).  `Nesting.peak` is the greatest depth that it shows along tokens.  A limit
refuses tokens exactly if the peak is above it (`nestingError?_eq_none_iff`), and it does so at the
first token that is too deep, which is then one level too deep (`nestingError?_eq_some`).  So
`Limits.checkNesting` bounds the peak (`Limits.checkNesting_eq_ok_iff`).
-/

namespace RecordFilter

namespace Nesting

/-- `Nesting.after` is deeper by an open parenthesis or a prefix only. -/
theorem depth_after_le (n : Nesting) (t : Token) :
    (n.after t).depth ≤ n.depth ∨
      (t.kind = .lparen ∨ t.kind = .not) ∧ (n.after t).depth = n.depth + 1 := by
  unfold after depth
  split
  · -- `(`
    rename_i hk
    right
    dsimp only
    exact ⟨.inl hk, by omega⟩
  · -- `)`
    left
    dsimp only
    omega
  · -- `!`
    rename_i hk
    right
    dsimp only
    exact ⟨.inr hk, by omega⟩
  · left
    dsimp only
    omega

/-- The nesting after the tokens. -/
def afterAll (n : Nesting) (ts : List Token) : Nesting := ts.foldl after n

/-- The greatest depth before, between and after the tokens. -/
def peak (n : Nesting) : List Token → Nat
  | [] => n.depth
  | t :: ts => max n.depth ((n.after t).peak ts)

variable {n : Nesting} {ts us : List Token} {t : Token}

/-- `afterAll` no tokens is where the counter was. -/
@[simp] theorem afterAll_nil : n.afterAll [] = n := rfl

/-- `afterAll` takes the first token first. -/
@[simp] theorem afterAll_cons : n.afterAll (t :: ts) = (n.after t).afterAll ts := rfl

/-- `Nesting.afterAll` along two parts is that along one after the other. -/
theorem afterAll_append : n.afterAll (ts ++ us) = (n.afterAll ts).afterAll us :=
  List.foldl_append

/-- `afterAll` takes the last token last. -/
theorem afterAll_concat : n.afterAll (ts ++ [t]) = (n.afterAll ts).after t := by
  rw [afterAll_append, afterAll_cons, afterAll_nil]

/-- The counter starts at most at its `Nesting.peak`. -/
theorem depth_le_peak (n : Nesting) (ts : List Token) : n.depth ≤ n.peak ts := by
  cases ts with
  | nil => exact Nat.le_refl _
  | cons t ts => exact Nat.le_max_left _ _

/-- The `Nesting.peak` along two parts is that of the higher one. -/
theorem peak_append (n : Nesting) (ts us : List Token) :
    n.peak (ts ++ us) = max (n.peak ts) ((n.afterAll ts).peak us) := by
  induction ts generalizing n with
  | nil =>
    have hle := depth_le_peak n us
    rw [List.nil_append, peak, afterAll_nil, Nat.max_eq_right hle]
  | cons t ts ih => rw [List.cons_append, peak, ih, peak, afterAll_cons, Nat.max_assoc]

/-- `Nesting.peak` is the greatest depth after the first tokens, however many these are. -/
theorem peak_le_iff {max : Nat} :
    n.peak ts ≤ max ↔ ∀ us, us <+: ts → (n.afterAll us).depth ≤ max := by
  -- by the first token; `n` is general, since the token moves the counter
  induction ts generalizing n with
  | nil => simp [peak]
  | cons t ts ih =>
    rw [peak, Nat.max_le, ih]
    constructor
    · intro ⟨hn, hts⟩ us hus
      rcases List.prefix_cons_iff.mp hus with rfl | ⟨vs, rfl, hvs⟩
      · exact hn
      · exact hts vs hvs
    · intro h
      exact ⟨h [] List.nil_prefix, fun us hus => h (t :: us) (List.cons_prefix_cons.mpr ⟨rfl, hus⟩)⟩

end Nesting

section

variable {max : Nat} {n : Nesting} {ts : List Token} {e : CompileError}

/-- `nestingError?` finds nothing if the counter stays within the limit all along. -/
theorem nestingError?_eq_none_iff (hn : n.depth ≤ max) :
    nestingError? max n ts = none ↔ n.peak ts ≤ max := by
  induction ts generalizing n with
  | nil => simp [nestingError?, Nesting.peak, hn]
  | cons t ts ih =>
    rw [nestingError?, Nesting.peak, Nat.max_le]
    split
    · rename_i hdeep
      -- the peak of what follows is not below the depth after the token
      have hpeak := Nesting.depth_le_peak (n.after t) ts
      simp only [reduceCtorEq, false_iff]
      omega
    · rename_i hdeep
      rw [ih (Nat.le_of_not_lt hdeep)]
      exact ⟨fun h => ⟨hn, h⟩, And.right⟩

/-- `nestingError?` finds an open parenthesis or a prefix, which is one level too deep. -/
theorem nestingError?_eq_some (hn : n.depth ≤ max) (h : nestingError? max n ts = some e) :
    ∃ t ∈ ts, (t.kind = .lparen ∨ t.kind = .not) ∧
      e = .limitExceeded .nestingDepth (max + 1) max t.offset := by
  -- by the first token that is too deep: before it the counter was within the limit
  induction ts generalizing n with
  | nil => cases h
  | cons t ts ih =>
    simp only [nestingError?] at h
    split at h
    · -- the depth was within the limit before this token
      rename_i hdeep
      cases h
      rcases n.depth_after_le t with hle | ⟨hk, heq⟩
      · omega
      · have hdepth : (n.after t).depth = max + 1 := by omega
        rw [hdepth]
        exact ⟨t, List.mem_cons_self, hk, rfl⟩
    · rename_i hdeep
      obtain ⟨u, hu, hk, he⟩ := ih (Nat.le_of_not_lt hdeep) h
      exact ⟨u, List.mem_cons_of_mem _ hu, hk, he⟩

end

namespace Limits

variable {l : Limits} {ts : List Token} {e : CompileError}

/-- `checkNesting` passes tokens if their peak is within the limit, if there is one. -/
theorem checkNesting_eq_ok_iff :
    l.checkNesting ts = .ok () ↔
      ∀ max, l.maxNesting = some max → ({} : Nesting).peak ts ≤ max := by
  unfold checkNesting
  split
  · rename_i max hmax
    -- the counter starts at zero, which is within any limit
    have hpeak : nestingError? max {} ts = none ↔ ({} : Nesting).peak ts ≤ max :=
      nestingError?_eq_none_iff (Nat.zero_le max)
    simp only [hmax, Option.some.injEq, forall_eq', ← hpeak]
    split <;> simp [*]
  · rename_i hnone
    simp [hnone]

/-- `checkNesting` refuses other tokens at one of them, which is one level too deep. -/
theorem checkNesting_eq_error (h : l.checkNesting ts = .error e) :
    ∃ max, l.maxNesting = some max ∧ ∃ t ∈ ts, (t.kind = .lparen ∨ t.kind = .not) ∧
      e = .limitExceeded .nestingDepth (max + 1) max t.offset := by
  unfold checkNesting at h
  split at h
  · rename_i max hmax
    split at h
    · rename_i herror
      cases h
      have hn : ({} : Nesting).depth ≤ max := Nat.zero_le max
      exact ⟨max, hmax, nestingError?_eq_some hn herror⟩
    · simp at h
  · simp at h

end Limits

end RecordFilter
