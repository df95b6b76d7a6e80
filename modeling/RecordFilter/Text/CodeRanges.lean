/-!
# Sets of characters given by ranges

A `CodeRanges` lists disjoint ranges of code points in ascending order.  `contains` stops at the
first range that starts above the code point, and `contains_iff` says that nothing is missed by
stopping there.
-/

namespace RecordFilter.Text

/-- Ranges of code points, both ends included. -/
abbrev CodeRanges := List (Nat × Nat)

namespace CodeRanges

/-- The code point lies in one of the ranges, which are taken to be ascending. -/
def contains : CodeRanges → Nat → Bool
  | [], _ => false
  | (lo, hi) :: rest, n => if n < lo then false else if n ≤ hi then true else contains rest n

/-- Every range is well formed and starts above the end of the one before it; the first starts at
`bound` or above. -/
def ascendingFrom (bound : Nat) : CodeRanges → Bool
  | [] => true
  | (lo, hi) :: rest => bound ≤ lo && lo ≤ hi && ascendingFrom (hi + 1) rest

/-- No range of an ascending list starts below the bound of the list. -/
theorem le_start_of_mem {bound : Nat} {ranges : CodeRanges}
    (h : ascendingFrom bound ranges = true) : ∀ r ∈ ranges, bound ≤ r.1 := by
  induction ranges generalizing bound with
  | nil => simp
  | cons r rest ih =>
    obtain ⟨lo, hi⟩ := r
    simp only [ascendingFrom, Bool.and_eq_true, decide_eq_true_eq] at h
    obtain ⟨⟨hlo, hhi⟩, hrest⟩ := h
    intro r hr
    rcases List.mem_cons.mp hr with rfl | hr
    · exact hlo
    · have := ih hrest r hr
      omega

/-- `contains` says of ascending ranges that some of them holds the code point. -/
theorem contains_iff {bound : Nat} {ranges : CodeRanges} (h : ascendingFrom bound ranges = true)
    (n : Nat) : ranges.contains n = true ↔ ∃ r ∈ ranges, r.1 ≤ n ∧ n ≤ r.2 := by
  induction ranges generalizing bound with
  | nil => simp [contains]
  | cons r rest ih =>
    obtain ⟨lo, hi⟩ := r
    simp only [ascendingFrom, Bool.and_eq_true, decide_eq_true_eq] at h
    obtain ⟨⟨hlo, hhi⟩, hrest⟩ := h
    simp only [contains, List.mem_cons, exists_eq_or_imp]
    split
    · rename_i hlt
      simp only [Bool.false_eq_true, false_iff, not_or, not_exists, not_and]
      refine ⟨fun _ => by omega, fun r hr _ => ?_⟩
      -- later ranges start even higher than this one
      have := le_start_of_mem hrest r hr
      omega
    · rename_i hge
      split
      · rename_i hn
        simp only [true_iff]
        exact Or.inl ⟨by omega, hn⟩
      · rename_i hn
        rw [ih hrest]
        constructor
        · exact Or.inr
        · rintro (⟨-, hle⟩ | hmem)
          · omega
          · exact hmem

end CodeRanges

end RecordFilter.Text
