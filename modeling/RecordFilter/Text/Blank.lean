import RecordFilter.Text.CodeRanges
/-!
# Blank characters

The Unicode property White_Space, and the removal of such characters from both ends of a text.
`trim_eq_nil_iff` says that trimming leaves nothing exactly when all of a text is blank.
-/

namespace RecordFilter.Text

/-- Code points with the property White_Space. -/
def blankRanges : CodeRanges :=
  [(0x9, 0xD), (0x20, 0x20), (0x85, 0x85), (0xA0, 0xA0), (0x1680, 0x1680),
   (0x2000, 0x200A), (0x2028, 0x2029), (0x202F, 0x202F), (0x205F, 0x205F), (0x3000, 0x3000)]

/-- The character is white space. -/
def isBlank (c : Char) : Bool := blankRanges.contains c.toNat

theorem blankRanges_ascending : blankRanges.ascendingFrom 0 = true := by decide

theorem isBlank_iff (c : Char) :
    isBlank c = true ↔ ∃ r ∈ blankRanges, r.1 ≤ c.toNat ∧ c.toNat ≤ r.2 :=
  CodeRanges.contains_iff blankRanges_ascending c.toNat

/-- `isBlank` holds of the white space of ASCII. -/
theorem isBlank_of_isWhitespace {c : Char} (h : c.isWhitespace = true) : isBlank c = true := by
  simp only [Char.isWhitespace, Bool.or_eq_true, decide_eq_true_eq] at h
  rcases h with ((rfl | rfl) | rfl) | rfl <;> decide

/-! ### Trimming -/

/-- The text without the blank characters at its two ends. -/
def trim (cs : List Char) : List Char :=
  ((cs.dropWhile isBlank).reverse.dropWhile isBlank).reverse

/-- `dropBlanks` leaves nothing of a blank text only. -/
private theorem dropBlanks_eq_nil_iff (cs : List Char) :
    cs.dropWhile isBlank = [] ↔ ∀ c ∈ cs, isBlank c = true := by
  induction cs with
  | nil => simp
  | cons c cs ih => by_cases h : isBlank c = true <;> simp [h, ih]

/-- `trim` leaves nothing of a blank text only. -/
theorem trim_eq_nil_iff (cs : List Char) : trim cs = [] ↔ ∀ c ∈ cs, isBlank c = true := by
  rw [trim, List.reverse_eq_nil_iff, dropBlanks_eq_nil_iff, ← dropBlanks_eq_nil_iff cs]
  constructor
  · intro h
    cases hd : cs.dropWhile isBlank with
    | nil => rfl
    | cons d ds =>
      -- the first character left is not blank, and yet all that is left is
      have hhead := List.head?_dropWhile_not isBlank cs
      rw [hd] at hhead h
      simp [h d (by simp)] at hhead
  · intro h
    simp [h]

end RecordFilter.Text
