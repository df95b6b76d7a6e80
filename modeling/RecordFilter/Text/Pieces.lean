/-!
# Cutting a text at a separator

`pieces` cuts a text at every occurrence of a separator.  There is always a first piece, so it is
kept apart from the others.  `intercalate_pieces` says that nothing but the separators is lost, and
`sep_not_mem_pieces` that no separator is left in a piece.
-/

namespace RecordFilter.Text

/-- The part before the first separator, and the parts after each separator. -/
def pieces (sep : Char) : List Char → List Char × List (List Char)
  | [] => ([], [])
  | c :: cs =>
    let (first, others) := pieces sep cs
    if c = sep then ([], first :: others) else (c :: first, others)

/-- `pieces` with separators between them are the whole text. -/
theorem intercalate_pieces (sep : Char) (cs : List Char) :
    [sep].intercalate ((pieces sep cs).1 :: (pieces sep cs).2) = cs := by
  induction cs with
  | nil => rfl
  | cons c cs ih =>
    simp only [pieces]
    split
    · rename_i h
      subst h
      simpa [List.intercalate] using ih
    · cases hp : (pieces sep cs).2 with
      | nil => simp_all [List.intercalate]
      | cons p ps => simp_all [List.intercalate]

/-- `pieces` do not hold the separator. -/
theorem sep_not_mem_pieces (sep : Char) (cs : List Char) :
    ∀ p ∈ (pieces sep cs).1 :: (pieces sep cs).2, sep ∉ p := by
  induction cs with
  | nil => simp [pieces]
  | cons c cs ih =>
    simp only [pieces]
    split
    · simpa using ih
    · rename_i h
      have h := Ne.symm h
      simp_all

end RecordFilter.Text
