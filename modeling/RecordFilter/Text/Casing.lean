import RecordFilter.Text.Cased
import RecordFilter.Text.CaseTable
/-!
# Upper case, lower case, and names that agree but for case

A character may have several characters as its lower or upper case.  `toLower` and `toUpper` map
whole texts; only there does the lower case of a capital sigma depend on its neighbours.
`sameName` compares names one character at a time, so that it is an equivalence
(`sameName_refl`, `sameName_comm`, `sameName_trans`).
-/

namespace RecordFilter.Text

/-- The full case mapping of one character: its expansion if it has one, else its single image. -/
def caseImage (expansions : List (Nat × List Nat)) (runs : List CaseRun) (c : Char) : List Char :=
  match expansions.lookup c.toNat with
  | some images => images.map Char.ofNat
  | none => [Char.ofNat ((runs.findSome? (·.image? c.toNat)).getD c.toNat)]

/-- The lower case of one character, on its own. -/
def lowerChar (c : Char) : List Char := caseImage lowerExpansions lowerRuns c

/-- The upper case of one character. -/
def upperChar (c : Char) : List Char := caseImage upperExpansions upperRuns c

/-- The upper case of a text. -/
def toUpper (cs : List Char) : List Char := cs.flatMap upperChar

/-- The first character that is not case-ignorable is a letter with a case. -/
def meetsCased (cs : List Char) : Bool :=
  match cs.dropWhile isCaseIgnorable with
  | [] => false
  | c :: _ => isCased c

/-- The lower case of a text whose earlier characters, latest first, are `before`.  A capital sigma
at the end of a word becomes a final sigma. -/
def lowerAfter (before : List Char) : List Char → List Char
  | [] => []
  | c :: rest =>
    let image :=
      if c = 'Σ' then
        -- a word ends here if a letter with a case comes before and none follows
        if meetsCased before && !meetsCased rest then ['ς'] else ['σ']
      else
        lowerChar c
    image ++ lowerAfter (c :: before) rest

/-- The lower case of a text. -/
def toLower (cs : List Char) : List Char := lowerAfter [] cs

/-! ### Names -/

/-- What is left of a name when case is disregarded. -/
def caseless (name : String) : List Char := name.toList.flatMap lowerChar

/-- The names agree but for case. -/
def sameName (a b : String) : Bool := caseless a == caseless b

/-- `sameName` holds of names that nothing tells apart without case. -/
theorem sameName_iff {a b : String} : sameName a b = true ↔ caseless a = caseless b := by
  simp [sameName]

@[simp] theorem sameName_refl (a : String) : sameName a a = true := sameName_iff.mpr rfl

theorem sameName_comm (a b : String) : sameName a b = sameName b a := by
  rw [Bool.eq_iff_iff, sameName_iff, sameName_iff]
  exact eq_comm

theorem sameName_trans {a b c : String} (hab : sameName a b = true) (hbc : sameName b c = true) :
    sameName a c = true :=
  sameName_iff.mpr ((sameName_iff.mp hab).trans (sameName_iff.mp hbc))

/-- The two words agree but for the case of the letters a to z. -/
def sameWord (cs : List Char) (word : String) : Bool :=
  cs.map Char.toLower == word.toList

end RecordFilter.Text
