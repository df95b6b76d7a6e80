/-!
# Searching in a text

Positions count characters.  `indexOf?` finds the first occurrence of a pattern; `contains` asks
of every suffix whether the pattern starts it.  Texts are ordered by code point: `codePointOrder`
is the lexicographic order of lists of characters, as an `Ordering`.
-/

namespace RecordFilter.Text

/-- The number of characters before the first occurrence of the pattern. -/
def indexOf? (pattern : List Char) : List Char → Option Nat
  | [] => if pattern.isEmpty then some 0 else none
  | c :: cs =>
    if pattern.isPrefixOf (c :: cs) then some 0 else (indexOf? pattern cs).map (· + 1)

/-- The suffixes of a text, the whole text first and the empty one last. -/
def suffixes : List Char → List (List Char)
  | [] => [[]]
  | c :: cs => (c :: cs) :: suffixes cs

/-- The pattern occurs somewhere in the text. -/
def contains (cs pattern : List Char) : Bool := (suffixes cs).any pattern.isPrefixOf

/-- The text begins with the pattern. -/
def startsWith (cs pattern : List Char) : Bool := pattern.isPrefixOf cs

/-- The text ends with the pattern. -/
def endsWith (cs pattern : List Char) : Bool := pattern.isSuffixOf cs

/-! ### Order -/

/-- Texts are ordered by their first differing code point; a proper prefix comes first. -/
def codePointOrder : List Char → List Char → Ordering
  | [], [] => .eq
  | [], _ :: _ => .lt
  | _ :: _, [] => .gt
  | a :: as, b :: bs => (compare a.toNat b.toNat).then (codePointOrder as bs)

/-- `codePointOrder` puts no text first exactly if the two are equal. -/
theorem codePointOrder_eq_eq {as bs : List Char} : codePointOrder as bs = .eq ↔ as = bs := by
  induction as generalizing bs with
  | nil => cases bs <;> simp [codePointOrder]
  | cons a as ih =>
    cases bs with
    | nil => simp [codePointOrder]
    | cons b bs => simp [codePointOrder, Ordering.then_eq_eq, ih, Char.toNat_inj]

/-- Exchanging the texts exchanges before and after in `codePointOrder`. -/
theorem codePointOrder_swap (as bs : List Char) :
    codePointOrder bs as = (codePointOrder as bs).swap := by
  induction as generalizing bs with
  | nil => cases bs <;> rfl
  | cons a as ih =>
    cases bs with
    | nil => rfl
    | cons b bs =>
      simp only [codePointOrder, ih, Ordering.swap_then]
      rw [Nat.compare_swap]

/-- `codePointOrder` puts a text first exactly if it is the smaller one in the lexicographic order of
lists, whose elements are characters in the order of their code points. -/
theorem codePointOrder_eq_lt {as bs : List Char} : codePointOrder as bs = .lt ↔ as < bs := by
  induction as generalizing bs with
  | nil => cases bs <;> simp [codePointOrder]
  | cons a as ih =>
    cases bs with
    | nil => simp [codePointOrder]
    | cons b bs =>
      -- characters are ordered as the numbers of their code points
      have hhead : compare a.toNat b.toNat = .lt ↔ a < b := Nat.compare_eq_lt
      simp only [codePointOrder, Ordering.then_eq_lt, hhead, Nat.compare_eq_eq, Char.toNat_inj, ih,
        List.cons_lt_cons_iff]

/-- `codePointOrder` puts a text last exactly if it is the greater one in the lexicographic order. -/
theorem codePointOrder_eq_gt {as bs : List Char} : codePointOrder as bs = .gt ↔ bs < as := by
  rw [← codePointOrder_eq_lt, codePointOrder_swap as bs, Ordering.swap_eq_lt]

end RecordFilter.Text
