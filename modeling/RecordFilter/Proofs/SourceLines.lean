import RecordFilter.CompileError
/-!
# Lines, columns and carets

The lines of a source are what stands between its line feeds.  An offset up to the length of the
source belongs to one line and one column of it (`Location.Marks`): it counts the earlier lines with
their line feeds, and the characters of this line before the column.  `locate` walks over the lines
and takes their lengths off the offset.  It finds the place that the offset marks, and beyond the
source the end of the last line; it never takes off more than there is and never runs out of lines
(`locateChecked?_eq`).  So an error is shown with the caret below the character that it points at
(`caret_marks_offset`).
-/

namespace RecordFilter

/-! ### Lines -/

namespace Text

/-- `pieces` are those of `List.splitOn`, the first one apart. -/
private theorem pieces_eq_splitOn (sep : Char) (cs : List Char) :
    (pieces sep cs).1 :: (pieces sep cs).2 = cs.splitOn sep := by
  induction cs with
  | nil => rfl
  | cons c cs ih =>
    rw [List.splitOn_cons_eq_if_modifyHead, ← ih]
    -- a separator starts a new piece, and any other character goes on with the first one
    by_cases h : c = sep <;> simp [pieces, h]

/-- `splitOn` pieces with a separator after each have one more than the text. -/
private theorem flatMap_splitOn (sep : Char) (cs : List Char) :
    (cs.splitOn sep).flatMap (· ++ [sep]) = cs ++ [sep] := by
  induction cs with
  | nil => simp
  | cons c cs ih =>
    rw [List.splitOn_cons_eq_if_modifyHead]
    by_cases h : c = sep
    · simp [h, ih]
    · obtain ⟨p, ps, hp⟩ := List.exists_cons_of_ne_nil (List.splitOn_ne_nil sep cs)
      rw [hp, List.flatMap_cons] at ih
      simp [h, hp, ← ih]

end Text

/-- The lines of a text: what stands between its line feeds. -/
def linesOf (text : String) : List (List Char) := text.toList.splitOn '\n'

/-- The sum of the lengths of the lines, each of them with its line feed. -/
def countWithFeeds : List (List Char) → Nat
  | [] => 0
  | l :: ls => l.length + 1 + countWithFeeds ls

/-- `countWithFeeds` of no lines is zero. -/
@[simp]
theorem countWithFeeds_nil : countWithFeeds [] = 0 := rfl

/-- The first line counts with its line feed in `countWithFeeds`. -/
@[simp]
theorem countWithFeeds_cons (l : List Char) (ls : List (List Char)) :
    countWithFeeds (l :: ls) = l.length + 1 + countWithFeeds ls := rfl

/-- `countWithFeeds` is the length of the lines put together, a line feed after each. -/
private theorem length_flatMap_feeds (lines : List (List Char)) :
    (lines.flatMap (· ++ ['\n'])).length = countWithFeeds lines := by
  induction lines with
  | nil => rfl
  | cons l ls ih =>
    rw [List.flatMap_cons, List.length_append, List.length_append, List.length_singleton, ih,
      countWithFeeds_cons]

/-- `linesOf` leaves out no character: all lines but the last end in a line feed of the source. -/
private theorem countWithFeeds_linesOf (source : String) :
    countWithFeeds (linesOf source) = source.length + 1 := by
  rw [← length_flatMap_feeds, linesOf, Text.flatMap_splitOn, List.length_append,
    String.length_toList, List.length_singleton]

/-- `linesOf` gives lines without line feeds. -/
private theorem feed_not_mem_linesOf {source : String} {l : List Char} (h : l ∈ linesOf source) :
    '\n' ∉ l := by
  rw [linesOf, ← Text.pieces_eq_splitOn] at h
  exact Text.sep_not_mem_pieces '\n' source.toList l h

/-! ### Places in lines -/

namespace Location

/-- The place is in the line of its number, and `offset` characters after the start of the first line:
the offset counts the earlier lines with their line feeds, and this line up to the column. -/
def Marks (place : Location) (lines : List (List Char)) (offset : Nat) : Prop :=
  ∃ earlier later, lines = earlier ++ place.text :: later ∧ place.line = earlier.length + 1 ∧
    place.column ≤ place.text.length ∧ offset = countWithFeeds earlier + place.column

/-- The place is the end of the last line. -/
def IsEnd (place : Location) (lines : List (List Char)) : Prop :=
  ∃ earlier, lines = earlier ++ [place.text] ∧ place.line = earlier.length + 1 ∧
    place.column = place.text.length

variable {place : Location} {lines : List (List Char)} {offset : Nat}

/-- The line of a place that `Marks` an offset is one of the lines. -/
private theorem Marks.text_mem (h : place.Marks lines offset) : place.text ∈ lines := by
  obtain ⟨earlier, later, rfl, -⟩ := h
  simp

/-- `IsEnd` is said of a place on one of the lines. -/
private theorem IsEnd.text_mem (h : place.IsEnd lines) : place.text ∈ lines := by
  obtain ⟨earlier, rfl, -⟩ := h
  simp

/-- `Marks` an offset by the place with the same character, if every line ends in a line feed. -/
private theorem Marks.getElem? (h : place.Marks lines offset) :
    (place.text ++ ['\n'])[place.column]? = (lines.flatMap (· ++ ['\n']))[offset]? := by
  obtain ⟨earlier, later, rfl, -, hcol, rfl⟩ := h
  have hlt : place.column < (place.text ++ ['\n']).length := by
    rw [List.length_append, List.length_singleton]
    omega
  symm
  rw [List.flatMap_append, ← length_flatMap_feeds, List.getElem?_append_right (by omega),
    List.flatMap_cons, Nat.add_sub_cancel_left, List.getElem?_append_left hlt]

/-- `Marks` has a place for every offset that the lines cover. -/
private theorem exists_marks (h : offset < countWithFeeds lines) : ∃ place : Location, place.Marks lines offset := by
  induction lines generalizing offset with
  | nil => simp at h
  | cons l ls ih =>
    rw [countWithFeeds_cons] at h
    -- the offset is in the first line, its line feed included, or after it
    by_cases hle : offset ≤ l.length
    · exact ⟨⟨1, offset, l⟩, [], ls, rfl, rfl, hle, by simp⟩
    · -- the rest of the offset is marked in the lines that follow
      have hrest : offset - (l.length + 1) < countWithFeeds ls := by omega
      obtain ⟨place, earlier, later, hls, -, hcol, hoff⟩ := ih hrest
      refine ⟨⟨earlier.length + 2, place.column, place.text⟩, l :: earlier, later, ?_, rfl, hcol, ?_⟩
      · rw [hls, List.cons_append]
      · rw [countWithFeeds_cons]
        show offset = l.length + 1 + countWithFeeds earlier + place.column
        omega

end Location

/-! ### The walk over the lines -/

section

variable {line offset column : Nat} {text found next : List Char}
  {others more earlier later : List (List Char)}

/-- `locateFrom` stops in a line that the rest of the offset does not exceed. -/
private theorem locateFrom_of_le (h : offset ≤ text.length) :
    locateFrom line offset text others = ⟨line, offset, text⟩ := by
  cases others with
  | nil => simp [locateFrom, h]
  | cons next more => simp [locateFrom, h]

/-- `locateFrom` takes a line with its line feed off an offset that exceeds it. -/
private theorem locateFrom_of_lt (h : text.length < offset) :
    locateFrom line offset text (next :: more) =
      locateFrom (line + 1) (offset - (text.length + 1)) next more := by
  rw [locateFrom, if_neg (by omega)]

/-- `locateFrom` stops in the line and at the column that the offset is made of. -/
private theorem locateFrom_of_append (h : text :: others = earlier ++ found :: later)
    (hcol : column ≤ found.length) :
    locateFrom line (countWithFeeds earlier + column) text others =
      ⟨line + earlier.length, column, found⟩ := by
  -- on the lines before the one that is found; `line` and `text` are general, for the walk moves both
  induction earlier generalizing line text others with
  | nil =>
    obtain ⟨rfl, rfl⟩ := List.cons.inj h
    rw [countWithFeeds_nil, Nat.zero_add]
    exact locateFrom_of_le hcol
  | cons l ls ih =>
    obtain ⟨rfl, hothers⟩ := List.cons.inj h
    obtain ⟨next, more, rfl⟩ : ∃ next more, others = next :: more :=
      List.exists_cons_of_ne_nil (by simp [hothers])
    rw [countWithFeeds_cons, locateFrom_of_lt (by omega)]
    have hrest : text.length + 1 + countWithFeeds ls + column - (text.length + 1) =
        countWithFeeds ls + column := by omega
    rw [hrest, ih hothers, List.length_cons]
    simp only [Location.mk.injEq, and_true]
    omega

/-- `locateFrom` stops beyond all lines at the end of the last one. -/
private theorem locateFrom_of_beyond (line : Nat) (h : countWithFeeds (text :: others) ≤ offset) :
    ∃ earlier last, text :: others = earlier ++ [last] ∧
      locateFrom line offset text others = ⟨line + earlier.length, last.length, last⟩ := by
  -- on the lines that are left, down to the last one
  induction others generalizing line offset text with
  | nil =>
    rw [countWithFeeds_cons] at h
    refine ⟨[], text, rfl, ?_⟩
    rw [locateFrom, Nat.min_eq_right (by omega)]
    rfl
  | cons next more ih =>
    rw [countWithFeeds_cons] at h
    -- the offset exceeds this line, and what is left exceeds the others
    have hlt : text.length < offset := by omega
    have hrest : countWithFeeds (next :: more) ≤ offset - (text.length + 1) := by omega
    obtain ⟨earlier, last, hsplit, hlocate⟩ := ih (line + 1) hrest
    refine ⟨text :: earlier, last, by rw [hsplit, List.cons_append], ?_⟩
    rw [locateFrom_of_lt hlt, hlocate, List.length_cons]
    simp only [Location.mk.injEq, and_true]
    omega

/-- The walk over the lines with every step checked: there is none if the lines run out, or if more
characters than the offset has left would be taken off. -/
def locateChecked? (line offset : Nat) : List (List Char) → Option Location
  | [] => none
  | text :: others =>
    if offset ≤ text.length ∨ others.isEmpty then some ⟨line, min offset text.length, text⟩
    else if text.length + 1 ≤ offset then
      locateChecked? (line + 1) (offset - (text.length + 1)) others
    else none

/-- `locateChecked?` never fails, and gives what the walk without checks does. -/
theorem locateChecked?_eq :
    locateChecked? line offset (text :: others) = some (locateFrom line offset text others) := by
  induction others generalizing line offset text with
  | nil => simp [locateChecked?, locateFrom]
  | cons next more ih =>
    -- the walk stops here, or the line with its line feed can be taken off
    by_cases hle : offset ≤ text.length
    · rw [locateFrom_of_le hle, locateChecked?, if_pos (.inl hle), Nat.min_eq_left hle]
    · have hlt : text.length < offset := by omega
      rw [locateFrom_of_lt hlt, locateChecked?, if_neg (by simp [hle]),
        if_pos (Nat.succ_le_of_lt hlt), ih]

end

/-! ### The place of an offset in a source -/

section

variable {source : String} {offset : Nat} {place : Location}

/-- A source has a first line, from which `locate` starts its walk. -/
private theorem exists_linesOf_cons (source : String) :
    ∃ first others, linesOf source = first :: others ∧
      ∀ offset, locate source offset = locateFrom 1 offset first others :=
  ⟨_, _, (Text.pieces_eq_splitOn '\n' source.toList).symm, fun _ => rfl⟩

/-- `locate` finds the place that marks the offset. -/
private theorem Location.Marks.locate_eq (h : place.Marks (linesOf source) offset) :
    locate source offset = place := by
  obtain ⟨first, others, hlines, hlocate⟩ := exists_linesOf_cons source
  obtain ⟨earlier, later, hsplit, hline, hcol, rfl⟩ := h
  rw [hlocate, locateFrom_of_append (hlines.symm.trans hsplit) hcol, Nat.add_comm, ← hline]

/-- `locate` gives the only place that marks the offset. -/
private theorem locate_eq_iff (h : offset ≤ source.length) :
    locate source offset = place ↔ place.Marks (linesOf source) offset := by
  constructor
  · intro hplace
    have hlt : offset < countWithFeeds (linesOf source) := by
      rw [countWithFeeds_linesOf]
      omega
    -- some place marks the offset, and the walk finds it
    obtain ⟨marked, hmarked⟩ := Location.exists_marks hlt
    rw [← hplace, hmarked.locate_eq]
    exact hmarked
  · exact Location.Marks.locate_eq

/-- `locate` of an offset beyond the source is the end of its last line. -/
private theorem locate_isEnd (h : source.length < offset) :
    (locate source offset).IsEnd (linesOf source) := by
  obtain ⟨first, others, hlines, hlocate⟩ := exists_linesOf_cons source
  have hle : countWithFeeds (first :: others) ≤ offset := by
    rw [← hlines, countWithFeeds_linesOf]
    omega
  obtain ⟨earlier, last, hsplit, hplace⟩ := locateFrom_of_beyond 1 hle
  rw [hlocate, hplace]
  exact ⟨earlier, hlines.trans hsplit, Nat.add_comm 1 _, rfl⟩

/-- `locate` stops in one of the lines, wherever the offset is. -/
private theorem locate_text_mem : (locate source offset).text ∈ linesOf source := by
  by_cases h : offset ≤ source.length
  · exact ((locate_eq_iff h).mp rfl).text_mem
  · exact (locate_isEnd (by omega)).text_mem

end

/-! ### Rendered errors -/

namespace CompileError

/-- The line of a rendered error that says where its place is. -/
def heading (place : Location) : String :=
  "error at line " ++ Decimal.natText place.line ++ ", column " ++
    Decimal.natText (place.column + 1) ++ ":"

/-- The error is shown in the line of the place, the caret below its column. -/
structure PutsCaret (e : CompileError) (source : String) (place : Location) : Prop where
  /-- The heading, the line of the place and the caret come before the message. -/
  lines : linesOf (e.render source) =
    (heading place).toList :: place.text :: (List.replicate place.column ' ' ++ ['^']) ::
      linesOf e.message
  /-- Above the caret is the character that the error points at, the end of a source being the line
  feed that would close it. -/
  above : e.offset ≤ source.length →
    (place.text ++ ['\n'])[place.column]? = (source.toList ++ ['\n'])[e.offset]?

/-- `natText` writes a number without a line feed. -/
private theorem feed_not_mem_natText (n : Nat) : '\n' ∉ (Decimal.natText n).toList := by
  intro h
  rw [Decimal.natText, String.toList_ofList] at h
  have hdigit := Nat.isDigit_of_mem_toDigits (by decide) (by decide) h
  exact absurd hdigit (by decide)

/-- The `heading` is one line. -/
private theorem feed_not_mem_heading (place : Location) : '\n' ∉ (heading place).toList := by
  -- `delta`, for the equations of texts put together are slow to make
  delta heading
  simp [feed_not_mem_natText]

/-- `splitOn` takes three texts without line feeds, each before one, for the first three lines. -/
private theorem splitOn_three {a b c rest : List Char} (ha : '\n' ∉ a) (hb : '\n' ∉ b) (hc : '\n' ∉ c) :
    (a ++ '\n' :: (b ++ '\n' :: (c ++ '\n' :: rest))).splitOn '\n' =
      a :: b :: c :: rest.splitOn '\n' := by
  rw [List.splitOn_append_cons_self_of_not_mem ha, List.splitOn_append_cons_self_of_not_mem hb,
    List.splitOn_append_cons_self_of_not_mem hc]

/-- A rendered error is the `heading`, the line of the place, the caret and the message, with a line
feed between two of them. -/
private theorem toList_render (e : CompileError) (source : String) :
    (e.render source).toList =
      (heading (locate source e.offset)).toList ++ '\n' :: ((locate source e.offset).text ++
        '\n' :: ((List.replicate (locate source e.offset).column ' ' ++ ['^']) ++
          '\n' :: e.message.toList)) := by
  delta render heading
  simp

/-- `PutsCaret` of a rendered error, at the place of its offset. -/
private theorem putsCaret (e : CompileError) (source : String) :
    e.PutsCaret source (locate source e.offset) where
  lines := by
    rw [linesOf, toList_render]
    apply splitOn_three
    · exact feed_not_mem_heading _
    · exact feed_not_mem_linesOf locate_text_mem
    · simp
  above h := by
    rw [((locate_eq_iff h).mp rfl).getElem?, linesOf, Text.flatMap_splitOn]

end CompileError

/-! ### Main statement -/

/-- An offset up to the length of a source is located at the one place that marks it, and a larger
one at the end of the last line; on the way no check fails.  An error is shown with the caret below
the character at its offset. -/
theorem caret_marks_offset (source : String) (offset : Nat) :
    (offset ≤ source.length →
      ∀ place, locate source offset = place ↔ place.Marks (linesOf source) offset) ∧
    (source.length < offset → (locate source offset).IsEnd (linesOf source)) ∧
    locateChecked? 1 offset (linesOf source) = some (locate source offset) ∧
    ∀ e : CompileError, e.offset = offset → e.PutsCaret source (locate source offset) := by
  refine ⟨fun h place => locate_eq_iff h, locate_isEnd, ?_, ?_⟩
  · obtain ⟨first, others, hlines, hlocate⟩ := exists_linesOf_cons source
    rw [hlines, hlocate, locateChecked?_eq]
  · intro e he
    rw [← he]
    exact e.putsCaret source

/-- Line feeds end lines, also empty ones: the first one here stands at the end of the first of four
lines, the place of a stray `=` in the third line counts the empty one before it, and whatever is
beyond the source is in the empty line at its end. -/
theorem caret_marks_offset_of_four_lines :
    let source := "Age > 18 &&\n\n  Name = 1\n"
    let place : Location := ⟨3, 7, "  Name = 1".toList⟩
    11 ≤ source.length ∧ locate source 11 = ⟨1, 11, "Age > 18 &&".toList⟩ ∧
      20 ≤ source.length ∧ locate source 20 = place ∧
      (CompileError.tokenize ⟨'=', 20⟩).PutsCaret source place ∧
      source.length < 40 ∧ (locate source 40).IsEnd (linesOf source) := by
  intro source place
  -- the places are given with the lines before and after them
  have hfeed : (⟨1, 11, "Age > 18 &&".toList⟩ : Location).Marks (linesOf source) 11 :=
    ⟨[], [[], "  Name = 1".toList, []], by decide, rfl, by decide, rfl⟩
  have hstray : place.Marks (linesOf source) 20 :=
    ⟨["Age > 18 &&".toList, []], [[]], by decide, rfl, by decide, rfl⟩
  obtain ⟨hplace, -, -, hcaret⟩ := caret_marks_offset source 20
  have hlocate : locate source 20 = place := (hplace (by decide) place).mpr hstray
  have hshown := hcaret (.tokenize ⟨'=', 20⟩) rfl
  rw [hlocate] at hshown
  exact ⟨by decide, ((caret_marks_offset source 11).1 (by decide) _).mpr hfeed, by decide, hlocate,
    hshown, by decide, (caret_marks_offset source 40).2.1 (by decide)⟩

end RecordFilter
