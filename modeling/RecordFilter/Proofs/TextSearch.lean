import RecordFilter.Plan
import RecordFilter.Proofs.Occurrence
import RecordFilter.Sample
/-!
# Searches for one text in another

Four built-in methods look for a text in another one: `IndexOf` counts the characters before its
first place, and `Contains`, `StartsWith` and `EndsWith` say whether it has a place, stands at the
start and stands at the end.  `searches_agree` says that the four agree with one another and with the
lengths of both texts, on characters as well as on the bytes that the texts are held as.

Counts are 64-bit integers.  A text that fits into memory has fewer than half of all 64-bit numbers
as bytes, so its counts are exact.
-/

namespace RecordFilter

namespace Text

/-! ### Laws of searches -/

/-- The text fits into memory, where addresses are signed 64-bit numbers. -/
def FitsMemory (s : String) : Prop := s.utf8ByteSize < UInt64.size / 2

/-- Searches for one text in another agree on the places that count characters. -/
structure FindsCharacters (s p : String) (index : Int64) (contained starts ends : Bool) : Prop where
  first : ∀ i, IsLeast {i | OccursAt p.toList s.toList i} i → index = countInt64 i
  absent : index = -1 ↔ ∀ i, ¬ OccursAt p.toList s.toList i
  contains : contained = true ↔ 0 ≤ index
  startsWith : starts = true ↔ index = 0
  endsWith : ends = true ↔ ∃ before, s = before ++ p
  /-- Counts in a text that fits into memory are exact. -/
  precise : FitsMemory s →
    ∀ i : Nat, index.toInt = i ↔ IsLeast {i | OccursAt p.toList s.toList i} i

/-- Searches for one text in another find its bytes, and the characters before the first of them are
counted. -/
structure FindsBytes (s p : String) (index : Int64) (contained starts ends : Bool) : Prop where
  first : ∀ b, IsLeast {b | OccursAt p.toUTF8.data.toList s.toUTF8.data.toList b} b →
    ∃ before after, s = before ++ p ++ after ∧ before.utf8ByteSize = b ∧
      index = countInt64 before.length
  absent : index = -1 ↔ ∀ b, ¬ OccursAt p.toUTF8.data.toList s.toUTF8.data.toList b
  contains : contained = true ↔ p.toUTF8.data.toList <:+: s.toUTF8.data.toList
  startsWith : starts = true ↔ p.toUTF8.data.toList <+: s.toUTF8.data.toList
  endsWith : ends = true ↔ p.toUTF8.data.toList <:+ s.toUTF8.data.toList

end Text

/-! ### Counts as integers -/

/-- `countInt64` keeps a count up to the greatest 64-bit integer, and gives that for greater ones. -/
private theorem toInt_countInt64 (n : Nat) : (countInt64 n).toInt = (min n (UInt64.size / 2 - 1) : Nat) := by
  apply Int64.toInt_ofNat_of_lt
  have : UInt64.size / 2 - 1 < 0x8000000000000000 := by decide
  omega

/-- `countInt64` is exact for a count that is a 64-bit integer. -/
private theorem toInt_countInt64_of_lt {n : Nat} (h : n < UInt64.size / 2) : (countInt64 n).toInt = n := by
  rw [toInt_countInt64, Nat.min_eq_left (by omega)]

/-- `countInt64` gives no negative number. -/
private theorem countInt64_nonneg (n : Nat) : 0 ≤ countInt64 n := by
  rw [Int64.le_iff_toInt_le, toInt_countInt64]
  exact Int.natCast_nonneg _

/-- `countInt64` gives zero for zero only. -/
private theorem countInt64_eq_zero_iff {n : Nat} : countInt64 n = 0 ↔ n = 0 := by
  rw [← Int64.toInt_inj, toInt_countInt64]
  have : (0 : Int64).toInt = 0 := rfl
  have : 0 < UInt64.size / 2 - 1 := by decide
  omega

/-- The place of a pattern as an integer, minus one if there is none. -/
def placeInt64 : Option Nat → Int64
  | some i => countInt64 i
  | none => -1

/-- `placeInt64` is not negative if there is a place. -/
private theorem placeInt64_nonneg_iff {place : Option Nat} : 0 ≤ placeInt64 place ↔ ∃ i, place = some i := by
  cases place with
  | none => simp [placeInt64]
  | some i => simp [placeInt64, countInt64_nonneg]

/-- `placeInt64` is minus one if there is no place. -/
private theorem placeInt64_eq_neg_one_iff {place : Option Nat} : placeInt64 place = -1 ↔ place = none := by
  cases place with
  | none => simp [placeInt64]
  | some i =>
    have hnonneg := countInt64_nonneg i
    simp only [placeInt64, reduceCtorEq, iff_false]
    intro h
    rw [h] at hnonneg
    exact absurd hnonneg (by decide)

/-- `placeInt64` is zero if the place is the start. -/
private theorem placeInt64_eq_zero_iff {place : Option Nat} : placeInt64 place = 0 ↔ place = some 0 := by
  cases place with
  | none => simp [placeInt64]
  | some i => simp [placeInt64, countInt64_eq_zero_iff]

/-- `IndexOf` answers with the place that `Text.indexOf?` finds. -/
private theorem Builtin.apply_indexOf {ρ : Type} (s p : String) :
    indexOf.apply (.str s : Value ρ) [.str p] =
      .int (placeInt64 (Text.indexOf? p.toList s.toList)) := by
  simp only [apply, List.headD_cons, onTexts]
  cases Text.indexOf? p.toList s.toList <;> rfl

/-! ### Main statement -/

namespace Text

/-- A text that fits into memory has a number of characters that `countInt64` keeps. -/
private theorem FitsMemory.length_lt {s : String} (h : FitsMemory s) : s.length < UInt64.size / 2 := by
  -- a character is at least one byte
  have hle := length_le_length_bytes s.toList
  rw [String.length_toList, length_bytes_toList] at hle
  exact Nat.lt_of_le_of_lt hle h

/-- The searches of this library are searches for characters. -/
private theorem findsCharacters (s p : String) :
    FindsCharacters s p (placeInt64 (indexOf? p.toList s.toList)) (contains s.toList p.toList)
      (startsWith s.toList p.toList) (endsWith s.toList p.toList) where
  first i hi := by rw [indexOf?_eq_some_iff.mpr hi, placeInt64]
  absent := by rw [placeInt64_eq_neg_one_iff, indexOf?_eq_none_iff]
  contains := by
    rw [contains_iff, placeInt64_nonneg_iff, ← exists_occursAt_iff]
    constructor
    · intro h
      obtain ⟨i, hi⟩ := h
      exact exists_indexOf? hi
    · intro h
      obtain ⟨i, hi⟩ := h
      exact ⟨i, (isLeast_of_indexOf? hi).1⟩
  startsWith := by
    rw [startsWith_iff, placeInt64_eq_zero_iff, indexOf?_eq_some_iff, ← occursAt_zero]
    constructor
    · intro h
      exact ⟨h, fun _ _ => Nat.zero_le _⟩
    · intro h
      exact h.1
  endsWith := by
    rw [endsWith_iff]
    constructor
    · intro h
      -- a suffix of the characters is what stands behind a text, since each list of characters is one
      obtain ⟨before, hbefore⟩ := h
      refine ⟨String.ofList before, String.toList_inj.mp ?_⟩
      rw [String.toList_append, String.toList_ofList, hbefore]
    · intro h
      obtain ⟨before, rfl⟩ := h
      rw [String.toList_append]
      exact List.suffix_append _ _
  precise hs i := by
    rw [← indexOf?_eq_some_iff]
    cases hplace : indexOf? p.toList s.toList with
    | none =>
      -- minus one is no count
      have hneg : (-1 : Int64).toInt = -1 := rfl
      simp only [placeInt64, hneg, reduceCtorEq]
    | some j =>
      -- the place lies within the text, so it is counted exactly
      have hlength := (isLeast_of_indexOf? hplace).1.length_le
      have hlt := hs.length_lt
      rw [String.length_toList, String.length_toList] at hlength
      rw [placeInt64, toInt_countInt64_of_lt (by omega), Option.some_inj]
      exact Int.ofNat_inj

/-- The searches of this library are searches for bytes. -/
private theorem findsBytes (s p : String) :
    FindsBytes s p (placeInt64 (indexOf? p.toList s.toList)) (contains s.toList p.toList)
      (startsWith s.toList p.toList) (endsWith s.toList p.toList) where
  first b hb := by
    simp only [← bytes_toList] at hb
    obtain ⟨before, after, hs, hbefore⟩ := exists_append_of_isLeast_bytes hb
    -- the characters before the first place among bytes are as many as those before the first place
    -- among characters
    have hleast := isLeast_of_isLeast_bytes hb hs hbefore
    refine ⟨String.ofList before, String.ofList after, ?_, ?_, ?_⟩
    · rw [← String.toList_inj, hs]
      simp
    · rw [← length_bytes_toList, String.toList_ofList, hbefore]
    · rw [indexOf?_eq_some_iff.mpr hleast, placeInt64, String.length_ofList]
  absent := by
    simp only [← bytes_toList]
    rw [placeInt64_eq_neg_one_iff, indexOf?_eq_none_iff, ← not_exists, ← not_exists,
      exists_occursAt_iff, exists_occursAt_iff, bytes_infix_iff]
  contains := by rw [contains_iff, ← bytes_toList, ← bytes_toList, bytes_infix_iff]
  startsWith := by rw [startsWith_iff, ← bytes_toList, ← bytes_toList, bytes_prefix_iff]
  endsWith := by rw [endsWith_iff, ← bytes_toList, ← bytes_toList, bytes_suffix_iff]

end Text

/-- Searches for one text in another agree with one another, with the bytes of the texts and with their
lengths: the index is the least number of characters before the pattern, the other searches ask about
the same places, and the characters of the pattern at the index are characters of the text. -/
theorem searches_agree {ρ : Type} (host : Host ρ) (record : ρ) {target argument : Plan} {s p : String}
    (hs : target.value host record = .str s) (hp : argument.value host record = .str p) :
    let answer (m : Builtin) := (Plan.builtin m target [argument]).value host record
    ∃ (index : Int64) (contained starts ends : Bool),
      answer .indexOf = .int index ∧ answer .contains = .bool contained ∧
      answer .startsWith = .bool starts ∧ answer .endsWith = .bool ends ∧
      Text.FindsCharacters s p index contained starts ends ∧
      Text.FindsBytes s p index contained starts ends ∧
      ∃ length width : Int64,
        (Plan.length target).value host record = .int length ∧
        (Plan.length argument).value host record = .int width ∧
        length = countInt64 s.length ∧ width = countInt64 p.length ∧
        (Text.FitsMemory s → 0 ≤ index → index.toInt + width.toInt ≤ length.toInt) := by
  intro answer
  have hanswer (m : Builtin) : answer m = m.apply (.str s) [.str p] := by
    simp only [answer, Plan.value, Plan.values, hs, hp]
  refine ⟨_, _, _, _, ?_, hanswer .contains, hanswer .startsWith, hanswer .endsWith,
    Text.findsCharacters s p, Text.findsBytes s p, countInt64 s.length, countInt64 p.length,
    ?_, ?_, rfl, rfl, ?_⟩
  · rw [hanswer, Builtin.apply_indexOf]
  · rw [Plan.value, hs]
  · rw [Plan.value, hp]
  · intro hfits hnonneg
    obtain ⟨i, hi⟩ := placeInt64_nonneg_iff.mp hnonneg
    -- a pattern that is found is no longer than the text, so that both lengths are exact
    have hlength := (Text.isLeast_of_indexOf? hi).1.length_le
    have hlt := hfits.length_lt
    rw [String.length_toList, String.length_toList] at hlength
    rw [hi, placeInt64, toInt_countInt64_of_lt hlt, toInt_countInt64_of_lt (by omega),
      toInt_countInt64_of_lt (by omega)]
    omega

/-- The third character of Zoë takes two bytes, so that the place of her second name is 4 in characters
and 5 in bytes. -/
theorem searches_agree_of_second_name :
    let zoe : Sample.Record := .person ⟨"Zoë Müller", 30, none, 0.0, true, 0, none⟩
    let name : Plan := .member .root "Name"
    let pattern : Plan := .const (.str "Mü")
    name.value Sample.host zoe = .str "Zoë Müller" ∧ pattern.value Sample.host zoe = .str "Mü" ∧
      (Plan.builtin .indexOf name [pattern]).value Sample.host zoe = .int 4 ∧
      Text.FindsCharacters "Zoë Müller" "Mü" 4 true false false ∧
      Text.FindsBytes "Zoë Müller" "Mü" 4 true false false ∧
      Text.OccursAt "Mü".toUTF8.data.toList "Zoë Müller".toUTF8.data.toList 5 ∧
      Text.FitsMemory "Zoë Müller" ∧
      (4 : Int64).toInt + (countInt64 "Mü".length).toInt ≤ (countInt64 "Zoë Müller".length).toInt := by
  intro zoe name pattern
  have hname : name.value Sample.host zoe = .str "Zoë Müller" := rfl
  have hpattern : pattern.value Sample.host zoe = .str "Mü" := rfl
  obtain ⟨index, contained, starts, ends, hindex, hcontained, hstarts, hends, hchars, hbytes,
    length, width, -, -, rfl, rfl, hwithin⟩ := searches_agree Sample.host zoe hname hpattern
  -- what the plans answer for her name
  have h4 : (Plan.builtin .indexOf name [pattern]).value Sample.host zoe = .int 4 := by decide
  have htrue : (Plan.builtin .contains name [pattern]).value Sample.host zoe = .bool true := by decide
  have hstart : (Plan.builtin .startsWith name [pattern]).value Sample.host zoe = .bool false := by
    decide
  have hend : (Plan.builtin .endsWith name [pattern]).value Sample.host zoe = .bool false := by decide
  cases hindex.symm.trans h4
  cases hcontained.symm.trans htrue
  cases hstarts.symm.trans hstart
  cases hends.symm.trans hend
  have hfits : Text.FitsMemory "Zoë Müller" := show "Zoë Müller".utf8ByteSize < _ by decide
  refine ⟨hname, hpattern, h4, hchars, hbytes, ?_, hfits, hwithin hfits (by decide)⟩
  exact ⟨"Zoë ".toUTF8.data.toList, "ller".toUTF8.data.toList, by decide, by decide⟩

end RecordFilter
