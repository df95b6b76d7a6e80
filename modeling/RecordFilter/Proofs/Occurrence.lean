import Mathlib.Order.Bounds.Basic
import RecordFilter.Text.Search
/-!
# Places of a pattern in a text

A pattern stands in a text after `i` characters if the text is made of `i` characters, the pattern
and a rest (`OccursAt`).  `indexOf?` finds the least such place (`indexOf?_eq_some_iff`), and the other
searches are questions about places: whether there is one, whether the start is one, and whether the
pattern ends the text.

Texts are held as bytes, and may be searched as such.  The first byte of a character is no byte
inside another one, so the bytes of a pattern stand in those of a text only where the pattern itself
stands (`exists_append_of_bytes`); only the empty pattern stands between any two bytes, and at the
start first of all.  So the first byte at which the bytes of a pattern stand is that of the first
character at which the pattern stands (`isLeast_of_isLeast_bytes`).
-/

namespace RecordFilter

namespace Text

/-! ### Places of a pattern -/

section

variable {α : Type} {p s cs before after : List α} {c : α} {i : Nat}

/-- The pattern stands in the text after `i` elements. -/
def OccursAt (p s : List α) (i : Nat) : Prop :=
  ∃ before after, s = before ++ p ++ after ∧ before.length = i

/-- `OccursAt` read off a text that is put together. -/
private theorem occursAt_append (before p after : List α) :
    OccursAt p (before ++ p ++ after) before.length :=
  ⟨before, after, rfl, rfl⟩

/-- `OccursAt` the start says that the pattern is a prefix. -/
theorem occursAt_zero : OccursAt p s 0 ↔ p <+: s := by
  constructor
  · intro h
    obtain ⟨before, after, rfl, hlength⟩ := h
    rw [List.length_eq_zero_iff] at hlength
    subst hlength
    exact ⟨after, rfl⟩
  · intro h
    obtain ⟨after, rfl⟩ := h
    exact occursAt_append [] p after

/-- `OccursAt` at a later place is `OccursAt` in what follows the first element. -/
private theorem occursAt_succ : OccursAt p (c :: cs) (i + 1) ↔ OccursAt p cs i := by
  constructor
  · intro h
    obtain ⟨before, after, hs, hlength⟩ := h
    cases before with
    | nil => simp at hlength
    | cons b before =>
      obtain ⟨-, rfl⟩ := List.cons.inj hs
      exact ⟨before, after, rfl, Nat.succ.inj hlength⟩
  · intro h
    obtain ⟨before, after, rfl, rfl⟩ := h
    exact occursAt_append (c :: before) p after

/-- `OccursAt` a place of a text says that the pattern does not reach beyond its end. -/
theorem OccursAt.length_le (h : OccursAt p s i) : i + p.length ≤ s.length := by
  obtain ⟨before, after, rfl, rfl⟩ := h
  simp only [List.length_append]
  omega

/-- `OccursAt` some place says that the pattern is an infix. -/
theorem exists_occursAt_iff : (∃ i, OccursAt p s i) ↔ p <:+: s := by
  constructor
  · intro h
    obtain ⟨_, before, after, rfl, -⟩ := h
    exact ⟨before, after, rfl⟩
  · intro h
    obtain ⟨before, after, rfl⟩ := h
    exact ⟨before.length, occursAt_append before p after⟩

end

/-! ### Searches for characters -/

section

variable {p s : List Char} {i : Nat}

/-- What `indexOf?` finds is the least place of the pattern. -/
theorem isLeast_of_indexOf? (h : indexOf? p s = some i) : IsLeast {i | OccursAt p s i} i := by
  -- by the text, as `indexOf?` goes over it; the place is general
  induction s generalizing i with
  | nil =>
    simp only [indexOf?, List.isEmpty_iff, Option.ite_none_right_eq_some, Option.some.injEq] at h
    obtain ⟨rfl, rfl⟩ := h
    exact ⟨occursAt_append [] [] [], fun _ _ => Nat.zero_le _⟩
  | cons c cs ih =>
    rw [indexOf?] at h
    by_cases hpre : p <+: c :: cs
    · rw [if_pos (List.isPrefixOf_iff_prefix.mpr hpre)] at h
      cases h
      exact ⟨occursAt_zero.mpr hpre, fun _ _ => Nat.zero_le _⟩
    · -- the pattern does not stand at the start, so every place is one of the rest
      rw [if_neg (fun h => hpre (List.isPrefixOf_iff_prefix.mp h))] at h
      obtain ⟨j, hj, rfl⟩ := Option.map_eq_some_iff.mp h
      obtain ⟨hoccurs, hleast⟩ := ih hj
      refine ⟨occursAt_succ.mpr hoccurs, ?_⟩
      intro k hk
      cases k with
      | zero => exact absurd (occursAt_zero.mp hk) hpre
      | succ k => exact Nat.succ_le_succ (hleast (occursAt_succ.mp hk))

/-- `indexOf?` finds a pattern that stands in the text. -/
theorem exists_indexOf? (h : OccursAt p s i) : ∃ j, indexOf? p s = some j := by
  induction s generalizing i with
  | nil =>
    have hlength := h.length_le
    rw [List.length_nil] at hlength
    have hp : p = [] := List.length_eq_zero_iff.mp (by omega)
    exact ⟨0, by rw [hp]; rfl⟩
  | cons c cs ih =>
    rw [indexOf?]
    by_cases hpre : p <+: c :: cs
    · exact ⟨0, if_pos (List.isPrefixOf_iff_prefix.mpr hpre)⟩
    · rw [if_neg (fun h => hpre (List.isPrefixOf_iff_prefix.mp h))]
      -- the place is not the start, so it is one of the rest
      cases i with
      | zero => exact absurd (occursAt_zero.mp h) hpre
      | succ i =>
        obtain ⟨j, hj⟩ := ih (occursAt_succ.mp h)
        exact ⟨j + 1, by rw [hj, Option.map_some]⟩

/-- `indexOf?` finds exactly the least place of the pattern. -/
theorem indexOf?_eq_some_iff : indexOf? p s = some i ↔ IsLeast {i | OccursAt p s i} i := by
  constructor
  · exact isLeast_of_indexOf?
  · intro h
    obtain ⟨j, hj⟩ := exists_indexOf? h.1
    rw [hj, (isLeast_of_indexOf? hj).unique h]

/-- `indexOf?` finds nothing exactly if the pattern stands nowhere. -/
theorem indexOf?_eq_none_iff : indexOf? p s = none ↔ ∀ i, ¬ OccursAt p s i := by
  constructor
  · intro h i hi
    obtain ⟨j, hj⟩ := exists_indexOf? hi
    rw [h] at hj
    exact nomatch hj
  · intro h
    cases hi : indexOf? p s with
    | none => rfl
    | some i => exact absurd (isLeast_of_indexOf? hi).1 (h i)

/-- The elements of `suffixes` are the suffixes, the empty one too. -/
private theorem mem_suffixes_iff {cs : List Char} : cs ∈ suffixes s ↔ cs <:+ s := by
  induction s with
  | nil => simp [suffixes]
  | cons c s ih => rw [suffixes, List.mem_cons, ih, List.suffix_cons_iff]

/-- `contains` asks whether the pattern is an infix: a prefix of some suffix. -/
theorem contains_iff : contains s p = true ↔ p <:+: s := by
  simp only [contains, List.any_eq_true, mem_suffixes_iff, List.isPrefixOf_iff_prefix]
  rw [List.infix_iff_prefix_suffix]
  simp only [and_comm]

/-- `startsWith` asks whether the pattern is a prefix. -/
theorem startsWith_iff : startsWith s p = true ↔ p <+: s := List.isPrefixOf_iff_prefix

/-- `endsWith` asks whether the pattern is a suffix. -/
theorem endsWith_iff : endsWith s p = true ↔ p <:+ s := List.isSuffixOf_iff_suffix

end

/-! ### Searches for bytes -/

section

variable {p s before after : List Char} {c d : Char} {b : Nat}

/-- The bytes of characters. -/
def bytes (cs : List Char) : List UInt8 := cs.flatMap String.utf8EncodeChar

/-- `bytes` of no character are none. -/
@[simp]
theorem bytes_nil : bytes [] = [] := rfl

/-- The `bytes` of the first character come first. -/
private theorem bytes_cons (c : Char) (cs : List Char) : bytes (c :: cs) = String.utf8EncodeChar c ++ bytes cs :=
  rfl

/-- The `bytes` of two texts are those of the one after those of the other. -/
@[simp]
theorem bytes_append (cs ds : List Char) : bytes (cs ++ ds) = bytes cs ++ bytes ds :=
  List.flatMap_append

/-- `bytes` as an array is the encoding of the standard library. -/
private theorem toByteArray_bytes (cs : List Char) : (bytes cs).toByteArray = cs.utf8Encode := rfl

/-- The `bytes` of the characters of a `String` are the bytes that it holds. -/
theorem bytes_toList (s : String) : bytes s.toList = s.toUTF8.data.toList := by
  rw [String.toUTF8_eq_toByteArray, ← String.utf8Encode_toList, ← toByteArray_bytes,
    List.toList_data_toByteArray]

/-- The number of `bytes` of a `String` is the size that the standard library gives it. -/
theorem length_bytes_toList (s : String) : (bytes s.toList).length = s.utf8ByteSize := by
  rw [bytes_toList, Array.length_toList]
  rfl

/-- Every character takes at least one of the `bytes`. -/
theorem length_le_length_bytes (cs : List Char) : cs.length ≤ (bytes cs).length := by
  induction cs with
  | nil => exact Nat.le_refl 0
  | cons c cs ih =>
    have hpos := c.utf8Size_pos
    rw [bytes_cons, List.length_append, String.length_utf8EncodeChar, List.length_cons]
    omega

/-- `bytes` are none for the empty text only. -/
private theorem length_bytes_eq_zero_iff {cs : List Char} : (bytes cs).length = 0 ↔ cs = [] := by
  constructor
  · intro h
    have := length_le_length_bytes cs
    exact List.length_eq_zero_iff.mp (by omega)
  · intro h
    rw [h]
    rfl

/-- `bytes` that start with those of a pattern are those of a text that starts with the pattern. -/
private theorem prefix_of_bytes (h : bytes p <+: bytes s) : p <+: s := by
  obtain ⟨rest, hrest⟩ := h
  apply List.isPrefix_of_utf8Encode_append_eq_utf8Encode rest.toByteArray
  rw [← toByteArray_bytes, ← toByteArray_bytes, ← hrest, List.toByteArray_append]

/-- `IsUTF8FirstByte` marks the first byte of every character. -/
private theorem exists_firstByte (c : Char) :
    ∃ x xs, String.utf8EncodeChar c = x :: xs ∧ x.IsUTF8FirstByte := by
  have hpos : 0 < (String.utf8EncodeChar c).length := by
    rw [String.length_utf8EncodeChar]
    exact c.utf8Size_pos
  refine ⟨_, _, (List.getElem_cons_drop hpos).symm, ?_⟩
  exact UInt8.isUTF8FirstByte_getElem_zero_utf8EncodeChar

/-- `IsUTF8FirstByte` marks no byte inside a character. -/
private theorem eq_nil_of_firstByte {pre more : List UInt8} {x : UInt8} (hx : x.IsUTF8FirstByte)
    (h : String.utf8EncodeChar d = pre ++ x :: more) : pre = [] := by
  have hlt : pre.length < (String.utf8EncodeChar d).length := by
    simp [h]
  have hget : (String.utf8EncodeChar d)[pre.length] = x := by
    simp [h]
  -- only the byte in front is a first byte
  rw [← hget, UInt8.isUTF8FirstByte_getElem_utf8EncodeChar] at hx
  exact List.length_eq_zero_iff.mp hx

/-- If a character starts at a later byte than the first one, it starts after the first character. -/
private theorem exists_append_of_utf8EncodeChar {pre tail rest : List UInt8}
    (h : String.utf8EncodeChar d ++ tail = pre ++ (String.utf8EncodeChar c ++ rest)) (hpre : pre ≠ []) :
    ∃ later, pre = String.utf8EncodeChar d ++ later ∧
      tail = later ++ (String.utf8EncodeChar c ++ rest) := by
  -- the first bytes end after the first character, or inside it
  obtain ⟨later, hlater, htail⟩ | ⟨more, hd, hmore⟩ := List.append_eq_append_iff.mp h
  · exact ⟨later, hlater, htail⟩
  · cases more with
    | nil => exact ⟨[], by simpa using hd.symm, hmore.symm⟩
    | cons x more =>
      -- inside it, a first byte would come second
      obtain ⟨y, ys, hc, hy⟩ := exists_firstByte c
      rw [hc, List.cons_append] at hmore
      obtain ⟨rfl, -⟩ := List.cons.inj hmore
      exact absurd (eq_nil_of_firstByte hy hd) hpre

/-- `bytes` of a pattern that is not empty stand only where the pattern stands. -/
theorem exists_append_of_bytes (h : OccursAt (bytes (c :: p)) (bytes s) b) :
    ∃ before after, s = before ++ c :: p ++ after ∧ (bytes before).length = b := by
  obtain ⟨pre, post, hs, rfl⟩ := h
  induction s generalizing pre with
  | nil =>
    obtain ⟨x, xs, hc, -⟩ := exists_firstByte c
    simp [bytes_cons, hc] at hs
  | cons d ds ih =>
    -- at the start characters are read off, and elsewhere the first character is left out
    by_cases hpre : pre = []
    · subst hpre
      obtain ⟨after, hafter⟩ := prefix_of_bytes (p := c :: p) (s := d :: ds) ⟨post, hs.symm⟩
      exact ⟨[], after, hafter.symm, rfl⟩
    · rw [bytes_cons, bytes_cons, List.append_assoc, List.append_assoc] at hs
      obtain ⟨later, rfl, hds⟩ := exists_append_of_utf8EncodeChar hs hpre
      obtain ⟨before, after, rfl, hlength⟩ := ih later (by rw [hds, bytes_cons]; simp)
      refine ⟨d :: before, after, rfl, ?_⟩
      rw [bytes_cons, List.length_append, List.length_append, hlength]

/-- `bytes` of a pattern stand in those of a text where the pattern stands in the text. -/
private theorem occursAt_bytes (before p after : List Char) :
    OccursAt (bytes p) (bytes (before ++ p ++ after)) (bytes before).length := by
  rw [bytes_append, bytes_append]
  exact occursAt_append _ _ _

/-- `bytes` of a pattern start those of a text exactly if the pattern starts the text. -/
theorem bytes_prefix_iff : bytes p <+: bytes s ↔ p <+: s := by
  constructor
  · exact prefix_of_bytes
  · intro h
    obtain ⟨after, rfl⟩ := h
    exact ⟨bytes after, (bytes_append p after).symm⟩

/-- `bytes` of a pattern end those of a text exactly if the pattern ends the text. -/
theorem bytes_suffix_iff : bytes p <:+ bytes s ↔ p <:+ s := by
  constructor
  · intro h
    obtain ⟨pre, hpre⟩ := h
    cases p with
    | nil => exact List.nil_suffix
    | cons c p =>
      obtain ⟨before, after, rfl, hlength⟩ :=
        exists_append_of_bytes ⟨pre, [], by rw [hpre, List.append_nil], rfl⟩
      -- the bytes after the pattern are none
      have hafter : (bytes after).length = 0 := by
        have := congrArg List.length hpre
        simp only [bytes_append, List.length_append] at this
        omega
      rw [length_bytes_eq_zero_iff.mp hafter, List.append_nil]
      exact List.suffix_append before (c :: p)
  · intro h
    obtain ⟨before, rfl⟩ := h
    exact ⟨bytes before, (bytes_append before p).symm⟩

/-- `bytes` of a pattern stand among those of a text exactly if the pattern stands in the text. -/
theorem bytes_infix_iff : bytes p <:+: bytes s ↔ p <:+: s := by
  constructor
  · intro h
    obtain ⟨b, hb⟩ := exists_occursAt_iff.mpr h
    cases p with
    | nil => exact List.nil_infix
    | cons c p =>
      obtain ⟨before, after, rfl, -⟩ := exists_append_of_bytes hb
      exact ⟨before, after, rfl⟩
  · intro h
    obtain ⟨before, after, rfl⟩ := h
    exact exists_occursAt_iff.mp ⟨_, occursAt_bytes before p after⟩

/-- The first byte at which the bytes of a pattern stand is the first byte of a character, at which the
pattern stands. -/
theorem exists_append_of_isLeast_bytes (h : IsLeast {b | OccursAt (bytes p) (bytes s) b} b) :
    ∃ before after, s = before ++ p ++ after ∧ (bytes before).length = b := by
  cases p with
  | nil =>
    -- the empty pattern stands at the start already
    have hb : b ≤ 0 := h.2 (occursAt_bytes [] [] s)
    exact ⟨[], s, rfl, (Nat.le_zero.mp hb).symm⟩
  | cons c p => exact exists_append_of_bytes h.1

/-- The first byte at which the bytes of a pattern stand is that of the first character at which the
pattern stands. -/
theorem isLeast_of_isLeast_bytes (h : IsLeast {b | OccursAt (bytes p) (bytes s) b} b)
    (hs : s = before ++ p ++ after) (hb : (bytes before).length = b) :
    IsLeast {i | OccursAt p s i} before.length := by
  subst hs
  refine ⟨occursAt_append before p after, ?_⟩
  intro i hi
  obtain ⟨before', after', hs, rfl⟩ := hi
  by_contra hlt
  -- an earlier character has an earlier byte
  have hle : (bytes before).length ≤ (bytes before').length := by
    rw [hb]
    apply h.2
    rw [hs]
    exact occursAt_bytes before' p after'
  -- so what is before the one is a prefix of what is before the other, of the same size
  rw [List.append_assoc, List.append_assoc] at hs
  obtain ⟨more, rfl⟩ : before' <+: before :=
    List.prefix_of_prefix_length_le ⟨_, hs.symm⟩ ⟨_, rfl⟩ (by omega)
  rw [bytes_append, List.length_append] at hle
  have hmore : more = [] := length_bytes_eq_zero_iff.mp (by omega)
  simp [hmore] at hlt

end

end Text

end RecordFilter
