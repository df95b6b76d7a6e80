import RecordFilter.Proofs.Lexing
/-!
# Tokens stand where they say

A token is a piece of the source: its text stands at its offset, and it is a text of its class
(`Lexes.standsIn`).  A character that starts no token stands at the offset of its error
(`tokensFrom_error`).  Offsets count characters, so nothing depends on how they are encoded.
-/

namespace RecordFilter

/-! ### Places in a text -/

/-- The text stands so many characters after the start of `cs`. -/
def PointsAt (cs : List Char) (offset : Nat) (text : String) : Prop :=
  text.toList <+: cs.drop offset

variable {cs : List Char} {offset : Nat} {a b : String}

/-- `PointsAt` puts a text that is not empty before the end. -/
theorem PointsAt.lt_length (h : PointsAt cs offset a) (ha : a ≠ "") : offset < cs.length := by
  have hlen := h.length_le
  rw [String.length_toList, List.length_drop] at hlen
  have hpos : a.length ≠ 0 := fun h0 => ha (String.length_eq_zero_iff.mp h0)
  omega

theorem PointsAt.left (h : PointsAt cs offset (a ++ b)) : PointsAt cs offset a := by
  unfold PointsAt at h
  rw [String.toList_append] at h
  exact (List.prefix_append _ _).trans h

theorem PointsAt.right (h : PointsAt cs offset (a ++ b)) :
    PointsAt cs (offset + a.length) b := by
  unfold PointsAt at h ⊢
  rw [String.toList_append] at h
  obtain ⟨rest, hrest⟩ := h
  -- what is left after the first text starts with the second
  rw [← List.drop_drop, ← hrest, ← String.length_toList, List.append_assoc, List.drop_left]
  exact List.prefix_append _ _

/-! ### The places of tokens -/

/-- A token is a text of its class, and stands at its offset. -/
structure Token.StandsIn (cs : List Char) (t : Token) : Prop where
  pointsAt : PointsAt cs t.offset t.text
  spells : t.kind.Spells t.text

/-- `lexeme?` finds the lexeme of a token where the token stands. -/
theorem Lexes.lexeme?_drop {rest : List Char} {ts : List Token} (h : Lexes rest 0 cs ts) {t : Token}
    (ht : t ∈ ts) :
    ∃ word tail, (cs ++ rest).drop t.offset = word ++ tail ∧ t.text = String.ofList word ∧
      lexeme? (word ++ tail) = some (t.kind, word.length) := by
  obtain ⟨before, word, tail, rfl, hplace, htext, hw⟩ := h.exists_of_mem ht
  rw [Nat.zero_add] at hplace
  refine ⟨word, tail ++ rest, ?_, htext, hw⟩
  -- dropping what stands before the token leaves the token and what follows
  rw [hplace, List.append_assoc, List.append_assoc, List.drop_left]

/-- `Lexes` gives tokens that stand in the text. -/
theorem Lexes.standsIn {rest : List Char} {ts : List Token} (h : Lexes rest 0 cs ts) :
    ∀ t ∈ ts, t.StandsIn (cs ++ rest) := by
  intro t ht
  obtain ⟨word, tail, hdrop, htext, hw⟩ := h.lexeme?_drop ht
  -- a lexeme is a text of its class
  have hspells := (isLexeme_of_lexeme? hw).spells
  rw [List.take_left, ← htext] at hspells
  refine ⟨?_, hspells⟩
  rw [PointsAt, hdrop, htext, String.toList_ofList]
  exact List.prefix_append _ _

/-- `tokensFrom` fails with the character that stands at the offset of the error. -/
theorem tokensFrom_error {e : TokenizeError} (h : tokensFrom 0 cs = .error e) :
    cs[e.offset]? = some e.character := by
  -- the characters before it were read, and it is the next one
  obtain ⟨c, before, rest, ts, rfl, -, -, -, rfl⟩ := tokensFrom_eq_error_iff.mp h
  simp

end RecordFilter
