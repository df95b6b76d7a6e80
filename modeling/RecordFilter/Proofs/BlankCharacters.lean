import RecordFilter.Criteria
import RecordFilter.Proofs.Lexing
/-!
# Blank characters beside names and lexemes

No blank character stands in a name or at the start of a lexeme (`not_isBlank_of_continuesName`,
`TokenKind.IsLexeme.not_isBlank`), so blanks separate lexemes, and a lexeme before a separating
character is read as one token (`TokenKind.IsLexeme.lexes`).  Taking characters to lower case makes
none of them blank and leaves blank ones as they are, so names that agree but for case are blank
together (`isBlankName_eq_of_sameName`).
-/

namespace RecordFilter

namespace Text

/-- No range of the one list meets a range of the other. -/
def CodeRanges.disjoint (as bs : CodeRanges) : Bool :=
  as.all fun a => bs.all fun b => a.2 < b.1 || b.2 < a.1

variable {c : Char}

/-- `CodeRanges.disjoint` from the ranges of blanks means that no character of the ranges is blank. -/
private theorem not_isBlank_of_mem {ranges : CodeRanges} (h : ranges.disjoint blankRanges = true)
    {r : Nat × Nat} (hr : r ∈ ranges) (hc : r.1 ≤ c.toNat ∧ c.toNat ≤ r.2) : isBlank c = false := by
  rw [← Bool.not_eq_true, isBlank_iff]
  rintro ⟨b, hb, hcb⟩
  -- the range of the character would meet that of the blank
  have hrb := List.all_eq_true.mp (List.all_eq_true.mp h r hr) b hb
  simp only [Bool.or_eq_true, decide_eq_true_eq] at hrb
  omega

/-- No character of `isAlphabetic` is blank. -/
private theorem not_isBlank_of_isAlphabetic (h : isAlphabetic c = true) : isBlank c = false := by
  obtain ⟨r, hr, hc⟩ := (isAlphabetic_iff c).mp h
  exact not_isBlank_of_mem (by decide +kernel) hr hc

/-- No character of `isNumeric` is blank. -/
private theorem not_isBlank_of_isNumeric (h : isNumeric c = true) : isBlank c = false := by
  obtain ⟨r, hr, hc⟩ := (isNumeric_iff c).mp h
  exact not_isBlank_of_mem (by decide +kernel) hr hc

/-- No character of `Char.isDigit` is blank. -/
private theorem not_isBlank_of_isDigit (h : c.isDigit = true) : isBlank c = false := by
  have hc : 48 ≤ c.toNat ∧ c.toNat ≤ 57 := by
    simpa [Char.isDigit, UInt32.le_iff_toNat_le] using h
  have hdigits : CodeRanges.disjoint [(48, 57)] blankRanges = true := by decide
  exact not_isBlank_of_mem hdigits List.mem_cons_self hc

/-! ### Blanks and lower case -/

/-- The ranges of the characters that the runs send to others. -/
def CaseRun.sources (runs : List CaseRun) : CodeRanges := runs.map fun run => (run.first, run.last)

/-- The ranges of the characters that the runs send them to. -/
def CaseRun.targets (runs : List CaseRun) : CodeRanges :=
  runs.map fun run => (run.target, run.target + (run.last - run.first))

/-- `lowerChar` leaves a blank character as it is. -/
private theorem lowerChar_of_isBlank (h : isBlank c = true) : lowerChar c = [c] := by
  -- neither the table of expansions nor a run of single characters has a blank as its source
  have hlookup : lowerExpansions.lookup c.toNat = none := by
    have hne : c.toNat ≠ 0x130 := by
      intro hc
      have hdisjoint : CodeRanges.disjoint [(0x130, 0x130)] blankRanges = true := by decide
      have hblank := not_isBlank_of_mem hdisjoint List.mem_cons_self (c := c) (by omega)
      simp [hblank] at h
    rw [List.lookup_eq_none_iff]
    simpa [lowerExpansions] using hne
  have hruns : lowerRuns.findSome? (·.image? c.toNat) = none := by
    rw [List.findSome?_eq_none_iff]
    intro run hrun
    have hdisjoint : (CaseRun.sources lowerRuns).disjoint blankRanges = true := by decide +kernel
    rw [CaseRun.image?, if_neg]
    rintro ⟨hfirst, hlast, -⟩
    have hblank := not_isBlank_of_mem hdisjoint (List.mem_map_of_mem hrun) ⟨hfirst, hlast⟩
    simp [hblank] at h
  rw [lowerChar, caseImage, hlookup, hruns]
  exact congrArg (fun d => [d]) (Char.ofNat_toNat c)

/-- `lowerChar` of a character that is not blank has a character that is not. -/
private theorem exists_not_isBlank_lowerChar (h : isBlank c = false) :
    ∃ d ∈ lowerChar c, isBlank d = false := by
  unfold lowerChar caseImage
  split
  · -- there is only one expansion
    rename_i images himages
    obtain ⟨before, after, heq, -⟩ := List.lookup_eq_some_iff.mp himages
    have hmem : (c.toNat, images) ∈ lowerExpansions :=
      heq ▸ List.mem_append_right _ List.mem_cons_self
    have hi := congrArg Prod.snd (List.mem_singleton.mp hmem)
    exact ⟨'i', by simp [show images = [0x69, 0x307] from hi], rfl⟩
  · refine ⟨_, List.mem_singleton_self _, ?_⟩
    cases hn : lowerRuns.findSome? (·.image? c.toNat) with
    | none => simpa using h
    | some n =>
      obtain ⟨run, hrun, himage⟩ := List.exists_of_findSome?_eq_some hn
      -- a run leads to characters outside the ranges of blanks
      have hdisjoint : (CaseRun.targets lowerRuns).disjoint blankRanges = true := by decide +kernel
      rw [CaseRun.image?, Option.ite_none_right_eq_some] at himage
      obtain ⟨⟨hfirst, hlast, -⟩, himage⟩ := himage
      have hn := Option.some.inj himage
      rw [Option.getD_some]
      by_cases hvalid : n.isValidChar
      · have htoNat : (Char.ofNat n).toNat = n := by
          rw [Char.ofNat, dif_pos hvalid]
          rfl
        refine not_isBlank_of_mem hdisjoint (List.mem_map_of_mem hrun) ?_
        dsimp only
        omega
      · -- what is no code point stands for the null character
        rw [Char.ofNat, dif_neg hvalid]
        rfl

/-- `caseless` leaves something that is not blank of a name that is not. -/
private theorem forall_isBlank_caseless_iff {name : String} :
    (∀ d ∈ caseless name, isBlank d = true) ↔ ∀ c ∈ name.toList, isBlank c = true := by
  constructor
  · intro h c hc
    by_contra hblank
    obtain ⟨d, hd, hnot⟩ := exists_not_isBlank_lowerChar (Bool.eq_false_iff.mpr hblank)
    simp [h d (List.mem_flatMap_of_mem hc hd)] at hnot
  · intro h d hd
    obtain ⟨c, hc, hdc⟩ := List.mem_flatMap.mp hd
    rw [lowerChar_of_isBlank (h c hc), List.mem_singleton] at hdc
    exact hdc ▸ h c hc

end Text

/-- `isBlankName` holds of names without a character that is not blank. -/
theorem isBlankName_iff {name : String} :
    isBlankName name = true ↔ ∀ c ∈ name.toList, Text.isBlank c = true := by
  rw [isBlankName, List.isEmpty_iff, Text.trim_eq_nil_iff]

/-- `isBlankName` fails for names with a character that is not blank. -/
theorem isBlankName_eq_false_iff {name : String} :
    isBlankName name = false ↔ ∃ c ∈ name.toList, Text.isBlank c = false := by
  rw [← Bool.not_eq_true, isBlankName_iff]
  simp

/-- `Text.sameName` holds only of names that are blank together. -/
theorem isBlankName_eq_of_sameName {a b : String} (h : Text.sameName a b = true) :
    isBlankName a = isBlankName b := by
  -- what is compared without case is blank if the name is
  rw [Bool.eq_iff_iff, isBlankName_iff, isBlankName_iff, ← Text.forall_isBlank_caseless_iff,
    ← Text.forall_isBlank_caseless_iff, Text.sameName_iff.mp h]

/-! ### Blanks and lexemes -/

namespace Lexeme

variable {c : Char}

/-- No character of `continuesName` is blank. -/
theorem not_isBlank_of_continuesName (h : continuesName c = true) : Text.isBlank c = false := by
  simp only [continuesName, Bool.or_eq_true, beq_iff_eq] at h
  rcases h with ((h | h) | rfl) | rfl
  · exact Text.not_isBlank_of_isAlphabetic h
  · exact Text.not_isBlank_of_isNumeric h
  · rfl
  · rfl

/-- `Separates` holds of blanks. -/
theorem separates_of_isBlank (h : Text.isBlank c = true) : Separates c where
  notOperator := by
    -- a blank is none of the characters that go on an operator
    refine ⟨?_, ?_, ?_⟩ <;>
    · rintro rfl
      exact absurd h (by decide)
  notDigit := by
    rw [← Bool.not_eq_true]
    intro hc
    simp [Text.not_isBlank_of_isDigit hc] at h
  notName := by
    rw [← Bool.not_eq_true]
    intro hc
    simp [not_isBlank_of_continuesName hc] at h

/-- `lexeme?` finds nothing at a blank. -/
private theorem lexeme?_of_isBlank (h : Text.isBlank c = true) (cs : List Char) :
    lexeme? (c :: cs) = none := by
  have hstart : c ∉ operatorStarts := by
    have hall : operatorStarts.all (fun a => !Text.isBlank a) = true := by decide
    intro hmem
    simpa [h] using List.all_eq_true.mp hall c hmem
  have hquote : c ≠ '"' := by
    rintro rfl
    exact absurd h (by decide)
  have hword : startsName c = false := by
    rw [← Bool.not_eq_true]
    intro hc
    have hname := continuesName_of_startsName hc
    simp [(separates_of_isBlank h).notName] at hname
  -- each of the four kinds of lexemes starts otherwise
  rw [lexeme?, operator?_eq_none hstart, quoted?_eq_none hquote, number?,
    (separates_of_isBlank h).notDigit, word?, hword]
  rfl

end Lexeme

open Lexeme

namespace TokenKind.IsLexeme

variable {kind : TokenKind} {c : Char} {word rest : List Char}

/-- `IsLexeme` holds of no text that starts with a blank. -/
theorem not_isBlank (h : kind.IsLexeme (c :: word)) : Text.isBlank c = false := by
  rw [← Bool.not_eq_true]
  intro hc
  have hfound := h.lexeme?_eq
  rw [lexeme?_of_isBlank hc] at hfound
  exact nomatch hfound

/-- `Lexes` reads a lexeme as one token at the end of a text, or before a separating character. -/
theorem lexes (h : kind.IsLexeme word) (hrest : ∀ d ∈ rest.head?, Separates d) (offset : Nat) :
    Lexes rest offset word [⟨kind, String.ofList word, offset⟩] := by
  obtain ⟨c, cs, rfl⟩ := List.exists_cons_of_ne_nil h.ne_nil
  refine .single h.not_isBlank ?_
  cases rest with
  | nil =>
    rw [List.append_nil]
    exact h.lexeme?_eq
  | cons d rest => exact lexeme?_append (hrest d rfl) h.lexeme?_eq rest

/-- Only comparison operators start with an equals sign. -/
theorem exists_head?_ne (h : kind.IsLexeme word) (hk : ∀ op, kind ≠ .comparison op) :
    ∃ c, word.head? = some c ∧ c ≠ '=' := by
  obtain ⟨c, cs, rfl⟩ := List.exists_cons_of_ne_nil h.ne_nil
  refine ⟨c, rfl, ?_⟩
  rintro rfl
  have hfound := h.lexeme?_eq
  have hword : startsName '=' = false := by decide +kernel
  have hnumber : number? ('=' :: cs) = none := rfl
  rw [lexeme?, quoted?_eq_none (by decide), hnumber, word?, hword, if_neg Bool.false_ne_true,
    Option.none_or, Option.none_or, Option.or_none, operator?, Option.map_eq_some_iff] at hfound
  obtain ⟨o, ho, hkind⟩ := hfound
  -- of the operators only the comparison for equality starts so
  have hall : ∀ o ∈ operators, o.1.toList.isPrefixOf ('=' :: cs) = true →
      o.2 = .comparison .eq := by
    simp [operators]
  have heq := hall o (List.mem_of_find?_eq_some ho) (by simpa using List.find?_some ho)
  rw [heq] at hkind
  exact hk .eq (congrArg Prod.fst hkind).symm

end TokenKind.IsLexeme

end RecordFilter
