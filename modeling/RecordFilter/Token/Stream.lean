import RecordFilter.Token.Lexeme
import RecordFilter.Text.Blank
/-!
# From text to tokens

`tokenize` skips blank characters and cuts the rest into lexemes.  Every step leaves a shorter
rest, because lexemes are not empty.
-/

namespace RecordFilter

/-- The tokens of a text that stands after `offset` characters. -/
def tokensFrom (offset : Nat) (cs : List Char) : Except TokenizeError (List Token) :=
  match cs with
  | [] => .ok [⟨.eof, "", offset⟩]
  | c :: rest =>
    if Text.isBlank c then
      tokensFrom (offset + 1) rest
    else
      match _ : lexeme? (c :: rest) with
      | none => .error ⟨c, offset⟩
      | some (kind, n) =>
        (tokensFrom (offset + n) ((c :: rest).drop n)).map
          (⟨kind, String.ofList ((c :: rest).take n), offset⟩ :: ·)
termination_by cs.length
decreasing_by
  · simp
  · rename_i hlex
    have := lexeme?_pos hlex
    simp only [List.length_drop, List.length_cons]
    omega

/-- The tokens of a source text, the end of input last. -/
def tokenize (source : String) : Except TokenizeError (List Token) :=
  tokensFrom 0 source.toList

end RecordFilter
