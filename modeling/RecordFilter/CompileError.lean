import RecordFilter.Elaboration.TypedPlan
import RecordFilter.Expr.Parser
/-!
# Errors and where they are shown

A source text is rejected by a limit, or because it has no tokens, no expression or no meaning.
Errors carry an offset into the source; `locate` finds the line and column of an offset, and
`CompileError.render` shows the line with a caret below the column.
-/

namespace RecordFilter

/-- A limit on source texts. -/
inductive Limit where
  /-- The number of characters. -/
  | expressionLength
  /-- The number of open parentheses and prefixes. -/
  | nestingDepth
deriving Repr, DecidableEq

/-- The name of a limit in messages. -/
def Limit.text : Limit → String
  | expressionLength => "expression length"
  | nestingDepth => "nesting depth"

/-- Why a source text is rejected. -/
inductive CompileError where
  /-- A character starts no token. -/
  | tokenize (e : TokenizeError)
  /-- A token does not fit the grammar. -/
  | parse (e : ParseError)
  /-- The expression has no meaning in the schema. -/
  | elaborate (e : ElaborationError)
  /-- A limit was exceeded. -/
  | limitExceeded (limit : Limit) (actual max offset : Nat)
deriving Repr, DecidableEq

/-- A place in a source text. -/
structure Location where
  /-- The number of the line, counted from one. -/
  line : Nat
  /-- The number of characters before the place in its line. -/
  column : Nat
  /-- The characters of the line. -/
  text : List Char
deriving Repr, DecidableEq

/-- The place that is `offset` characters after the start of `text`, the line of number `line`,
which `others` follow.  Beyond the last line it is the end of that line. -/
def locateFrom (line offset : Nat) (text : List Char) : List (List Char) → Location
  | [] => ⟨line, min offset text.length, text⟩
  | next :: more =>
    if offset ≤ text.length then ⟨line, offset, text⟩
    else locateFrom (line + 1) (offset - (text.length + 1)) next more

/-- The place of an offset in a source text. -/
def locate (source : String) (offset : Nat) : Location :=
  let (first, others) := Text.pieces '\n' source.toList
  locateFrom 1 offset first others

namespace CompileError

/-- The offset that the error points at. -/
def offset : CompileError → Nat
  | tokenize e => e.offset
  | parse e => e.offset
  | elaborate e => e.offset
  | limitExceeded _ _ _ offset => offset

/-- The message of the error. -/
def message : CompileError → String
  | tokenize e => e.message
  | parse e => e.message
  | elaborate e => e.message
  | limitExceeded limit actual max offset =>
    limit.text ++ " limit exceeded at offset " ++ Decimal.natText offset ++ ": " ++
      Decimal.natText actual ++ " > " ++ Decimal.natText max

/-- The error under the line of the source that it points at. -/
def render (e : CompileError) (source : String) : String :=
  let place := locate source e.offset
  "error at line " ++ Decimal.natText place.line ++ ", column " ++
    Decimal.natText (place.column + 1) ++ ":\n" ++ String.ofList place.text ++ "\n" ++
    String.ofList (List.replicate place.column ' ') ++ "^\n" ++ e.message

end CompileError

end RecordFilter
