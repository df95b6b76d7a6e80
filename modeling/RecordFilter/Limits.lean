import RecordFilter.CompileError
import RecordFilter.Text.Blank
/-!
# Limits

A filter text may be limited in length, and in the nesting of its parentheses and prefixes.  Both
are checked before the text is parsed.
-/

namespace RecordFilter

/-- The limits on a source text; an absent limit does not limit. -/
structure Limits where
  /-- The greatest number of characters. -/
  maxLength : Option Nat := none
  /-- The greatest nesting of parentheses and prefixes. -/
  maxNesting : Option Nat := none
deriving Repr, DecidableEq

namespace Limits

/-- No limits. -/
def unlimited : Limits := {}

/-- Nothing is limited. -/
def isUnlimited (l : Limits) : Bool := l.maxLength.isNone && l.maxNesting.isNone

/-- The variable that limits the length. -/
def lengthVariable : String := "FILTEREXPR_MAX_LENGTH"

/-- The variable that limits the nesting. -/
def nestingVariable : String := "FILTEREXPR_MAX_DEPTH"

/-- The limit that the text of a variable gives; a text that is no number gives none. -/
def ofVariable? (text : String) : Option Nat :=
  Decimal.readUnsigned64? (Text.trim text.toList)

/-- The limits that the environment gives. -/
def ofEnvironment (environment : String → Option String) : Limits where
  maxLength := (environment lengthVariable).bind ofVariable?
  maxNesting := (environment nestingVariable).bind ofVariable?

end Limits

/-! ### Nesting -/

/-- Open parentheses, and prefixes `!` that have not met an operand. -/
structure Nesting where
  /-- The number of open parentheses. -/
  parens : Nat := 0
  /-- The number of prefixes. -/
  prefixes : Nat := 0
deriving Repr, DecidableEq

namespace Nesting

/-- The sum of both. -/
def depth (n : Nesting) : Nat := n.parens + n.prefixes

/-- The nesting after a token.  Parentheses leave the prefixes as they are. -/
def after (n : Nesting) (t : Token) : Nesting :=
  match t.kind with
  | .lparen => { n with parens := n.parens + 1 }
  -- a parenthesis that closes nothing is left to the parser
  | .rparen => { n with parens := n.parens - 1 }
  | .not => { n with prefixes := n.prefixes + 1 }
  | _ => { n with prefixes := 0 }

end Nesting

/-- The first token after which the nesting is greater than `max`, as an error. -/
def nestingError? (max : Nat) (n : Nesting) : List Token → Option CompileError
  | [] => none
  | t :: ts =>
    let n := n.after t
    if n.depth > max then some (.limitExceeded .nestingDepth n.depth max t.offset)
    else nestingError? max n ts

/-- The source is not longer than the limit allows. -/
def Limits.checkLength (l : Limits) (source : String) : Except CompileError Unit :=
  match l.maxLength with
  | some max =>
    if source.length > max then .error (.limitExceeded .expressionLength source.length max max)
    else .ok ()
  | none => .ok ()

/-- The tokens are not nested deeper than the limit allows. -/
def Limits.checkNesting (l : Limits) (tokens : List Token) : Except CompileError Unit :=
  match l.maxNesting with
  | some max =>
    match nestingError? max {} tokens with
    | some e => .error e
    | none => .ok ()
  | none => .ok ()

end RecordFilter
