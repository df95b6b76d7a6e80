import RecordFilter.Decimal.Integer
import RecordFilter.Text.Alphabetic
import RecordFilter.Text.Blank
import RecordFilter.Text.Casing
import RecordFilter.Text.Numeric
import RecordFilter.Text.Pieces
/-!
# Log filters

A log filter chooses what a program writes to its log.  It is a list of directives with commas
between them, and a directive is one of `level`, `target`, `target=level`, `[span]=level` and
`target[span]=level`.  A span may list fields between braces, and what follows `=` may be empty.

Only the form of a filter is checked here: a target or a span can have any name, and the pattern
that a field is compared with is taken as it is.
-/

namespace RecordFilter

/-- Why a log filter is refused. -/
inductive LogFilterError where
  /-- A directive does not have the form of one. -/
  | malformedDirective
  /-- What follows `=` is no level. -/
  | unknownLevel
deriving Repr, DecidableEq

namespace LogFilterError

/-- The text of a refused level. -/
def levelText : String :=
  "error parsing level filter: expected one of \"off\", \"error\", \"warn\", \"info\", " ++
    "\"debug\", \"trace\", or a number 0-5"

/-- The texts of the error, each the cause of the one before it.  A refused level is reported once
for the directive and once for the level. -/
def causes : LogFilterError → List String
  | malformedDirective => ["invalid filter directive"]
  | unknownLevel => [levelText, levelText]

end LogFilterError

namespace LogFilter

/-- The names of the levels. -/
def levelNames : List String := ["off", "error", "warn", "info", "debug", "trace"]

/-- The text is a level: a name in any case, or a number up to five. -/
def isLevel (cs : List Char) : Bool :=
  levelNames.any (Text.sameWord cs) || (Decimal.readUnsigned64? cs).any (· ≤ 5)

/-- The character can start a target or a level. -/
def startsTarget (c : Char) : Bool :=
  Text.isAlphabetic c || Text.isNumeric c || c == '-' || c == ':' || c == '_'

/-- The text of the level that follows a span, if there is one. -/
def levelAfterSpan? : List Char → Except LogFilterError (Option (List Char))
  | [] => .ok none
  | '=' :: level => .ok (some level)
  | _ => .error .malformedDirective

/-- The text of the level after the fields of a span. -/
def levelAfterFields? (cs : List Char) : Except LogFilterError (Option (List Char)) :=
  if cs.head? = some '\x7d' then .error .malformedDirective
  else
    match cs.dropWhile (· != '\x7d') with
    | '\x7d' :: ']' :: rest => levelAfterSpan? rest
    | _ => .error .malformedDirective

/-- The text of the level after an open span. -/
def levelAfterBracket? (cs : List Char) : Except LogFilterError (Option (List Char)) :=
  match cs.dropWhile fun c => c != ']' && c != '\x7b' with
  | ']' :: rest => levelAfterSpan? rest
  | '\x7b' :: rest => levelAfterFields? rest
  | _ => .error .malformedDirective

/-- The text of the level after the `=` of a directive, if there is one.  A directive without
brackets and without `=` is always good: it is a target if it is no level. -/
def level? : List Char → Except LogFilterError (Option (List Char))
  | [] => .error .malformedDirective
  | c :: cs =>
    if c = '[' then levelAfterBracket? cs
    else if startsTarget c then
      match cs.dropWhile fun c => c != '=' && c != '[' with
      | '=' :: level => .ok (some level)
      | '[' :: rest => levelAfterBracket? rest
      | _ => .ok none
    else
      .error .malformedDirective

/-- Checks one directive.  Blanks around it are passed over in finding the level, but the level is
then read from the directive with its blanks, so that a blank on either side spoils it. -/
def checkDirective (directive : List Char) : Except LogFilterError Unit := do
  let body := Text.trim directive
  match ← level? body with
  | none => return
  | some level =>
    let written := directive.drop (body.length - level.length)
    unless written.isEmpty || isLevel written do throw .unknownLevel

/-- Checks a log filter; nothing between two commas is no directive. -/
def check (text : String) : Except LogFilterError Unit :=
  let (first, others) := Text.pieces ',' text.toList
  ((first :: others).filter fun directive => !directive.isEmpty).forM checkDirective

end LogFilter

end RecordFilter
