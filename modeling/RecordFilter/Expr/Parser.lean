import RecordFilter.Expr
import RecordFilter.Token.Lexeme
import RecordFilter.Text.Pieces
/-!
# From tokens to expressions

`||` binds weaker than `&&`, which binds weaker than the prefix `!`, which binds weaker than a
single comparison; the two connectives associate to the left.  A path directly followed by `(` is
a call, whose last name is the method.

The parser reads one token at a time.  Its state holds, for every open parenthesis, what waits
there for a right operand (`Pending`), so that a token is accepted or refused by looking at the
state and the token alone.
-/

namespace RecordFilter

/-! ### Errors -/

/-- What is wrong with a token. -/
inductive ParseFault where
  /-- Something else was expected. -/
  | unexpectedToken (expected : String)
  /-- The parenthesis has no partner. -/
  | unmatchedParenthesis
  /-- The expression is complete before the token. -/
  | trailingTokens
  /-- There is no expression. -/
  | emptyInput
  /-- A name in a path is empty or starts with a wrong character, or a call has no target. -/
  | invalidMemberPath
deriving Repr, DecidableEq

/-- A token that the grammar does not allow at its place. -/
structure ParseError where
  /-- What is wrong. -/
  fault : ParseFault
  /-- The text of the token, empty at the end of input. -/
  token : String
  /-- The offset of the token. -/
  offset : Nat
deriving Repr, DecidableEq

namespace ParseError

/-- The error of a token. -/
def ofToken (t : Token) (fault : ParseFault) : ParseError := ⟨fault, t.text, t.offset⟩

/-- The token as shown to a reader. -/
def found (e : ParseError) : String :=
  if e.token = "" then "end of input" else "'" ++ e.token ++ "'"

/-- The message of the error. -/
def message (e : ParseError) : String :=
  let place := " at offset " ++ Decimal.natText e.offset
  match e.fault with
  | .unexpectedToken expected => "unexpected " ++ e.found ++ place ++ ": expected " ++ expected
  | .unmatchedParenthesis => "unmatched parenthesis" ++ place
  | .trailingTokens => "unexpected " ++ e.found ++ place ++ ": expected end of expression"
  | .emptyInput => "expression is empty"
  | .invalidMemberPath => "invalid member path " ++ e.found ++ place

/-- The error of a token that stands where an operand is expected. -/
def operandExpected (t : Token) : ParseError :=
  ofToken t (.unexpectedToken "member, literal, or '('")

end ParseError

/-! ### The texts of tokens -/

/-- The names of a dotted path, each of which must start like a name. -/
def splitPath? (text : String) : Option (List String) :=
  let (first, others) := Text.pieces '.' text.toList
  if (first :: others).all fun name => name.head?.any Lexeme.startsName then
    some ((first :: others).map String.ofList)
  else
    none

/-- The text between the quotes at both ends. -/
def unquote? (text : String) : Option String :=
  match text.toList with
  | '"' :: cs => if cs.getLast? = some '"' then some (String.ofList cs.dropLast) else none
  | _ => none

/-! ### The state of the parser -/

/-- What waits for a right operand inside one pair of parentheses, the weakest binding first. -/
structure Pending where
  /-- The left operand of `||`, and the offset of the operator. -/
  disjunction : Option (Expr × Nat) := none
  /-- The left operand of `&&`, and the offset of the operator. -/
  conjunction : Option (Expr × Nat) := none
  /-- The offsets of the prefixes `!`, the innermost first. -/
  negations : List Nat := []
  /-- The left operand of a comparison, its operator, and the offset of the operator. -/
  comparison : Option (Expr × Comparison × Nat) := none

namespace Pending

/-- Nothing waits. -/
def empty : Pending := {}

/-- Nothing waits. -/
def isEmpty (p : Pending) : Bool :=
  p.disjunction.isNone && p.conjunction.isNone && p.negations.isEmpty && p.comparison.isNone

/-- The operand, as the right side of the waiting comparison. -/
def compared (p : Pending) (e : Expr) : Expr :=
  match p.comparison with
  | some (left, op, offset) => .compare op left e offset
  | none => e

/-- The operand below the waiting comparison and prefixes. -/
def negated (p : Pending) (e : Expr) : Expr := p.negations.foldl .not (p.compared e)

/-- The operand below all that waits but `||`. -/
def conjoined (p : Pending) (e : Expr) : Expr :=
  match p.conjunction with
  | some (left, offset) => .logical .and left (p.negated e) offset
  | none => p.negated e

/-- The operand below all that waits. -/
def complete (p : Pending) (e : Expr) : Expr :=
  match p.disjunction with
  | some (left, offset) => .logical .or left (p.conjoined e) offset
  | none => p.conjoined e

end Pending

/-- A method name and the path it is called on. -/
structure CallHead where
  /-- The names before the method. -/
  target : List String
  /-- The offset of the first name. -/
  targetOffset : Nat
  /-- The name of the method. -/
  method : String
  /-- The offset of the method. -/
  methodOffset : Nat

/-- The call whose path has the names, if there is a name before the last one. -/
def CallHead.ofPath? (path : Token) (names : List String) : Option CallHead :=
  match names.dropLast, names.getLast? with
  | name :: more, some method =>
    let target := name :: more
    some ⟨target, path.offset, method,
      path.offset + target.foldl (fun size name => size + name.length + 1) 0⟩
  | _, _ => none

/-- The call with its arguments. -/
def CallHead.toExpr (head : CallHead) (args : List Expr) : Expr :=
  .call (.path head.target head.targetOffset) head.method args head.methodOffset

/-- An open parenthesis. -/
inductive Opening where
  /-- The parenthesis groups an expression. -/
  | group (paren : Token)
  /-- The parenthesis holds the arguments of a call, of which some are complete. -/
  | call (head : CallHead) (args : List Expr) (paren : Token)

/-- The token of an open parenthesis. -/
def Opening.paren : Opening → Token
  | group paren | call _ _ paren => paren

/-- What has been read of the next operand. -/
inductive Operand where
  /-- Nothing. -/
  | missing
  /-- A path, which is a call if `(` follows. -/
  | path (token : Token) (names : List String)
  /-- All of it. -/
  | complete (e : Expr)

/-- What the parser knows between two tokens. -/
structure ParserState where
  /-- What waits inside the innermost open parenthesis. -/
  pending : Pending := {}
  /-- The open parentheses, the innermost first, and what waits around each of them. -/
  enclosing : List (Opening × Pending) := []
  /-- The operand being read. -/
  operand : Operand := .missing

namespace ParserState

/-- The state with a complete operand. -/
def withOperand (s : ParserState) (e : Expr) : ParserState := { s with operand := .complete e }

/-- Nothing stands between an open call parenthesis and the current token. -/
def emptyCall? (s : ParserState) : Option ParserState :=
  match s.enclosing with
  | (.call head [] _, outer) :: more =>
    if s.pending.isEmpty then some ⟨outer, more, .complete (head.toExpr [])⟩ else none
  | _ => none

/-- Reads a token where an operand is expected. -/
def readOperand (s : ParserState) (t : Token) : Except ParseError ParserState :=
  match t.kind with
  | .not =>
    if s.pending.comparison.isNone then
      .ok { s with pending := { s.pending with negations := t.offset :: s.pending.negations } }
    else
      .error (.operandExpected t)
  | .lparen => .ok ⟨.empty, (.group t, s.pending) :: s.enclosing, .missing⟩
  | .identifier =>
    match splitPath? t.text with
    | some names => .ok { s with operand := .path t names }
    | none => .error (.ofToken t .invalidMemberPath)
  | .string =>
    match unquote? t.text with
    | some text => .ok (s.withOperand (.literal (.string text) t.offset))
    | none => .error (.ofToken t (.unexpectedToken "quoted string literal"))
  | .number => .ok (s.withOperand (.literal (.number t.text) t.offset))
  | .boolean => .ok (s.withOperand (.literal (.bool (t.text == "true")) t.offset))
  | .null => .ok (s.withOperand (.literal .null t.offset))
  | .rparen =>
    -- a call may have no arguments; any other parenthesis must hold an expression
    match s.emptyCall? with
    | some closed => .ok closed
    | none =>
      if s.enclosing.isEmpty then .error (.ofToken t .unmatchedParenthesis)
      else .error (.operandExpected t)
  | .and | .or | .comparison _ | .comma | .eof => .error (.operandExpected t)

/-- Refuses a token after a complete operand. -/
def refuse (s : ParserState) (t : Token) : Except ParseError ParserState :=
  if s.enclosing.isEmpty then .error (.ofToken t .trailingTokens)
  else .error (.ofToken t (.unexpectedToken "')'"))

/-- Reads a token after the complete operand `e`. -/
def readOperator (s : ParserState) (e : Expr) (t : Token) : Except ParseError ParserState :=
  let p := s.pending
  match t.kind with
  | .comparison op =>
    -- comparisons do not chain
    if p.comparison.isNone then
      .ok ⟨{ p with comparison := some (e, op, t.offset) }, s.enclosing, .missing⟩
    else
      s.refuse t
  | .and =>
    .ok ⟨⟨p.disjunction, some (p.conjoined e, t.offset), [], none⟩, s.enclosing, .missing⟩
  | .or => .ok ⟨⟨some (p.complete e, t.offset), none, [], none⟩, s.enclosing, .missing⟩
  | .rparen =>
    match s.enclosing with
    | [] => .error (.ofToken t .unmatchedParenthesis)
    | (.group _, outer) :: more => .ok ⟨outer, more, .complete (p.complete e)⟩
    | (.call head args _, outer) :: more =>
      .ok ⟨outer, more, .complete (head.toExpr (args ++ [p.complete e]))⟩
  | .comma =>
    match s.enclosing with
    | (.call head args paren, outer) :: more =>
      .ok ⟨.empty, (.call head (args ++ [p.complete e]) paren, outer) :: more, .missing⟩
    | _ => s.refuse t
  | _ => s.refuse t

/-- Reads a token. -/
def step (s : ParserState) (t : Token) : Except ParseError ParserState :=
  match s.operand with
  | .missing => s.readOperand t
  | .path token names =>
    -- only now is it known whether the path is a call
    if t.kind = .lparen then
      match CallHead.ofPath? token names with
      | some head => .ok ⟨.empty, (.call head [] t, s.pending) :: s.enclosing, .missing⟩
      | none => .error (.ofToken token .invalidMemberPath)
    else
      s.readOperator (.path names token.offset) t
  | .complete e => s.readOperator e t

/-- The expression read when the input ends at the token. -/
def finish (s : ParserState) (last : Token) : Except ParseError Expr :=
  let closed (e : Expr) : Except ParseError Expr :=
    match s.enclosing with
    | [] => .ok (s.pending.complete e)
    | (opening, _) :: _ => .error (.ofToken opening.paren .unmatchedParenthesis)
  match s.operand with
  | .missing => .error (.operandExpected last)
  | .path token names => closed (.path names token.offset)
  | .complete e => closed e

end ParserState

/-! ### Parsing -/

/-- The tokens before the first end of input. -/
def beforeEnd (tokens : List Token) : List Token := tokens.takeWhile fun t => t.kind != .eof

/-- The first end of input; if there is none, one right after the last token. -/
def inputEnd (tokens : List Token) : Token :=
  (tokens.find? fun t => t.kind == .eof).getD
    ⟨.eof, "", (tokens.getLast?.map fun t => t.offset + t.text.length).getD 0⟩

/-- The expression that the tokens before the first end of input form. -/
def parse (tokens : List Token) : Except ParseError Expr :=
  match beforeEnd tokens with
  | [] => .error (.ofToken (inputEnd tokens) .emptyInput)
  | t :: ts => do
    let s ← (t :: ts).foldlM ParserState.step {}
    s.finish (inputEnd tokens)

end RecordFilter
