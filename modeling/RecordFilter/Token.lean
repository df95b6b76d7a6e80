import RecordFilter.Comparison
/-!
# Tokens

A token is a classified piece of the source text with the number of characters before it.  The
last token of a text is the end of input, which has no text.
-/

namespace RecordFilter

/-- The class of a token. -/
inductive TokenKind where
  /-- A name, or names joined by dots. -/
  | identifier
  /-- A text between double quotes. -/
  | string
  /-- Digits with at most one point. -/
  | number
  /-- `true` or `false`. -/
  | boolean
  /-- `null`. -/
  | null
  /-- `&&` -/
  | and
  /-- `||` -/
  | or
  /-- `!` -/
  | not
  /-- A comparison operator. -/
  | comparison (op : Comparison)
  /-- `(` -/
  | lparen
  /-- `)` -/
  | rparen
  /-- `,` -/
  | comma
  /-- The end of input. -/
  | eof
deriving Repr, DecidableEq

/-- A token. -/
structure Token where
  /-- The class. -/
  kind : TokenKind
  /-- The source text, quotes included. -/
  text : String
  /-- The number of characters before the token. -/
  offset : Nat
deriving Repr, DecidableEq

/-- The class of a token as shown to a reader. -/
def TokenKind.text : TokenKind → String
  | identifier => "identifier"
  | string => "string literal"
  | number => "number literal"
  | boolean => "boolean literal"
  | null => "null"
  | and => "'&&'"
  | or => "'||'"
  | not => "'!'"
  | comparison op => "'" ++ op.symbol ++ "'"
  | lparen => "'('"
  | rparen => "')'"
  | comma => "','"
  | eof => "end of input"

/-- A token as shown to a reader. -/
def Token.shown (t : Token) : String :=
  if t.kind = .eof then "end of input" else "'" ++ t.text ++ "'"

/-- A character at which no token can start. -/
structure TokenizeError where
  /-- The character. -/
  character : Char
  /-- The number of characters before it. -/
  offset : Nat
deriving Repr, DecidableEq

/-- The message of the error. -/
def TokenizeError.message (e : TokenizeError) : String :=
  "unexpected character '" ++ String.singleton e.character ++ "' at offset " ++
    Decimal.natText e.offset

end RecordFilter
