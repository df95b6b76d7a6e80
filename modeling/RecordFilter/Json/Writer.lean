import RecordFilter.Json
import RecordFilter.Text.Quoted
/-!
# JSON as text

JSON is written without blanks (`compact`), or with each item and field on a line of its own,
indented by two spaces for each level (`pretty`).
-/

namespace RecordFilter

namespace Json

/-- Four hexadecimal digits. -/
def hex4 (n : Nat) : List Char :=
  let digits := Text.hexDigits n
  List.replicate (4 - digits.length) '0' ++ digits

/-- A character as written in a string. -/
def writeChar : JsonChar → List Char
  | .unit n => ['\\', 'u'] ++ hex4 n
  | .plain c =>
    if c = '"' then ['\\', '"']
    else if c = '\\' then ['\\', '\\']
    else if c = '\x08' then ['\\', 'b']
    else if c = '\x0c' then ['\\', 'f']
    else if c = '\n' then ['\\', 'n']
    else if c = '\r' then ['\\', 'r']
    else if c = '\t' then ['\\', 't']
    else if c.toNat < 0x20 then ['\\', 'u'] ++ hex4 c.toNat
    else [c]

/-- A string with its quotes. -/
def writeString (cs : List JsonChar) : String :=
  String.ofList ('"' :: cs.flatMap writeChar ++ ['"'])

/-- The line break before something at a level of indentation. -/
def newline (level : Nat) : String := "\n" ++ String.ofList (List.replicate (2 * level) ' ')

mutual

/-- JSON without blanks. -/
def compact : Json → String
  | null => "null"
  | bool b => if b then "true" else "false"
  | number digits => String.ofList digits
  | string cs => writeString cs
  | array items => "[" ++ compactItems items ++ "]"
  | object fields => "\x7b" ++ compactFields fields ++ "\x7d"

/-- Items with commas between them. -/
def compactItems : List Json → String
  | [] => ""
  | [item] => item.compact
  | item :: items => item.compact ++ "," ++ compactItems items

/-- Fields with commas between them. -/
def compactFields : List (List JsonChar × Json) → String
  | [] => ""
  | [(name, value)] => writeString name ++ ":" ++ value.compact
  | (name, value) :: fields =>
    writeString name ++ ":" ++ value.compact ++ "," ++ compactFields fields

end

mutual

/-- JSON at a level of indentation. -/
def prettyAt (level : Nat) : Json → String
  | null => "null"
  | bool b => if b then "true" else "false"
  | number digits => String.ofList digits
  | string cs => writeString cs
  | array [] => "[]"
  | array items => "[" ++ prettyItems (level + 1) items ++ newline level ++ "]"
  | object [] => "\x7b\x7d"
  | object fields => "\x7b" ++ prettyFields (level + 1) fields ++ newline level ++ "\x7d"

/-- Items, each on a line of its own. -/
def prettyItems (level : Nat) : List Json → String
  | [] => ""
  | [item] => newline level ++ item.prettyAt level
  | item :: items => newline level ++ item.prettyAt level ++ "," ++ prettyItems level items

/-- Fields, each on a line of its own. -/
def prettyFields (level : Nat) : List (List JsonChar × Json) → String
  | [] => ""
  | [(name, value)] => newline level ++ writeString name ++ ": " ++ value.prettyAt level
  | (name, value) :: fields =>
    newline level ++ writeString name ++ ": " ++ value.prettyAt level ++ "," ++
      prettyFields level fields

end

/-- JSON with indentation. -/
def pretty (j : Json) : String := j.prettyAt 0

end Json

end RecordFilter
