import RecordFilter.CommandLine.Arguments
import RecordFilter.CommandLine.LogFilter
import RecordFilter.Json.Reader
import RecordFilter.Json.Tree
import RecordFilter.Json.Writer
import RecordFilter.Predicate
import RecordFilter.Sample
/-!
# Running commands

A command gives the text that it prints, or the text of an error.  Filters are compiled against
the sample people within the limits that the environment gives.  A command whose log filter is
refused does not run.
-/

namespace RecordFilter

namespace CommandLine

/-- What a run of the program leaves behind. -/
structure Outcome where
  /-- The exit code: zero for success, one for an error, two for wrong arguments. -/
  code : Nat
  /-- The text on standard output. -/
  stdout : String := ""
  /-- The text on standard error. -/
  stderr : String := ""
deriving Repr, DecidableEq

/-- The number of this version. -/
def versionNumber : String := "0.7.0"

/-- How to use the program. -/
def usage : String :=
  "Usage: " ++ programName ++ " [--log-level LEVEL] COMMAND\n\nCommands:\n" ++
  "  tokens [--json] EXPRESSION\n  parse EXPRESSION\n  check EXPRESSION\n  eval EXPRESSION\n" ++
  "  criteria MEMBER COMPARISON VALUE\n"

/-- Lines with a line break after each. -/
def unlines (lines : List String) : String := String.join (lines.map (· ++ "\n"))

/-- The text with blanks in front of it up to a width. -/
def padLeft (width : Nat) (s : String) : String :=
  String.ofList (List.replicate (width - s.length) ' ') ++ s

/-- The text with blanks after it up to a width. -/
def padRight (width : Nat) (s : String) : String :=
  s ++ String.ofList (List.replicate (width - s.length) ' ')

/-- A token on a line: its offset, its class, and its text. -/
def tokenLine (t : Token) : String :=
  padLeft 4 (Decimal.natText t.offset) ++ "  " ++ padRight 10 t.kind.text ++ " " ++ t.text

/-- The scalar that a word of the command line denotes: a JSON scalar, or else the word itself. -/
def scalarOfWord (word : String) : Scalar :=
  ((Json.read? word).bind Scalar.ofJson?).getD (.str word)

/-- The filter of an expression on the sample people. -/
def samplePredicate (environment : String → Option String) (expression : String) :
    Except CompileError Predicate :=
  (Limits.ofEnvironment environment).compile Sample.schema Sample.personId expression

/-- The lines about a command's result, or the text of its error. -/
def Command.lines (environment : String → Option String) : Command → Except String (List String)
  | tokens expression json => do
    let ts ← ((tokenize expression).mapError .tokenize).mapError fun e : CompileError =>
      e.render expression
    return if json then [(Json.array (ts.map Token.toJson)).pretty] else ts.map tokenLine
  | parse expression => do
    let tree ← (Expr.ofSource expression).mapError fun e => e.render expression
    return [tree.toJson.pretty]
  | check expression => do
    let _ ← (samplePredicate environment expression).mapError fun e => e.render expression
    return ["ok"]
  | eval expression => do
    let p ← (samplePredicate environment expression).mapError fun e => e.render expression
    let passing := Sample.people.filter fun person => p.test Sample.host (.person person)
    return passing.map fun person => person.name ++ " (" ++ int64Text person.age ++ ")"
  | criteria member comparison value => do
    let c ← (Criteria.forMember Sample.schema Sample.personId member (scalarOfWord value)
      comparison).mapError CriteriaError.message
    return [(c.toJson Sample.schema).pretty]

/-- An error text with its causes below it; several causes are numbered. -/
def withCauses (text : String) (causes : List String) : String :=
  let lines := match causes with
    | [cause] => ["    " ++ cause]
    | _ => causes.mapIdx fun i cause => padLeft 5 (Decimal.natText i) ++ ": " ++ cause
  text ++ "\n\nCaused by:\n" ++ "\n".intercalate lines

/-- The variable that gives the log filter when the arguments give none. -/
def logFilterVariable : String := "FILTEREXPR_LOG_LEVEL"

/-- Checks the log filter that the arguments or else the environment give. -/
def checkLogFilter (environment : String → Option String) (given : Option String) :
    Except String Unit :=
  let text := (given.or (environment logFilterVariable)).getD "warn"
  (LogFilter.check text).mapError fun e =>
    withCauses ("invalid log level filter: " ++ text) e.causes

/-- The outcome of a request. -/
def Request.outcome (environment : String → Option String) : Request → Outcome
  | run logFilter command =>
    match checkLogFilter environment logFilter *> command.lines environment with
    | .ok lines => { code := 0, stdout := unlines lines }
    | .error text => { code := 1, stderr := "Error: " ++ text ++ "\n" }
  | help => { code := 0, stdout := usage }
  | version name => { code := 0, stdout := name ++ " " ++ versionNumber ++ "\n" }
  | misuse => { code := 2, stderr := usage }

/-- The outcome of the program for its arguments and environment. -/
def outcome (args : List String) (environment : String → Option String) : Outcome :=
  (request args).outcome environment

end CommandLine

end RecordFilter
