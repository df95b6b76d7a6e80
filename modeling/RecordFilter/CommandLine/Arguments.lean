import RecordFilter.Criteria
/-!
# Command-line arguments

The first argument that is no option names the command.  The option `--log-level` takes a value
and may stand before and after the command; `--` ends the options.  A word that starts with `-`
and is no option is refused, unless it is `-` itself or follows `--`.  Of a level before the command
and one after it, the one after it counts.
-/

namespace RecordFilter

namespace CommandLine

/-- What the user asks for. -/
inductive Command where
  /-- Show the tokens of an expression, as JSON or as lines. -/
  | tokens (expression : String) (json : Bool)
  /-- Show the tree of an expression. -/
  | parse (expression : String)
  /-- Check an expression against the sample people. -/
  | check (expression : String)
  /-- Show the sample people that pass a filter. -/
  | eval (expression : String)
  /-- Show the criteria on a member of the sample people. -/
  | criteria (member : String) (comparison : CriteriaComparison) (value : String)
deriving Repr, DecidableEq

/-- The meaning of the arguments. -/
inductive Request where
  /-- Run a command, with the log filter that was given. -/
  | run (logFilter : Option String) (command : Command)
  /-- Show how to use the program. -/
  | help
  /-- Show the version under a name. -/
  | version (name : String)
  /-- The arguments have no meaning. -/
  | misuse
deriving Repr, DecidableEq

/-- The name of the program. -/
def programName : String := "filterexpr"

/-- The relations as written on the command line. -/
def comparisonWords : List (String × CriteriaComparison) :=
  [("eq", .equal), ("ne", .notEqual), ("gt", .greaterThan), ("ge", .greaterThanOrEqual),
   ("lt", .lessThan), ("le", .lessThanOrEqual), ("contains", .contains),
   ("starts-with", .startsWith), ("ends-with", .endsWith)]

/-- The commands and the number of their operands. -/
def commandNames : List (String × Nat) :=
  [("tokens", 1), ("parse", 1), ("check", 1), ("eval", 1), ("criteria", 3)]

/-- The argument is an option, or ends the options. -/
def isOption (arg : String) : Bool := arg.toList.head? == some '-' && arg != "-"

/-- The value that is attached to the option `--log-level`. -/
def attachedLevel? (arg : String) : Option String :=
  ("--log-level=".toList.isPrefixOf? arg.toList).map String.ofList

/-- The command of a name with its operands. -/
def commandOf? (name : String) (json : Bool) : List String → Option Command
  | [expression] =>
    match name with
    | "tokens" => some (.tokens expression json)
    | "parse" => some (.parse expression)
    | "check" => some (.check expression)
    | "eval" => some (.eval expression)
    | _ => none
  | [member, comparison, value] =>
    if name = "criteria" then
      (comparisonWords.lookup comparison).map fun c => .criteria member c value
    else
      none
  | _ => none

/-- The options seen so far, and the operands, the latest first. -/
structure Seen where
  /-- The option `--json` was given. -/
  json : Bool := false
  /-- The value of the option `--log-level` after the command. -/
  level : Option String := none
  /-- The value of the option `--log-level` before the command. -/
  outerLevel : Option String := none
  /-- The operands. -/
  operands : List String := []

/-- The request of a command when all its arguments are seen. -/
def Seen.request (s : Seen) (name : String) : Request :=
  match commandOf? name s.json s.operands.reverse with
  | some command => .run (s.level.or s.outerLevel) command
  | none => .misuse

/-- The operands fit the command so far. -/
def Seen.fits (s : Seen) (name : String) : Bool :=
  s.operands.length ≤ (commandNames.lookup name).getD 0 &&
    (s.operands.length < 2 || name != "criteria" ||
      (s.operands.reverse[1]?.bind fun word => comparisonWords.lookup word).isSome)

/-- The operands of a command, all that follow `--` included. -/
def Seen.withOperands (s : Seen) (args : List String) : Seen :=
  { s with operands := args.reverse ++ s.operands }

/-- Reads the arguments after the name of a command. -/
def readOperands (name : String) (s : Seen) : List String → Request
  | [] => s.request name
  | arg :: rest =>
    if !s.fits name then .misuse
    else if arg = "--" then (s.withOperands rest).request name
    else if !isOption arg then readOperands name (s.withOperands [arg]) rest
    else if arg = "--json" then
      if s.json || name != "tokens" then .misuse else readOperands name { s with json := true } rest
    else if arg = "--log-level" then
      match rest with
      | value :: rest =>
        if s.level.isSome || isOption value then .misuse
        else readOperands name { s with level := some value } rest
      | [] => .misuse
    else if arg = "--help" || "-h".toList.isPrefixOf arg.toList then .help
    else if arg = "--version" || "-V".toList.isPrefixOf arg.toList then
      .version (programName ++ "-" ++ name)
    else
      match attachedLevel? arg with
      | some value =>
        if s.level.isSome then .misuse else readOperands name { s with level := some value } rest
      | none => .misuse

/-- Reads the arguments before the name of a command. -/
def readArguments (level : Option String) : List String → Request
  | [] => .misuse
  | arg :: rest =>
    if arg = "help" then
      match rest with
      | [] => .help
      | [name] => if (commandNames.lookup name).isSome || name = "help" then .help else .misuse
      | _ => .misuse
    else if !isOption arg then
      if (commandNames.lookup arg).isSome then readOperands arg { outerLevel := level } rest
      else .misuse
    else if arg = "--log-level" then
      match rest with
      | value :: rest =>
        if level.isSome || isOption value then .misuse else readArguments (some value) rest
      | [] => .misuse
    else if arg = "--help" || "-h".toList.isPrefixOf arg.toList then .help
    else if arg = "--version" || "-V".toList.isPrefixOf arg.toList then .version programName
    else
      match attachedLevel? arg with
      | some value => if level.isSome then .misuse else readArguments (some value) rest
      | none => .misuse

/-- The request that the arguments of the program make. -/
def request (args : List String) : Request := readArguments none args

end CommandLine

end RecordFilter
