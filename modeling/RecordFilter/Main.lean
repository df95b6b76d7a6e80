import RecordFilter.CommandLine.Run
/-!
# The program

Reads the arguments and the environment, and writes what the command line answers.
-/

/-- Runs the command line. -/
def main (args : List String) : IO UInt32 := do
  let names := [RecordFilter.Limits.lengthVariable, RecordFilter.Limits.nestingVariable,
    RecordFilter.CommandLine.logFilterVariable]
  let values ← names.mapM fun name => do return (name, ← IO.getEnv name)
  let result := RecordFilter.CommandLine.outcome args fun name => (values.lookup name).join
  IO.print result.stdout
  IO.eprint result.stderr
  return result.code.toUInt32
