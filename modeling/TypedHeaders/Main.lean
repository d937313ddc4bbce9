import TypedHeaders.CommandLine

/-!
# The program

Reads the environment, runs the command that the arguments ask for and prints
what it ends with.
-/

open TypedHeaders

/-- The variables of the process that are read. -/
def readEnvironment : IO Environment := do
  return {
    treatNilableAsOptional := ← IO.getEnv "HDRBIND_TREAT_NILABLE_AS_OPTIONAL"
    convertUnderscores := ← IO.getEnv "HDRBIND_CONVERT_UNDERSCORES"
    logLevel := ← IO.getEnv "HDRBIND_LOG_LEVEL"
    metricsEnabled := ← IO.getEnv "HDRBIND_METRICS_ENABLED" }

/-- Runs the program. -/
def main (args : List String) : IO UInt32 := do
  let usage := "usage: hdrbind (check [-H LINE] [--nilable-optional | --strict-nilable] | describe)"
  match CommandLine.parse args with
  | .error .help =>
    IO.println (usage ++ " module:function")
    return 0
  | .error .usage =>
    IO.eprintln (usage ++ " module:function")
    return 2
  | .ok command =>
    let environment ← readEnvironment
    match command.run (.ofEnvironment environment) environment with
    | .ok outcome =>
      IO.println outcome.output.indented
      return outcome.code.toUInt32
    | .error e =>
      IO.eprintln e.message
      return 1
