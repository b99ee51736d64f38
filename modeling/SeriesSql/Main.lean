import SeriesSql.Command.Run

/-!
# The program

Reads the configuration file and the environment and prints what the command yields.
-/

open SeriesSql

/-- The path of the configuration file that a request reads. -/
def configPath : Command.Request → String
  | .programVersion => Command.defaultConfigPath
  | .act config _ => config.getD Command.defaultConfigPath

/-- The variables that are read.  The environment can be asked only for names, so what
`Config.Environment.path?` allows beyond these is not seen: small letters, blanks or points in a
name, and paths that lead past the settings. -/
def settingVariables : List String :=
  ["METRICSQL__TRANSPILER", "METRICSQL__TRANSPILER__CANONICAL_GROUPING",
    "METRICSQL__TRANSPILER__LEGACY_LABEL_OPS", "METRICSQL__TRANSPILER__ANCHOR_REGEX_MATCHERS",
    "METRICSQL__TRANSPILER__MAX_QUERY_BYTES"]

/-- The content of a file, if it can be read. -/
def readFile? (path : String) : IO (Option String) := do
  try
    return some (← IO.FS.readFile path)
  catch _ =>
    return none

/-- The variables of the environment that are set. -/
def readVariables : List String → IO (List (String × String))
  | [] => return []
  | name :: rest => do
    let others ← readVariables rest
    match ← IO.getEnv name with
    | some value => return (name, value) :: others
    | none => return others

def main (args : List String) : IO UInt32 := do
  let outcome ←
    match Command.parseArgs? args with
    | none => pure Command.Outcome.misuse
    | some request => do
      let content ← readFile? (configPath request)
      let vars ← readVariables settingVariables
      pure (Command.runRequest (fun _ => content) vars request)
  IO.print outcome.output
  for line in outcome.errors do
    IO.eprintln line
  return UInt32.ofNat outcome.code
