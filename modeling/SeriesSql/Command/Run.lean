import SeriesSql.Command.Args
import SeriesSql.Config.Settings
import SeriesSql.Schema
import SeriesSql.Translate

/-!
# Running a command

What a command prints and how it ends, from its arguments, the environment and the files that it may
read.
-/

namespace SeriesSql.Command

open Config (Settings)

/-! ## Output -/

structure Outcome where
  code : Nat
  output : String
  /-- Lines for the error stream. -/
  errors : List String
deriving Repr, DecidableEq

/-- Each line with a line feed after it. -/
def lineText (lines : List String) : String :=
  String.join (lines.map fun line => line ++ "\n")

def Outcome.success (lines : List String) : Outcome :=
  ⟨0, lineText lines, []⟩

/-- A failure with its causes. -/
def Outcome.failure (message : String) (causes : List String) : Outcome :=
  ⟨1, "", ("Error: " ++ message) :: causes.map ("  caused by: " ++ ·)⟩

/-- The arguments could not be read. -/
def Outcome.misuse : Outcome :=
  ⟨2, "", ["usage: metricsql [--config PATH] [--verbose] [--quiet] COMMAND"]⟩

/-- Values as comments, numbered from `n` on. -/
def parameterLines (n : Nat) : List Sql.Value → List String
  | [] => []
  | v :: rest =>
    ("-- ?" ++ toString n ++ " = " ++ String.ofList v.literal) :: parameterLines (n + 1) rest

def valueJson : Sql.Value → Json
  | .text s => .text s
  | .integer n => .integer n.toInt
  | .real x => .real x

def statementJson (f : Sql.Fragment) : Json :=
  .object [("text", .text f.text), ("parameters", .list (f.params.map valueJson))]

/-- The statement of a query as it is printed. -/
def statementLines (json inline : Bool) (f : Sql.Fragment) : List String :=
  if json then [(statementJson f).render]
  else if inline then [f.inlined]
  else f.text :: parameterLines 1 f.params

/-! ## Commands -/

def versionText : String := "common 0.1.0 (1.85.0)"

def programVersionText : String := "metricsql 0.1.0"

def defaultConfigPath : String := "metricsql.toml"

def runTranslate (settings : Settings) (query : String) (json inline : Bool) : Outcome :=
  match settings.fault? with
  | some fault => .failure "Invalid configuration" [fault]
  | none =>
    match translate settings.options query with
    | .error e => .failure "Failed to transpile query" [e.message]
    | .ok statement => .success (statementLines json inline statement)

def runAction (settings : Settings) : Action → Outcome
  | .translate query json inline => runTranslate settings query json inline
  | .schema => .success (Schema.statements.map (· ++ ";"))
  | .config json => .success (if json then [settings.json.render] else settings.listing)
  | .validate =>
    match settings.fault? with
    | some fault => .failure fault []
    | none => .success []
  | .version => .success [versionText]

/-- Runs a request.  The settings are loaded before any action; a file that is missing counts as
empty. -/
def runRequest (file : String → Option String) (vars : List (String × String)) :
    Request → Outcome
  | .programVersion => .success [programVersionText]
  | .act config action =>
    match Settings.load (file (config.getD defaultConfigPath)) vars with
    | .error fault => .failure "Failed to load configuration" [fault.message]
    | .ok settings => runAction settings action

def run (args : List String) (file : String → Option String)
    (vars : List (String × String)) : Outcome :=
  match parseArgs? args with
  | none => .misuse
  | some request => runRequest file vars request

end SeriesSql.Command
