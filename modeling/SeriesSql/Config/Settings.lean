import SeriesSql.Config.Environment
import SeriesSql.Config.Toml.Document
import SeriesSql.Json
import SeriesSql.Options

/-!
# Settings

Settings come from three layers: the defaults, the configuration file and the environment.  The
layers are merged before the types of the settings are checked, so a wrong value that is replaced
does no harm.  Keys that are not known are ignored.
-/

namespace SeriesSql.Config

structure Settings where
  canonicalGrouping : Bool
  legacyLabelOps : Bool
  anchorRegexMatchers : Bool
  maxQueryBytes : Nat
deriving Repr, DecidableEq

inductive Fault where
  | malformedFile
  | missing (key : String)
  | wrongType (key : String)
deriving Repr, DecidableEq

def Fault.message : Fault → String
  | malformedFile => "the configuration file is malformed"
  | missing key => "the setting " ++ key ++ " is missing"
  | wrongType key => "the setting " ++ key ++ " has the wrong type"

namespace Settings

def defaults : Settings :=
  { canonicalGrouping := true
    legacyLabelOps := false
    anchorRegexMatchers := false
    maxQueryBytes := 65536 }

def toValue (s : Settings) : Value :=
  .table [("transpiler", .table
    [("canonical_grouping", .bool s.canonicalGrouping),
     ("legacy_label_ops", .bool s.legacyLabelOps),
     ("anchor_regex_matchers", .bool s.anchorRegexMatchers),
     ("max_query_bytes", .integer s.maxQueryBytes)])]

/-! ## Checking types -/

def boolSetting (key : String) : Option Value → Except Fault Bool
  | some (.bool b) => .ok b
  | some _ => .error (.wrongType key)
  | none => .error (.missing key)

/-- A size is an integer of 64 bits that is not negative. -/
def sizeSetting (key : String) : Option Value → Except Fault Nat
  | some (.integer n) =>
    if 0 ≤ n ∧ n < 18446744073709551616 then .ok n.toNat else .error (.wrongType key)
  | some _ => .error (.wrongType key)
  | none => .error (.missing key)

/-- The settings from a function that looks up a key by its name and its place. -/
def ofLookup (find? : String → Nat → Option Value) : Except Fault Settings := do
  return {
    canonicalGrouping := ← boolSetting "canonical_grouping" (find? "canonical_grouping" 0)
    legacyLabelOps := ← boolSetting "legacy_label_ops" (find? "legacy_label_ops" 1)
    anchorRegexMatchers := ← boolSetting "anchor_regex_matchers" (find? "anchor_regex_matchers" 2)
    maxQueryBytes := ← sizeSetting "max_query_bytes" (find? "max_query_bytes" 3) }

/-- The settings stand in a table, or in a list in their order. -/
def ofSection : Value → Except Fault Settings
  | .table entries => ofLookup fun key _ => Value.find? entries key
  | .list items => ofLookup fun _ place => items[place]?
  | _ => .error (.wrongType "transpiler")

def ofValue : Value → Except Fault Settings
  | .table entries =>
    match Value.find? entries "transpiler" with
    | some settings => ofSection settings
    | none => .error (.missing "transpiler")
  | _ => .error (.wrongType "transpiler")

/-- The settings from the text of the configuration file, if there is one, and the variables of the
environment. -/
def load (file : Option String) (vars : List (String × String)) : Except Fault Settings :=
  match Toml.parse? (file.getD "") with
  | none => .error .malformedFile
  | some fileValue =>
    ofValue ((defaults.toValue.merge fileValue).merge (Environment.toValue vars))

/-! ## Use -/

/-- What is wrong with settings that have the right types. -/
def fault? (s : Settings) : Option String :=
  if s.maxQueryBytes = 0 then some "transpiler.max_query_bytes must be greater than zero" else none

def options (s : Settings) : Options :=
  { canonicalGrouping := s.canonicalGrouping
    labelMode := if s.legacyLabelOps then .legacy else .edit
    patternMode := if s.anchorRegexMatchers then .fullMatch else .search
    maxQueryBytes := s.maxQueryBytes }

def json (s : Settings) : Json :=
  .object [("transpiler", .object
    [("canonical_grouping", .bool s.canonicalGrouping),
     ("legacy_label_ops", .bool s.legacyLabelOps),
     ("anchor_regex_matchers", .bool s.anchorRegexMatchers),
     ("max_query_bytes", .integer s.maxQueryBytes)])]

def boolText (b : Bool) : String :=
  if b then "true" else "false"

/-- The settings as a listing. -/
def listing (s : Settings) : List String :=
  ["MetricsQL Configuration:",
    "========================",
    "Canonical grouping: " ++ boolText s.canonicalGrouping,
    "Legacy label ops: " ++ boolText s.legacyLabelOps,
    "Anchored regex matchers: " ++ boolText s.anchorRegexMatchers,
    "Max query bytes: " ++ toString s.maxQueryBytes]

end Settings

end SeriesSql.Config
