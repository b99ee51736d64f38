/-!
# Command line arguments

Options stand before or after the command; a flag or option can be given once before the command and
once after it, where the latter counts.  Arguments that make no sense are refused as a whole.
-/

namespace SeriesSql.Command

/-! ## Requests -/

inductive Action where
  | translate (query : String) (json inline : Bool)
  | schema
  | config (json : Bool)
  | validate
  | version
deriving Repr, DecidableEq

inductive Request where
  /-- The version of the program itself. -/
  | programVersion
  /-- An action with the path of a configuration file, if one is given. -/
  | act (config : Option String) (action : Action)
deriving Repr, DecidableEq

/-! ## Levels -/

inductive Flag where
  | verbose
  | quiet
  | programVersion
  | json
  | inline
deriving Repr, DecidableEq

def Flag.ofLong? : String → Option Flag
  | "verbose" => some verbose
  | "quiet" => some quiet
  | "version" => some programVersion
  | "json" => some json
  | "inline" => some inline
  | _ => none

def Flag.ofShort? : Char → Option Flag
  | 'v' => some verbose
  | 'q' => some quiet
  | 'V' => some programVersion
  | _ => none

inductive CommandName where
  | translate
  | schema
  | config
  | validate
  | version
deriving Repr, DecidableEq

def CommandName.ofString? : String → Option CommandName
  | "translate" => some translate
  | "schema" => some schema
  | "config" => some config
  | "validate" => some validate
  | "version" => some version
  | _ => none

/-- Whether a flag may stand after a command, or before it if there is none yet. -/
def allows : Option CommandName → Flag → Bool
  | _, .verbose | _, .quiet => true
  | none, .programVersion => true
  | some .translate, .json | some .translate, .inline | some .config, .json => true
  | _, _ => false

/-- What has been read before or after the command. -/
structure Level where
  flags : List Flag
  config : Option String
  query : Option String
deriving Repr, DecidableEq

namespace Level

def start : Level := ⟨[], none, none⟩

def addFlag? (command : Option CommandName) (l : Level) (flag : Flag) : Option Level :=
  if allows command flag ∧ flag ∉ l.flags then some { l with flags := flag :: l.flags } else none

/-- An empty path is none. -/
def setConfig? (l : Level) (path : String) : Option Level :=
  if path.isEmpty ∨ l.config.isSome then none else some { l with config := some path }

/-- Only `translate` takes an argument, and only one. -/
def setQuery? (command : Option CommandName) (l : Level) (query : String) : Option Level :=
  if command = some .translate ∧ l.query.isNone then some { l with query := some query } else none

/-- The flags of a cluster such as `-vq`. -/
def addShort? (command : Option CommandName) (l : Level) : List Char → Option Level
  | [] => some l
  | c :: cs => do
    let l ← l.addFlag? command (← Flag.ofShort? c)
    -- The version is shown as soon as its flag is read.
    if Flag.programVersion ∈ l.flags then some l else l.addShort? command cs

end Level

/-! ## Arguments -/

inductive Argument where
  /-- `--`, after which everything is an argument. -/
  | divider
  | long (name : String) (value : Option String)
  | short (letters : List Char)
  | plain (text : String)

def Argument.ofString (arg : String) : Argument :=
  match arg.toList with
  | ['-', '-'] => divider
  | '-' :: '-' :: cs =>
    let name := String.ofList (cs.takeWhile (· != '='))
    match cs.dropWhile (· != '=') with
    | _ :: value => long name (some (String.ofList value))
    | [] => long name none
  | '-' :: c :: cs => short (c :: cs)
  | _ => plain arg

/-- How reading one side of the command ends. -/
inductive Stop where
  | finished (l : Level)
  | command (l : Level) (name : CommandName) (rest : List String)
  | programVersion

/-- Reads what stands before the command, or after it if there is one already. -/
def readLevel (command : Option CommandName) (l : Level) : List String → Option Stop
  | [] => some (.finished l)
  | arg :: rest =>
    match Argument.ofString arg with
    | .divider => do
      return .finished (← rest.foldlM (fun l query => l.setQuery? command query) l)
    | .long "config" (some path) => do readLevel command (← l.setConfig? path) rest
    | .long "config" none =>
      match rest with
      | [] => none
      | path :: rest =>
        match Argument.ofString path with
        | .plain path => do readLevel command (← l.setConfig? path) rest
        | _ => none
    | .long _ (some _) => none
    | .long name none => do
      let l ← l.addFlag? command (← Flag.ofLong? name)
      if .programVersion ∈ l.flags then some .programVersion else readLevel command l rest
    | .short letters => do
      let l ← l.addShort? command letters
      if .programVersion ∈ l.flags then some .programVersion else readLevel command l rest
    | .plain text =>
      match command with
      | none => do some (.command l (← CommandName.ofString? text) rest)
      | some _ => do readLevel command (← l.setQuery? command text) rest

def action? (name : CommandName) (l : Level) : Option Action :=
  let json := decide (.json ∈ l.flags)
  match name with
  | .translate => l.query.map fun query => .translate query json (decide (.inline ∈ l.flags))
  | .schema => some .schema
  | .config => some (.config json)
  | .validate => some .validate
  | .version => some .version

/-- The request that the arguments of the program stand for. -/
def parseArgs? (args : List String) : Option Request := do
  match ← readLevel none .start args with
  | .programVersion => some .programVersion
  | .finished _ => none
  | .command before name rest =>
    match ← readLevel (some name) .start rest with
    | .finished after => some (.act (after.config.or before.config) (← action? name after))
    | _ => none

end SeriesSql.Command
