import LabMatch.Settings

/-!
# Command-line arguments

The arguments name one declaration file and may set options.  An option takes its
value from the next argument or after an equals sign.  A word that begins with a
hyphen is never taken for a value, except the hyphen alone; after `--` every word
is taken for the declaration file.

A value is checked when the next option or file begins, or at the end.  So a
request for help or for the version is granted if all is well up to there, whatever
comes after it.
-/

namespace LabMatch.CommandLine

/-- What a value is given to. -/
inductive Parameter
  | declarations
  | config
  | format
  | logLevel
  | writeConfig
deriving DecidableEq

def Parameter.label : Parameter → String
  | .declarations => "<DECLARATIONS>"
  | .config => "--config <CONFIG>"
  | .format => "--format <FORMAT>"
  | .logLevel => "--log-level <LOG_LEVEL>"
  | .writeConfig => "--write-config <WRITE_CONFIG>"

inductive LongOption
  | parameter (parameter : Parameter)
  | showDiscarded
  | help
  | version
deriving DecidableEq

def LongOption.ofName? (name : String) : Option LongOption :=
  [("config", parameter .config), ("format", parameter .format),
    ("log-level", parameter .logLevel), ("write-config", parameter .writeConfig),
    ("show-discarded", showDiscarded), ("help", help), ("version", version)].lookup name

inductive UsageError
  | unexpected (argument : String)
  | repeated (label : String)
  | missingValue (label : String)
  | unneededValue (name : String)
  | invalidValue (value label : String)
  | missingDeclarations
deriving DecidableEq

def UsageError.message : UsageError → String
  | .unexpected argument => "unexpected argument '" ++ argument ++ "' found"
  | .repeated label => "the argument '" ++ label ++ "' cannot be used multiple times"
  | .missingValue label => "a value is required for '" ++ label ++ "' but none was supplied"
  | .unneededValue name => "unexpected value for '" ++ name ++ "' found; no more were expected"
  | .invalidValue value label => "invalid value '" ++ value ++ "' for '" ++ label ++ "'"
  | .missingDeclarations => "the following required arguments were not provided: <DECLARATIONS>"

/-- What is to be done with a declaration file. -/
structure Invocation where
  declarations : String
  config : Option String
  showDiscarded : Bool
  format : Option ReportFormat
  logLevel : Option String
  writeConfig : Option String
deriving DecidableEq

/-- The settings as the arguments override them. -/
def Invocation.override (invocation : Invocation) (settings : Settings) : Settings :=
  { logLevel := invocation.logLevel.getD settings.logLevel
    showDiscarded := invocation.showDiscarded || settings.showDiscarded
    format := invocation.format.getD settings.format }

/-- What the arguments ask for. -/
inductive Request
  | help
  | version
  | resolve (invocation : Invocation)
deriving DecidableEq

/-! ## What was read so far -/

/-- The values given so far, and the parameter that waits for its value or for the
value to be checked. -/
structure Draft where
  declarations : Option String
  config : Option String
  showDiscarded : Bool
  format : Option ReportFormat
  logLevel : Option String
  writeConfig : Option String
  pending : Option (Parameter × Option String)

namespace Draft

def empty : Draft := ⟨none, none, false, none, none, none, none⟩

/-- Whether the parameter has a value that was checked. -/
def has (draft : Draft) : Parameter → Bool
  | .declarations => draft.declarations.isSome
  | .config => draft.config.isSome
  | .format => draft.format.isSome
  | .logLevel => draft.logLevel.isSome
  | .writeConfig => draft.writeConfig.isSome

/-- Requires that a path is not empty. -/
def path (parameter : Parameter) (value : String) : Except UsageError String :=
  if value.isEmpty then .error (.missingValue parameter.label) else .ok value

def assign (draft : Draft) (parameter : Parameter) (value : String) :
    Except UsageError Draft := do
  if draft.has parameter then throw (.repeated parameter.label)
  match parameter with
  | .declarations => return { draft with declarations := some (← path parameter value) }
  | .config => return { draft with config := some (← path parameter value) }
  | .logLevel => return { draft with logLevel := some value }
  | .writeConfig => return { draft with writeConfig := some (← path parameter value) }
  | .format =>
    match ReportFormat.ofName? value with
    | some format => return { draft with format := some format }
    | none => throw (.invalidValue value parameter.label)

/-- Checks the value that waits for it. -/
def settle (draft : Draft) : Except UsageError Draft :=
  match draft.pending with
  | none => .ok draft
  | some (parameter, none) => .error (.missingValue parameter.label)
  | some (parameter, some value) => { draft with pending := none }.assign parameter value

def takeFile (draft : Draft) (word : String) : Except UsageError Draft := do
  let waiting := draft.pending.any fun pending => pending.1 == .declarations
  if waiting || draft.has .declarations then throw (.unexpected word)
  return { ← draft.settle with pending := some (.declarations, some word) }

/-- Takes a word that is no option: the value of the option before it, or the
declaration file. -/
def takeWord (draft : Draft) (word : String) : Except UsageError Draft :=
  match draft.pending with
  | some (parameter, none) => .ok { draft with pending := some (parameter, some word) }
  | _ => draft.takeFile word

end Draft

/-! ## Reading arguments -/

inductive Argument
  /-- The mark after which there are no more options. -/
  | endOfOptions
  | long (name : String) (value : Option String)
  /-- Options of one letter each, behind one hyphen. -/
  | short (first : Char)
  | word (text : String)
deriving DecidableEq

def Argument.ofText (text : String) : Argument :=
  match text.toList with
  | ['-', '-'] => .endOfOptions
  | '-' :: '-' :: body =>
    match body.span (· != '=') with
    | (name, []) => .long (String.ofList name) none
    | (name, _ :: value) => .long (String.ofList name) (some (String.ofList value))
  | '-' :: first :: _ => .short first
  | _ => .word text

/-- What reading goes on with: more arguments, or the request that was made. -/
inductive Progress
  | reading (draft : Draft)
  | requested (request : Request)

/-- Takes an option with a long name. -/
def Draft.takeLong (draft : Draft) (name : String) (value : Option String) :
    Except UsageError Progress := do
  match LongOption.ofName? name, value with
  | none, _ => throw (.unexpected ("--" ++ name))
  | some (.parameter parameter), some value =>
    return .reading (← (← draft.settle).assign parameter value)
  | some (.parameter parameter), none =>
    return .reading { ← draft.settle with pending := some (parameter, none) }
  | some _, some _ => throw (.unneededValue ("--" ++ name))
  | some .help, none =>
    let _ ← draft.settle
    return .requested .help
  | some .version, none =>
    let _ ← draft.settle
    return .requested .version
  | some .showDiscarded, none =>
    let draft ← draft.settle
    if draft.showDiscarded then throw (.repeated "--show-discarded")
    return .reading { draft with showDiscarded := true }

/-- Takes options of one letter; the first one ends the reading. -/
def Draft.takeShort (draft : Draft) (first : Char) : Except UsageError Progress := do
  if first = 'h' then
    let _ ← draft.settle
    return .requested .help
  else if first = 'V' then
    let _ ← draft.settle
    return .requested .version
  else throw (.unexpected ("-" ++ String.singleton first))

/-- Takes one argument before the end of the options. -/
def Draft.take (draft : Draft) : Argument → Except UsageError Progress
  | .endOfOptions => .ok (.reading draft)
  | .long name value => draft.takeLong name value
  | .short first => draft.takeShort first
  | .word text => do return .reading (← draft.takeWord text)

/-- Completes what was given.  A configuration file that no argument names may be
named by the environment. -/
def Draft.finish (draft : Draft) (environment : Option String) :
    Except UsageError Request := do
  let draft ← draft.settle
  let config ←
    match draft.config, environment with
    | some path, _ => pure (some path)
    | none, some value => some <$> Draft.path .config value
    | none, none => pure none
  match draft.declarations with
  | none => throw .missingDeclarations
  | some declarations =>
    return .resolve {
      declarations, config
      showDiscarded := draft.showDiscarded
      format := draft.format
      logLevel := draft.logLevel
      writeConfig := draft.writeConfig }

def Draft.takeAll (environment : Option String) (draft : Draft) :
    List String → Except UsageError Request
  | [] => draft.finish environment
  | text :: others =>
    match Argument.ofText text with
    | .endOfOptions => do (← others.foldlM Draft.takeFile draft).finish environment
    | argument => do
      match ← draft.take argument with
      | .reading draft => draft.takeAll environment others
      | .requested request => return request

def Request.parse (environment : Option String) (arguments : List String) :
    Except UsageError Request :=
  Draft.empty.takeAll environment arguments

end LabMatch.CommandLine
