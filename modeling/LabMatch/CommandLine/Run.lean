import LabMatch.CommandLine.Arguments
import LabMatch.DeclarationFile.Load
import LabMatch.DeclarationFile.Read
import LabMatch.Report.Json
import LabMatch.Report.Text

/-!
# Running the command

A run reads the settings, writes them back if that is asked for, loads the
declarations, matches every scenario with every setup and prints the report.  The
first failure ends it.

How files are read and written is left to whoever runs the command.
-/

namespace LabMatch.CommandLine

/-- Access to files.  Writing a file makes the folders that are missing. -/
structure FileAccess (m : Type → Type) where
  /-- The content of a file, if it can be read. -/
  read : (path : String) → m (Option String)
  /-- Writes a file and tells whether it succeeded. -/
  write : (path content : String) → m Bool

/-- How a run ends. -/
structure Outcome where
  exitCode : UInt32
  output : String
  /-- What the user is told about a failure. -/
  complaint : String

inductive Failure
  | usage (error : UsageError)
  | unreadable (path : String)
  | unwritable (path : String)
  | malformed (path : String)
  | loading (path : String) (error : LoadError)
  | hierarchy (error : HierarchyError)

namespace Failure

def message : Failure → String
  | .usage error => "error: " ++ error.message
  | .unreadable path => "Error: cannot read " ++ path
  | .unwritable path => "Error: cannot write " ++ path
  | .malformed path => "Error: malformed file " ++ path
  | .loading path error =>
    "Error: failed to load declarations from " ++ path ++ ": " ++ error.message
  | .hierarchy error => "Error: declaration hierarchy is invalid: " ++ error.message

/-- Mistakes in the arguments are told apart from all others. -/
def exitCode : Failure → UInt32
  | .usage _ => 2
  | _ => 1

def outcome (failure : Failure) : Outcome := ⟨failure.exitCode, "", failure.message⟩

end Failure

def versionText : String := "testbed-resolver 0.1.0\n"

/-- The options with what each is for.  The variable that may name the configuration
file is shown with its value. -/
def optionHelp (environment : Option String) : List (String × String) :=
  [("      --config <CONFIG>",
      "Resolver configuration file [env: TESTBED_RESOLVER_CONFIG="
        ++ environment.getD "" ++ "]"),
    ("      --show-discarded",
      "Include discarded variations and their reasons in the report"),
    ("      --format <FORMAT>", "Report format [possible values: text, json]"),
    ("      --log-level <LOG_LEVEL>",
      "Log filter used when `RUST_LOG` is unset (e.g. `debug`)"),
    ("      --write-config <WRITE_CONFIG>", "Write the effective configuration to this path"),
    ("  -h, --help", "Print help"),
    ("  -V, --version", "Print version")]

/-- Two columns as lines, the second column two blanks to the right of the longest
entry of the first. -/
def columns (rows : List (String × String)) : List String :=
  let width := rows.foldl (fun width row => max width row.1.length) 0
  rows.map fun row =>
    row.1 ++ String.ofList (List.replicate (width + 2 - row.1.length) ' ') ++ row.2

def helpText (environment : Option String) : String :=
  String.intercalate "\n" ([
    "Resolves which test scenarios can run on which test setups",
    "",
    "Usage: testbed-resolver [OPTIONS] <DECLARATIONS>",
    "",
    "Arguments:",
    "  <DECLARATIONS>  Declaration file (TOML) with capabilities, scenarios and setups",
    "",
    "Options:"] ++ columns (optionHelp environment) ++ [""])

def reportOf (catalog : Catalog) (runId : String) (settings : Settings) :
    Except HierarchyError String :=
  let outcomes := (do
    let outcomes ← Session.matchAll catalog
    Session.report catalog runId outcomes settings.showDiscarded :
      Resolving HierarchyError Report)
  (outcomes.run Session.fresh).1.map fun report =>
    match settings.format with
    | .text => report.text
    | .json => report.json

section

variable {m : Type → Type} [Monad m] (files : FileAccess m)

def readFile (path : String) : ExceptT Failure m String := do
  match ← files.read path with
  | some content => return content
  | none => throw (.unreadable path)

/-- The settings of a file, or the defaults. -/
def loadSettings : Option String → ExceptT Failure m Settings
  | none => return Settings.defaults
  | some path => do
    match Settings.read? (← readFile files path) with
    | some settings => return settings
    | none => throw (.malformed path)

/-- Writes the settings, if a path is given. -/
def saveSettings (settings : Settings) : Option String → ExceptT Failure m Unit
  | none => return ()
  | some path => do
    if !(← files.write path settings.text) then throw (.unwritable path)

def loadCatalog (path : String) : ExceptT Failure m Catalog := do
  match DeclarationFile.read? (← readFile files path) with
  | none => throw (.malformed path)
  | some file =>
    match file.load with
    | .ok catalog => return catalog
    | .error error => throw (.loading path error)

/-- The report that is asked for. -/
def resolve (runId : String) (invocation : Invocation) : ExceptT Failure m String := do
  let settings := invocation.override (← loadSettings files invocation.config)
  saveSettings files settings invocation.writeConfig
  let catalog ← loadCatalog files invocation.declarations
  match reportOf catalog runId settings with
  | .ok report => return report
  | .error error => throw (.hierarchy error)

/-- Runs the command with the given arguments.  `environment` is the configuration
file that the environment names. -/
def run (environment : Option String) (runId : String) (arguments : List String) :
    m Outcome := do
  match Request.parse environment arguments with
  | .error error => return (Failure.usage error).outcome
  | .ok .help => return ⟨0, helpText environment, ""⟩
  | .ok .version => return ⟨0, versionText, ""⟩
  | .ok (.resolve invocation) =>
    match ← (resolve files runId invocation).run with
    | .ok report => return ⟨0, report ++ "\n", ""⟩
    | .error failure => return failure.outcome

end

end LabMatch.CommandLine
