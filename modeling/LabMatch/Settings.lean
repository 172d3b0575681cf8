import LabMatch.Toml.Document
import LabMatch.Toml.Quoted
import LabMatch.Toml.Record

/-!
# Settings

What a user may configure: how much is logged, whether the report also names the
rejected placements, and the form of the report.  Settings are kept in a TOML file
in which everything may be missing and keys that are not known are ignored.
-/

namespace LabMatch

inductive ReportFormat
  | text
  | json
deriving DecidableEq, Inhabited

namespace ReportFormat

def name : ReportFormat → String
  | .text => "text"
  | .json => "json"

def ofName? (name : String) : Option ReportFormat :=
  [text, json].find? fun format => format.name == name

end ReportFormat

structure Settings where
  logLevel : String
  showDiscarded : Bool
  format : ReportFormat
deriving DecidableEq

namespace Settings

open Toml (Value Record)

def defaults : Settings := ⟨"info", false, .text⟩

/-! ## Reading -/

/-- A format is a string, or a table whose only key has an empty value. -/
def format? : Value → Option ReportFormat
  | .string name => ReportFormat.ofName? name
  | .table _ [(name, .table _ [])] => ReportFormat.ofName? name
  | .table _ [(name, .array [] _)] => ReportFormat.ofName? name
  | _ => none

def withResolver? (settings : Settings) (value : Value) : Option Settings := do
  let record ← Record.ofValue? ["log_level", "show_discarded"] false value
  return { settings with
    logLevel := ← record.orElse Value.string? "log_level" settings.logLevel
    showDiscarded := ← record.orElse Value.boolean? "show_discarded" settings.showDiscarded }

def withOutput? (settings : Settings) (value : Value) : Option Settings := do
  let record ← Record.ofValue? ["format"] false value
  return { settings with format := ← record.orElse format? "format" settings.format }

/-- The settings of a document, over the defaults. -/
def ofToml? (value : Value) : Option Settings := do
  let record ← Record.ofValue? ["resolver", "output"] false value
  let settings ← record.orElse defaults.withResolver? "resolver" defaults
  record.orElse settings.withOutput? "output" settings

/-- The settings written in `text`, unless it is malformed. -/
def read? (text : String) : Option Settings := do ofToml? (← Toml.parse text)

/-! ## Writing -/

def text (settings : Settings) : String :=
  String.intercalate "\n" [
    "[resolver]",
    "log_level = " ++ Toml.quoted settings.logLevel,
    "show_discarded = " ++ (if settings.showDiscarded then "true" else "false"),
    "",
    "[output]",
    "format = " ++ Toml.quoted settings.format.name,
    ""]

end Settings

end LabMatch
