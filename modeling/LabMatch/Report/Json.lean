import LabMatch.Report.Basic

/-!
# Reports as JSON

`Document` is the part of JSON that reports need: texts, lists and records with
their fields in a fixed order.  Documents are printed with one item per line,
indented by two blanks per level; an empty list or record takes no line of its
own.  Only the quote, the backslash and control characters are escaped.
-/

namespace LabMatch

/-- A JSON document of texts, lists and records. -/
inductive Document
  | text (value : String)
  | list (items : List Document)
  | record (fields : List (String × Document))

namespace Document

/-- The hexadecimal digit of a number below sixteen, in lower case. -/
def hexDigit (value : Nat) : Char :=
  if value < 10 then Char.ofNat (48 + value) else Char.ofNat (87 + value)

def escape (character : Char) : String :=
  match character.toNat with
  | 0x22 => "\\\""
  | 0x5C => "\\\\"
  | 0x08 => "\\b"
  | 0x09 => "\\t"
  | 0x0A => "\\n"
  | 0x0C => "\\f"
  | 0x0D => "\\r"
  | code =>
    if code < 0x20 then
      "\\u00" ++ String.singleton (hexDigit (code / 16)) ++ String.singleton (hexDigit (code % 16))
    else String.singleton character

def quote (value : String) : String := "\"" ++ String.join (value.toList.map escape) ++ "\""

def indentation (level : Nat) : String := String.ofList (List.replicate (2 * level) ' ')

mutual

/-- Written form of a document at a level of nesting. -/
def print (level : Nat) : Document → String
  | .text value => quote value
  | .list items =>
    if items.isEmpty then "[]"
    else "[\n" ++ printItems (level + 1) items ++ indentation level ++ "]"
  | .record fields =>
    if fields.isEmpty then "\x7b\x7d"
    else "\x7b\n" ++ printFields (level + 1) fields ++ indentation level ++ "\x7d"

def printItems (level : Nat) : List Document → String
  | [] => ""
  | item :: others =>
    indentation level ++ print level item ++ (if others.isEmpty then "\n" else ",\n")
      ++ printItems level others

def printFields (level : Nat) : List (String × Document) → String
  | [] => ""
  | (name, value) :: others =>
    indentation level ++ quote name ++ ": " ++ print level value
      ++ (if others.isEmpty then "\n" else ",\n") ++ printFields level others

end

/-- A field that is left out when it has no value. -/
def optionalField (name : String) (value : Option String) : List (String × Document) :=
  match value with
  | some value => [(name, .text value)]
  | none => []

end Document

def PlacementReport.document (placement : PlacementReport) : Document :=
  .record (placement.entries.map fun entry => (entry.1, .text entry.2))

def DeliveryReport.document (delivery : DeliveryReport) : Document :=
  .record [("from", .text delivery.source), ("to", .text delivery.target),
    ("requirement", .text delivery.requirement), ("connection", .text delivery.connection),
    ("routes", .list (delivery.routes.map .text))]

def ServiceReport.document (service : ServiceReport) : Document :=
  .record ([("capability", .text service.capability),
      ("implementation", .text service.implementation)]
    ++ Document.optionalField "logical_device" service.logicalDevice
    ++ Document.optionalField "target" service.target
    ++ Document.optionalField "available" service.available)

def VariationReport.document (variation : VariationReport) : Document :=
  .record [("mapping", variation.placement.document),
    ("connections", .list (variation.deliveries.map DeliveryReport.document)),
    ("bindings", .list (variation.services.map ServiceReport.document))]

def DiscardedReport.document (discarded : DiscardedReport) : Document :=
  .record [("mapping", discarded.placement.document), ("reason", .text discarded.reason)]

def PairReport.document (pair : PairReport) : Document :=
  .record ([("scenario", .text pair.scenario), ("setup", .text pair.setup),
      ("applicable", .list (pair.applicable.map VariationReport.document))]
    ++ (if pair.discarded.isEmpty then []
      else [("discarded", .list (pair.discarded.map DiscardedReport.document))])
    ++ Document.optionalField "error" pair.error)

def Warning.document (warning : Warning) : Document :=
  .record [("subject", .text warning.subject), ("message", .text warning.message)]

def Report.document (report : Report) : Document :=
  .record [("run_id", .text report.runId),
    ("pairs", .list (report.pairs.map PairReport.document)),
    ("warnings", .list (report.warnings.map Warning.document))]

def Report.json (report : Report) : String := report.document.print 0

end LabMatch
