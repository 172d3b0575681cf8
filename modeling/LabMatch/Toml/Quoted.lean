/-!
# Writing TOML strings

A string is written in the simplest form that needs no escape sequences: on one
line in double quotes or in single quotes, or else in three double or three single
quotes.  If every form needs them, double quotes are used.  A string with line
feeds in it begins with a line break that does not belong to it.
-/

namespace LabMatch.Toml

/-- The forms in which a string is written. -/
inductive QuoteForm
  | basic
  | literal
  | basicLines
  | literalLines
deriving DecidableEq

namespace QuoteForm

/-- The quotes on either side. -/
def quotes : QuoteForm → List Char
  | .basic => ['\x22']
  | .literal => ['\x27']
  | .basicLines => ['\x22', '\x22', '\x22']
  | .literalLines => ['\x27', '\x27', '\x27']

def acrossLines : QuoteForm → Bool
  | .basic | .literal => false
  | .basicLines | .literalLines => true

/-- Whether the character is a control character that only an escape sequence can
stand for in every form. -/
def isControl (character : Char) : Bool :=
  (character.toNat < 0x20 && character != '\t' && character != '\n') || character.toNat == 0x7F

/-- The length of the longest run of a character, given the length of the run that
leads up to the text. -/
def longestRun (repeated : Char) (leading : Nat) : List Char → Nat
  | [] => leading
  | first :: others =>
    if first = repeated then longestRun repeated (leading + 1) others
    else max leading (longestRun repeated 0 others)

def ofText (text : List Char) : QuoteForm :=
  let broken := text.contains '\n'
  let escaping := if broken then basicLines else basic
  let backslash := text.contains '\\'
  let double := longestRun '\x22' 0 text
  let single := longestRun '\x27' 0 text
  if text.any isControl then escaping
  else if !broken && !backslash && double = 0 then basic
  else if !broken && single = 0 then literal
  else if !backslash && double ≤ 2 then basicLines
  else if single ≤ 2 then literalLines
  else escaping

end QuoteForm

def hexDigit (number : Nat) : Char :=
  if number < 10 then Char.ofNat (48 + number) else Char.ofNat (55 + number)

/-- A character other than a quote between double quotes. -/
def escape (acrossLines : Bool) (character : Char) : List Char :=
  match character with
  | '\x08' => ['\\', 'b']
  | '\t' => ['\\', 't']
  | '\n' => if acrossLines then ['\n'] else ['\\', 'n']
  | '\x0c' => ['\\', 'f']
  | '\r' => ['\\', 'r']
  | '\\' => ['\\', '\\']
  | _ =>
    let code := character.toNat
    if code < 0x20 ∨ code = 0x7F then
      ['\\', 'u', '0', '0', hexDigit (code / 16), hexDigit (code % 16)]
    else [character]

/-- A text between double quotes.  Over several lines, up to two quotes in a row
stand for themselves; `run` counts those just before the text. -/
def escaped (acrossLines : Bool) (run : Nat) : List Char → List Char
  | [] => []
  | '\x22' :: others =>
    if acrossLines ∧ run < 2 then '\x22' :: escaped acrossLines (run + 1) others
    else '\\' :: '\x22' :: escaped acrossLines 0 others
  | first :: others => escape acrossLines first ++ escaped acrossLines 0 others

def quoted (text : String) : String :=
  let characters := text.toList
  let form := QuoteForm.ofText characters
  let start := if form.acrossLines ∧ characters.contains '\n' then ['\n'] else []
  let body :=
    match form with
    | .literal | .literalLines => characters
    | .basic | .basicLines => escaped form.acrossLines 0 characters
  String.ofList (form.quotes ++ start ++ body ++ form.quotes)

end LabMatch.Toml
