import LabMatch.Remainder

/-!
# TOML strings

Strings come in four forms: on one line or over several lines, with escape
sequences in double quotes or literally in single quotes.  In the forms over
several lines every line break is read as a line feed, a line break right after
the opening quotes is left out, and one or two quotes may stand directly before
the closing ones.
-/

namespace LabMatch.Toml

/-! ## Blanks and line breaks -/

/-- Whether the character is a blank within a line. -/
def isBlank (character : Char) : Bool := character == ' ' || character == '\t'

/-- Whether the character may stand in a comment or a string: a tab, or anything
but a control character. -/
def isPlain (character : Char) : Bool :=
  character == '\t' || (0x20 ≤ character.toNat && character.toNat != 0x7F)

def skipBlanks (input : List Char) : NotLonger input := skipWhile isBlank input

def lineBreak? : (input : List Char) → Option (Shorter input)
  | '\n' :: rest => some (afterFirst '\n' rest)
  | '\r' :: '\n' :: rest =>
    some ((afterFirst '\r' ('\n' :: rest)).andThen (afterFirst '\n' rest).weaken)
  | _ => none

def blankOrBreak? (input : List Char) : Option (Shorter input) :=
  lineBreak? input <|> mark? ' ' input <|> mark? '\t' input

def skipBlankLines (input : List Char) : NotLonger input :=
  match blankOrBreak? input with
  | none => untouched input
  | some after =>
    have := after.property
    after.weaken.trans (skipBlankLines after.val)
termination_by input.length

/-! ## Escape sequences -/

def hexValue? (character : Char) : Option Nat :=
  let code := character.toNat
  if 48 ≤ code ∧ code ≤ 57 then some (code - 48)
  else if 65 ≤ code ∧ code ≤ 70 then some (code - 55)
  else if 97 ≤ code ∧ code ≤ 102 then some (code - 87)
  else none

/-- Reads a character written by its code point in the given number of digits.
Surrogates and numbers beyond the last code point are refused. -/
def codePoint? (digits : Nat) (input : List Char) : Option (Char × NotLonger input) := do
  let written := input.take digits
  if written.length < digits then none
  let values ← written.mapM hexValue?
  let code := values.foldl (fun number digit => 16 * number + digit) 0
  if code.isValidChar then return (Char.ofNat code, ⟨input.drop digits, by simp⟩) else none

/-- Reads what follows the backslash of an escape sequence. -/
def escaped? : (input : List Char) → Option (Char × Shorter input)
  | [] => none
  | first :: rest =>
    let start := afterFirst first rest
    let one (character : Char) : Option (Char × Shorter (first :: rest)) :=
      some (character, start)
    let coded (digits : Nat) : Option (Char × Shorter (first :: rest)) :=
      (codePoint? digits rest).map fun read => (read.1, start.andThen read.2)
    match first with
    | 'b' => one '\x08'
    | 't' => one '\t'
    | 'n' => one '\n'
    | 'f' => one '\x0c'
    | 'r' => one '\r'
    | '\x22' => one '\x22'
    | '\\' => one '\\'
    | 'u' => coded 4
    | 'U' => coded 8
    | _ => none

/-! ## Parts of a string -/

abbrev TextReader := (input : List Char) → Option (List Char × Shorter input)

/-- Reads one character that stands for itself. -/
def plain : TextReader
  | [] => none
  | first :: rest => if isPlain first then some ([first], afterFirst first rest) else none

/-- Reads one character, written as itself or by an escape sequence. -/
def plainOrEscaped : TextReader := fun input =>
  match mark? '\\' input with
  | none => plain input
  | some backslash =>
    (escaped? backslash.val).map fun read => ([read.1], backslash.andThen read.2.weaken)

/-- Reads a line break as a line feed, or else a part of a line. -/
def brokenOr (part : TextReader) : TextReader := fun input =>
  match lineBreak? input with
  | some broken => some (['\n'], broken)
  | none => part input

/-- Leaves out a line break after a backslash, with the blanks around it and the
blank lines that follow, or else reads a part of a line. -/
def continuedOr (part : TextReader) : TextReader := fun input =>
  match mark? '\\' input with
  | none => part input
  | some backslash =>
    let blank := skipBlanks backslash.val
    match lineBreak? blank.val with
    | none => part input
    | some broken =>
      let rest := blank.andThen (broken.andThen (skipBlankLines broken.val))
      some ([], backslash.andThen rest.weaken)

/-! ## Whole strings -/

/-- Reads parts up to what closes the string. -/
def closedBy (close part : TextReader) : TextReader := fun input =>
  match close input with
  | some closed => some closed
  | none =>
    match part input with
    | none => none
    | some (read, after) =>
      have := after.property
      match closedBy close part after.val with
      | none => none
      | some (others, rest) => some (read ++ others, after.andThen rest.weaken)
termination_by input => input.length

/-- Reads the quote that closes a string on one line. -/
def closingQuote (quote : Char) : TextReader := fun input =>
  (mark? quote input).map fun closed => ([], closed)

def tripleQuote? (quote : Char) (input : List Char) : Option (Shorter input) := do
  let one ← mark? quote input
  let two ← mark? quote one.val
  let three ← mark? quote two.val
  return one.andThen (two.andThen three.weaken).weaken

/-- Reads the quotes that close a string over several lines.  Of more than three
quotes, the first one or two belong to the string. -/
def closingQuotes (quote : Char) : TextReader := fun input =>
  (withQuotes 2).orElse fun _ => (withQuotes 1).orElse fun _ => withQuotes 0
where
  /-- Reads the given number of quotes of the string and the closing ones. -/
  withQuotes (count : Nat) {input : List Char} : Option (List Char × Shorter input) :=
    if input.take count = List.replicate count quote then
      (tripleQuote? quote (input.drop count)).map fun closed =>
        (List.replicate count quote, ⟨closed.val, Nat.lt_of_lt_of_le closed.property (by simp)⟩)
    else none

/-- Reads a string on one line. -/
def lineText : TextReader := fun input =>
  match mark? '\x22' input with
  | some opened =>
    (closedBy (closingQuote '\x22') plainOrEscaped opened.val).map fun read =>
      (read.1, opened.andThen read.2.weaken)
  | none => do
    let opened ← mark? '\x27' input
    let (read, rest) ← closedBy (closingQuote '\x27') plain opened.val
    return (read, opened.andThen rest.weaken)

def linesText : TextReader := fun input =>
  match tripleQuote? '\x22' input with
  | some opened => body '\x22' (continuedOr plainOrEscaped) opened
  | none => do body '\x27' plain (← tripleQuote? '\x27' input)
where
  /-- Reads what follows the opening quotes. -/
  body (quote : Char) (part : TextReader) {input : List Char} (opened : Shorter input) :
      Option (List Char × Shorter input) :=
    let start : NotLonger input :=
      match lineBreak? opened.val with
      | some broken => (opened.andThen broken.weaken).weaken
      | none => opened.weaken
    (closedBy (closingQuotes quote) (brokenOr part) start.val).map fun read =>
      (read.1, start.andThen read.2)

def text : TextReader := fun input =>
  if (tripleQuote? '\x22' input).isSome || (tripleQuote? '\x27' input).isSome then linesText input
  else lineText input

end LabMatch.Toml
