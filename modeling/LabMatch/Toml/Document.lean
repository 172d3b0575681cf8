import LabMatch.Toml.Scalar
import LabMatch.Toml.Table

/-!
# TOML documents

A document is read line by line.  A line holds a header, a pair of a key and a
value, or nothing, and may end in a comment.  Arrays may extend over several
lines and may have a comma behind the last item; inline tables may do neither.
Values nest up to a fixed depth.

`Toml.parse` yields the table of the whole document, or nothing if the document
is malformed.
-/

namespace LabMatch.Toml

/-! ## Comments -/

def comment? (input : List Char) : Option (Shorter input) :=
  (mark? '#' input).map fun sign => sign.andThen (skipWhile isPlain sign.val)

def skipFiller (input : List Char) : NotLonger input :=
  match (blankOrBreak? input).orElse fun _ => comment? input with
  | none => untouched input
  | some after =>
    have := after.property
    after.weaken.trans (skipFiller after.val)
termination_by input.length

/-! ## Values -/

/-- Reads what follows the opening bracket, or a comma, of an array. -/
def arrayItems (item : ValueReader) (input : List Char) : Option (List Value × Shorter input) :=
  let start := skipFiller input
  match mark? ']' start.val with
  | some closed => some ([], start.andThen closed)
  | none =>
    match item start.val with
    | none => none
    | some (first, afterFirst) =>
      let rest := start.andThen (afterFirst.andThen (skipFiller afterFirst.val))
      match mark? ']' rest.val with
      | some closed => some ([first], rest.andThen closed.weaken)
      | none =>
        match mark? ',' rest.val with
        | none => none
        | some comma =>
          have := Nat.lt_trans comma.property rest.property
          match arrayItems item comma.val with
          | none => none
          | some (others, after) =>
            some (first :: others, rest.andThen (comma.andThen after.weaken).weaken)
termination_by input.length

abbrev Pair := List String × Value

def pair (value : ValueReader) (input : List Char) : Option (Pair × Shorter input) := do
  let (parts, afterKey) ← key input
  let equals ← mark? '=' afterKey.val
  let blank := skipBlanks equals.val
  let (read, afterValue) ← value blank.val
  return ((parts, read), afterKey.andThen
    (equals.andThen (blank.andThen (afterValue.andThen (skipBlanks afterValue.val))).weaken).weaken)

def inlinePairs (value : ValueReader) (input : List Char) : Option (List Pair × Shorter input) :=
  match pair value input with
  | none => none
  | some (first, rest) =>
    match mark? '\x7d' rest.val with
    | some closed => some ([first], rest.andThen closed.weaken)
    | none =>
      match mark? ',' rest.val with
      | none => none
      | some comma =>
        have := Nat.lt_trans comma.property rest.property
        match inlinePairs value comma.val with
        | none => none
        | some (others, after) =>
          some (first :: others, rest.andThen (comma.andThen after.weaken).weaken)
termination_by input.length

def insertPair (origin : Origin) (entries : Entries) (pair : Pair) : Option Entries := do
  addPair pair.1.dropLast (← pair.1.getLast?) pair.2 origin entries

/-- Reads what follows the opening brace of an inline table. -/
def inlineTable (value : ValueReader) : ValueReader := fun input => do
  let start := skipBlanks input
  match mark? '\x7d' start.val with
  | some closed => return (.table .inlined [], start.andThen closed)
  | none =>
    let (pairs, rest) ← inlinePairs value start.val
    return (.table .inlined (← pairs.foldlM (insertPair .inlined) []), start.andThen rest)

/-- Reads a value whose arrays and inline tables nest at most to the given depth. -/
def valueWithin : (depth : Nat) → ValueReader
  | 0 => scalar
  | depth + 1 => fun input =>
    match mark? '[' input with
    | some opened =>
      (arrayItems (valueWithin depth) opened.val).map fun read =>
        (.array read.1 false, opened.andThen read.2.weaken)
    | none =>
      match mark? '\x7b' input with
      | some opened =>
        (inlineTable (valueWithin depth) opened.val).map fun read =>
          (read.1, opened.andThen read.2.weaken)
      | none => scalar input

/-- The deepest nesting of arrays and inline tables. -/
def maximalNesting : Nat := 79

/-- Reads a value. -/
def value : ValueReader := valueWithin maximalNesting

/-! ## Lines -/

/-- What was read so far: the entries at the top, and the path of the table whose
header came last. -/
structure Draft where
  entries : Entries
  path : List String

def Draft.empty : Draft := ⟨[], []⟩

inductive Line
  | nothing
  | pair (parts : List String) (value : Value)
  /-- A header in single brackets. -/
  | table (path : List String)
  /-- A header in double brackets. -/
  | item (path : List String)

/-- Adds what stands on a line. -/
def Draft.add (draft : Draft) : Line → Option Draft
  | .nothing => some draft
  | .pair parts value => do
    let insert := fun origin entries => insertPair origin entries (parts, value)
    return { draft with entries := ← update false insert draft.path .header draft.entries }
  | .table path => do
    let change := openTable (← path.getLast?)
    return ⟨← update false change path.dropLast .header draft.entries, path⟩
  | .item path => do
    let change := openItem (← path.getLast?)
    return ⟨← update false change path.dropLast .header draft.entries, path⟩

/-- Reads a header after its opening bracket. -/
def header (input : List Char) : Option (Line × Shorter input) :=
  match mark? '[' input with
  | none => do
    let (path, afterKey) ← key input
    let closed ← mark? ']' afterKey.val
    return (.table path, afterKey.andThen closed.weaken)
  | some inner => do
    let (path, afterKey) ← key inner.val
    let closed ← mark? ']' afterKey.val
    let outer ← mark? ']' closed.val
    let rest := afterKey.andThen (closed.andThen outer.weaken).weaken
    return (.item path, inner.andThen rest.weaken)

/-- Whether nothing more than a comment stands on the line. -/
def isBlankLine (input : List Char) : Bool :=
  match input with
  | [] => true
  | first :: _ => first == '#' || first == '\n' || first == '\r'

/-- Reads what a line holds, but not its end. -/
def lineContent (input : List Char) : Option (Line × NotLonger input) :=
  if isBlankLine input then some (.nothing, untouched input)
  else
    match mark? '[' input with
    | some opened =>
      (header opened.val).map fun read => (read.1, (opened.andThen read.2.weaken).weaken)
    | none => (pair value input).map fun read => (.pair read.1.1 read.1.2, read.2.weaken)

/-- Reads a line with the blanks around its content and its comment, up to the line
break. -/
def line (input : List Char) : Option (Line × NotLonger input) := do
  let start := skipBlanks input
  let (content, afterContent) ← lineContent start.val
  let blank := start.trans (afterContent.trans (skipBlanks afterContent.val))
  match comment? blank.val with
  | some rest => return (content, (blank.andThen rest).weaken)
  | none => return (content, blank)

def lines (draft : Draft) (input : List Char) : Option Entries :=
  match line input with
  | none => none
  | some (content, rest) =>
    match draft.add content with
    | none => none
    | some draft =>
      match rest.val with
      | [] => some draft.entries
      | _ :: _ =>
        match lineBreak? rest.val with
        | none => none
        | some next =>
          have := Nat.lt_of_lt_of_le next.property rest.property
          lines draft next.val
termination_by input.length

/-- Leaves out a byte order mark at the front. -/
def withoutMark : List Char → List Char
  | '\ufeff' :: input => input
  | input => input

/-- The table of a whole document. -/
def parse (document : String) : Option Value :=
  (lines .empty (withoutMark document.toList)).map (.table .header)

end LabMatch.Toml
