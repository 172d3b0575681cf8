import LabMatch.Toml.Moment

/-!
# TOML numbers

Underscores may stand between two digits.  Decimal numbers may have a sign and
must not begin with a superfluous zero.  Integers have 64 bits; numbers with a
fraction or an exponent must not be too large for double precision.
-/

namespace LabMatch.Toml

namespace Number

def isHexDigit (character : Char) : Bool :=
  isDigit character || ('a' ≤ character && character ≤ 'f')
    || ('A' ≤ character && character ≤ 'F')

/-- The digits of a text that consists of digits and of underscores between
digits. -/
def digits? (accepted : Char → Bool) : List Char → Option (List Char)
  | [] => none
  | [digit] => if accepted digit then some [digit] else none
  | digit :: '_' :: others =>
    if accepted digit then (digits? accepted others).map (digit :: ·) else none
  | digit :: others =>
    if accepted digit then (digits? accepted others).map (digit :: ·) else none

/-- The digits of a decimal number without a superfluous zero. -/
def decimalDigits? (text : List Char) : Option (List Char) := do
  let digits ← digits? isDigit text
  if digits.head? = some '0' ∧ 1 < digits.length then none else some digits

/-- Splits off a sign; the first part tells whether it is a minus. -/
def splitSign : List Char → Bool × List Char
  | '+' :: text => (false, text)
  | '-' :: text => (true, text)
  | text => (false, text)

def digitValue (digit : Char) : Nat :=
  if isDigit digit then digit.toNat - 48
  else if 'a' ≤ digit then digit.toNat - 87
  else digit.toNat - 55

/-- A number without sign in a base other than ten. -/
def based? (base : Nat) (accepted : Char → Bool) (text : List Char) : Option Int := do
  let digits ← digits? accepted text
  return Int.ofNat (digits.foldl (fun number digit => base * number + digitValue digit) 0)

/-- The integer that is written, however large. -/
def unbounded? : List Char → Option Int
  | '0' :: 'x' :: text => based? 16 isHexDigit text
  | '0' :: 'o' :: text => based? 8 (fun digit => '0' ≤ digit && digit ≤ '7') text
  | '0' :: 'b' :: text => based? 2 (fun digit => digit == '0' || digit == '1') text
  | text => do
    let (negative, text) := splitSign text
    let number := decimal (← decimalDigits? text)
    return if negative then -(Int.ofNat number) else Int.ofNat number

/-- The number of integers of 64 bits that are not negative. -/
def integerLimit : Int := 9223372036854775808

/-- The integer that is written, if it has 64 bits. -/
def integer? (text : List Char) : Option Int := do
  let number ← unbounded? text
  if -integerLimit ≤ number ∧ number < integerLimit then some number else none

/-- The smallest number that is rounded to infinity in double precision: half way
between the largest finite number and the next power of two. -/
def floatLimit : Nat := Nat.pow 2 1024 - Nat.pow 2 970

/-- Whether the number with the given digits, its decimal point moved by `exponent`
places to the right, is too large for double precision.  The sizes are compared
first, so no large power of ten is formed. -/
def overflows (digits : List Char) (exponent : Int) : Bool :=
  let significant := digits.dropWhile (· == '0')
  let size := Int.ofNat significant.length + exponent
  if significant.isEmpty || size < 300 then false
  else if 320 < size then true
  else
    floatLimit
      ≤ decimal significant * Nat.pow 10 exponent.toNat / Nat.pow 10 (-exponent).toNat

/-- The digits of the fraction that begins with a point, if there is one. -/
def fractionDigits? : List Char → Option (List Char)
  | [] => some []
  | _ :: text => digits? isDigit text

def exponent? : List Char → Option Int
  | [] => some 0
  | _ :: text => do
    let (negative, text) := splitSign text
    let number := Int.ofNat (decimal (← digits? isDigit text))
    return if negative then -number else number

/-- The digits of a number with a fraction or an exponent, and by how many places
to the right the point behind them has to be moved. -/
def scientific? (text : List Char) : Option (List Char × Int) := do
  let (mantissa, exponent) := text.span fun character => character != 'e' && character != 'E'
  let (whole, fraction) := mantissa.span (· != '.')
  if fraction.isEmpty && exponent.isEmpty then none
  let digits ← decimalDigits? whole
  let further ← fractionDigits? fraction
  return (digits ++ further, (← exponent? exponent) - Int.ofNat further.length)

/-- Whether the text is a number with a fraction or an exponent, or the name of an
infinity or of the value that is not a number. -/
def isFloat (text : List Char) : Bool :=
  let (negative, text) := splitSign text
  text = ['i', 'n', 'f'] || text = ['n', 'a', 'n'] ||
    match scientific? text with
    | some (digits, exponent) => negative || !overflows digits exponent
    | none => false

end Number

end LabMatch.Toml
