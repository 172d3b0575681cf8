/-!
# Run identifiers

Every run is told apart by a random identifier of 128 bits, written as five groups
of lower-case hexadecimal digits.
-/

namespace LabMatch.RunId

def digit (number : Nat) : Char :=
  if number < 10 then Char.ofNat (48 + number) else Char.ofNat (87 + number)

def byteDigits (byte : UInt8) : List Char := [digit (byte.toNat / 16), digit (byte.toNat % 16)]

/-- Marks sixteen bytes as random, in the bits that tell how an identifier was made. -/
def markRandom (bytes : List UInt8) : List UInt8 :=
  bytes.mapIdx fun index byte =>
    if index = 6 then (byte &&& 0x0F) ||| 0x40
    else if index = 8 then (byte &&& 0x3F) ||| 0x80
    else byte

/-- The identifier of sixteen random bytes. -/
def ofBytes (bytes : List UInt8) : String :=
  let digits := ((markRandom bytes).take 16).flatMap byteDigits
  let group (start size : Nat) : String := String.ofList ((digits.drop start).take size)
  "-".intercalate [group 0 8, group 8 4, group 12 4, group 16 4, group 20 12]

end LabMatch.RunId
