/-!
# Hexadecimal marks

Random bytes as texts that tell things apart: the short tag of a session, and the long id of a saved
project in the usual form of five groups.
-/

namespace PageBuilder.Text

/-- A byte as two lower-case hexadecimal digits. -/
def hexByte (b : UInt8) : List Char := [Nat.digitChar (b.toNat / 16), Nat.digitChar (b.toNat % 16)]

/-- Bytes as hexadecimal digits. -/
def hex (bytes : List UInt8) : List Char := bytes.flatMap hexByte

/-- The byte with its high bits replaced by a fixed pattern; `kept` is the number of values it
keeps. -/
def withPattern (b : UInt8) (pattern kept : Nat) : UInt8 := UInt8.ofNat (pattern + b.toNat % kept)

/-- The id of sixteen random bytes: its form says that it is random. -/
def randomId (bytes : List UInt8) : String :=
  let marked := bytes.mapIdx fun i b =>
    if i = 6 then withPattern b 0x40 0x10 else if i = 8 then withPattern b 0x80 0x40 else b
  let digits := hex marked
  let group (start count : Nat) := String.ofList ((digits.drop start).take count)
  "-".intercalate [group 0 8, group 8 4, group 12 4, group 16 4, group 20 12]

end PageBuilder.Text
