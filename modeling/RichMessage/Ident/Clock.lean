import RichMessage.Ident.Basic
import RichMessage.Ident.Checksum

set_option autoImplicit false

namespace RichMessage.Clock

/-- The digits of base 36, and with them those of every smaller base. -/
def digit (n : Nat) : Char :=
  if n < 10 then Char.ofNat ('0'.toNat + n) else Char.ofNat ('a'.toNat + (n - 10))

/-- A number in base 36, without leading zeros. -/
def base36 (n : Nat) : List Char :=
  if n < 36 then [digit n] else base36 (n / 36) ++ [digit (n % 36)]

def hex8 (word : UInt32) : List Char :=
  (List.range 8).map fun place => digit (word.toNat / Nat.pow 16 (7 - place) % 16)

/-- The checksum over a time in nanoseconds, a count and a process. -/
def checksum (nanos : Nat) (count : UInt64) (process : UInt32) : UInt32 :=
  Checksum.crc32 (Checksum.littleEndian 16 nanos ++ Checksum.littleEndian 8 count.toNat ++
    Checksum.littleEndian 4 process.toNat)

/-- The identifier for a time, a count and a process, with the given check digits. -/
def compose (millis : UInt64) (count : UInt64) (check : UInt32) : String :=
  String.ofList ("block-".toList ++ base36 millis.toNat ++ '-' :: base36 count.toNat ++ hex8 check)

/-- The identifier for a time in nanoseconds since the epoch; a clock before it counts as zero. -/
def ident (reading : Int) (count : UInt64) (process : UInt32) : String :=
  let nanos := reading.toNat
  compose (UInt64.ofNat (nanos / 1000000)) count (checksum nanos count process)

end RichMessage.Clock

namespace RichMessage

/-- A source that reads a clock at every draw; `readings` gives what it will show. -/
structure ClockSource where
  readings : Nat → Int
  process : UInt32
  /-- The running count of the process, which wraps around. -/
  count : UInt64 := 0
  drawn : Nat := 0

instance : IdSource ClockSource where
  draw source :=
    (Clock.ident (source.readings source.drawn) source.count source.process,
      { source with count := source.count + 1, drawn := source.drawn + 1 })

end RichMessage
