import DropletClient.Key.Wire

namespace DropletClient.Key.Wire

/-!
# Reading fields from memory

A reader walks through bytes in the memory of a machine and keeps the position
that it has come to. Positions are numbers of limited size: adding to one stops
at the greatest number where only the next four bytes are asked for, and is
refused where a length is added that was read. A field that cannot be read
leaves the reader behind its length if the length could be read.
-/

/-- The number of addresses of a machine with 64 bits. -/
def wideAddresses : Nat :=
  18446744073709551616

/--
Bytes in the memory of a machine, which take less than half of its addresses.
-/
structure Slice (addresses : Nat) where
  bytes : List UInt8
  inMemory : 2 * bytes.length < addresses

/-- Bytes that are read, and the position in them that reading has come to. -/
structure Reader where
  bytes : List UInt8
  position : Nat
  deriving Repr, DecidableEq

namespace Reader

/-- A reader that has read nothing. -/
def start (bytes : List UInt8) : Reader :=
  ⟨bytes, 0⟩

/-- The bytes that are not read yet. -/
def rest (reader : Reader) : List UInt8 :=
  reader.bytes.drop reader.position

/--
The bytes from the position of a reader up to another one, if there are
such bytes.
-/
def upTo? (reader : Reader) (stop : Nat) : Option (List UInt8) :=
  if reader.position ≤ stop ∧ stop ≤ reader.bytes.length then
    some (reader.rest.take (stop - reader.position))
  else
    none

section

variable (addresses : Nat)

/-- Reads the length of the next field. -/
def readLength (reader : Reader) : Except Fault Nat × Reader :=
  let stop := min (reader.position + 4) (addresses - 1)
  match reader.upTo? stop with
  | some [first, second, third, fourth] =>
      let length := lengthOf first second third fourth
      let later := { reader with position := stop }
      if length < addresses then (.ok length, later)
      else (.error .lengthNotAddressable, later)
  | _ => (.error .truncatedLength, reader)

/-- Reads the next field. -/
def readField (reader : Reader) : Except Fault (List UInt8) × Reader :=
  match reader.readLength addresses with
  | (.error fault, later) => (.error fault, later)
  | (.ok length, later) =>
      let stop := later.position + length
      if stop < addresses then
        match later.upTo? stop with
        | some part => (.ok part, { later with position := stop })
        | none =>
            (.error (.fieldTooLong length
              (later.bytes.length - later.position)), later)
      else
        (.error .endNotAddressable, later)

/-- Reads as many fields as asked for, unless one of them cannot be read. -/
def readFields : Nat → Reader → Except Fault (List (List UInt8)) × Reader
  | 0, reader => (.ok [], reader)
  | count + 1, reader =>
      match reader.readField addresses with
      | (.error fault, later) => (.error fault, later)
      | (.ok part, later) =>
          match readFields count later with
          | (.error fault, last) => (.error fault, last)
          | (.ok parts, last) => (.ok (part :: parts), last)

end

end Reader

end DropletClient.Key.Wire
