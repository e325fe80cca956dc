import DropletClient.Key.Fault

namespace DropletClient.Key.Wire

/-!
# Fields with a length in front

A field is written as its length in four bytes, the most significant first, and
then its bytes. Reading gives the field and what follows it.
-/

/-- Fields are shorter than this. -/
def lengthLimit : Nat :=
  4294967296

/-- A length in four bytes, the most significant first. -/
def lengthBytes (length : Nat) : List UInt8 :=
  [UInt8.ofNat (length / 16777216), UInt8.ofNat (length / 65536 % 256),
    UInt8.ofNat (length / 256 % 256), UInt8.ofNat (length % 256)]

/-- The length that four bytes denote. -/
def lengthOf (first second third fourth : UInt8) : Nat :=
  first.toNat * 16777216 + second.toNat * 65536 + third.toNat * 256 +
    fourth.toNat

/-- A field with its length in front. -/
def field (bytes : List UInt8) : List UInt8 :=
  lengthBytes bytes.length ++ bytes

/-- A field with its length in front, if the length fits. -/
def write (bytes : List UInt8) : Except Fault (List UInt8) :=
  if bytes.length < lengthLimit then .ok (field bytes)
  else .error .fieldTooLarge

/-- Fields one after the other, if every length fits. -/
def writeAll : List (List UInt8) → Except Fault (List UInt8)
  | [] => .ok []
  | bytes :: rest => do
      let first ← write bytes
      let later ← writeAll rest
      return first ++ later

/-- The field in front of a byte sequence, and what follows it. -/
def read : List UInt8 → Except Fault (List UInt8 × List UInt8)
  | first :: second :: third :: fourth :: rest =>
      let length := lengthOf first second third fourth
      if length ≤ rest.length then
        .ok (rest.take length, rest.drop length)
      else
        .error (.fieldTooLong length rest.length)
  | _ => .error .truncatedLength

/-- As many fields as asked for, and what follows them. -/
def readAll : Nat → List UInt8 → Except Fault (List (List UInt8) × List UInt8)
  | 0, bytes => .ok ([], bytes)
  | count + 1, bytes => do
      let (first, rest) ← read bytes
      let (later, rest) ← readAll count rest
      return (first :: later, rest)

/-- The four bytes of a length tell the length. -/
theorem lengthOf_lengthBytes
    {length : Nat}
    (fits : length < lengthLimit) :
    lengthOf (UInt8.ofNat (length / 16777216))
      (UInt8.ofNat (length / 65536 % 256))
      (UInt8.ofNat (length / 256 % 256)) (UInt8.ofNat (length % 256)) =
        length := by
  simp only [lengthLimit] at fits
  simp only [lengthOf, UInt8.toNat_ofNat']
  omega

/-- A field that was written is read back, with what was appended to it. -/
theorem read_field
    {bytes : List UInt8}
    (fits : bytes.length < lengthLimit)
    (rest : List UInt8) :
    read (field bytes ++ rest) = .ok (bytes, rest) := by
  simp only [field, lengthBytes, List.cons_append, List.nil_append, read,
    lengthOf_lengthBytes fits, List.length_append, Nat.le_add_right, if_true,
    List.take_left', List.drop_left']

end DropletClient.Key.Wire
