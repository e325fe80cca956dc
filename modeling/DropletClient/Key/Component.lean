import DropletClient.Key.Wire

namespace DropletClient.Key

/-!
# Components of public keys

A component is an integer in two's complement, the most significant byte first,
in its shortest form for a number that is not negative. Zero is the empty byte
sequence.
-/

/--
A leading zero byte is redundant unless it keeps a set top bit from being read
as a sign.
-/
def redundantZero : List UInt8 → Bool
  | [] => false
  | [byte] => byte == 0
  | byte :: next :: _ => byte == 0 && next < 0x80

/-- An integer as bytes without a redundant leading zero. -/
structure Component where
  bytes : List UInt8
  minimal : redundantZero bytes = false
  deriving Repr, DecidableEq

namespace Component

/-- Bytes as a component, unless their leading zero is redundant. -/
def ofBytes? (bytes : List UInt8) : Option Component :=
  if minimal : redundantZero bytes = false then some ⟨bytes, minimal⟩ else none

/-- A component is positive if it has a first byte and its top bit is clear. -/
def isPositive (component : Component) : Bool :=
  match component.bytes with
  | [] => false
  | byte :: _ => byte < 0x80

/-- Drops leading zero bytes as long as a byte with a clear top bit follows. -/
def dropRedundantZeros : List UInt8 → List UInt8
  | byte :: next :: rest =>
      if byte = 0 ∧ next < 0x80 then dropRedundantZeros (next :: rest)
      else byte :: next :: rest
  | short => short

/--
The positive component in a field, which may have any number of extra
leading zeros.
-/
def ofField (name : String) (field : List UInt8) : Except Fault Component :=
  match ofBytes? (dropRedundantZeros field) with
  | none => .error (.malformedComponent name)
  | some component =>
      if component.isPositive then .ok component
      else .error (.componentNotPositive name)

/--
Bytes of a magnitude without leading zeros, and with one in front of a
set top bit.
-/
def unsignedBytes (magnitude : List UInt8) : List UInt8 :=
  match magnitude.dropWhile (· == 0) with
  | [] => []
  | byte :: rest => if byte < 0x80 then byte :: rest else 0 :: byte :: rest

/-- The bytes of a number are the shortest ones. -/
theorem unsignedBytes_minimal
    (magnitude : List UInt8) :
    redundantZero (unsignedBytes magnitude) = false := by
  unfold unsignedBytes
  split
  · rfl
  · next byte rest shape =>
      have refused := List.head?_dropWhile_not (· == (0 : UInt8)) magnitude
      rw [shape] at refused
      have nonzero : (byte == 0) = false := by simpa using refused
      split
      · cases rest <;> simp [redundantZero, nonzero]
      · simp_all [redundantZero]

/-- The component with a magnitude, which is zero or positive. -/
def ofUnsigned (magnitude : List UInt8) : Component :=
  ⟨unsignedBytes magnitude, unsignedBytes_minimal magnitude⟩

end Component

end DropletClient.Key
