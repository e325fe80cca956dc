import DropletClient.Text.Decimal

namespace DropletClient.Base64

/-!
# Base64

The standard alphabet with required padding, in its canonical form only: the
bits of the last symbol that belong to no byte must be zero. A refused text
names the first thing wrong with it; positions count bytes.
-/

/-- Why a text is not canonical base64. -/
inductive Fault where
  | invalidSymbol (byte : UInt8) (offset : Nat)
  | invalidLastSymbol (byte : UInt8) (offset : Nat)
  | invalidLength (length : Nat)
  | invalidPadding
  deriving Repr, DecidableEq

/-- The wording of a fault. -/
def Fault.message : Fault → String
  | .invalidSymbol byte offset =>
      "Invalid symbol " ++ Text.Decimal.ofNat byte.toNat ++ ", offset " ++
        Text.Decimal.ofNat offset ++ "."
  | .invalidLastSymbol byte offset =>
      "Invalid last symbol " ++ Text.Decimal.ofNat byte.toNat ++ ", offset " ++
        Text.Decimal.ofNat offset ++ "."
  | .invalidLength length =>
      "Invalid input length: " ++ Text.Decimal.ofNat length
  | .invalidPadding => "Invalid padding"

/-- The padding character. -/
def padding : UInt8 := 61

/-- The code of the symbol with a value below 64. -/
def symbol (value : Nat) : UInt8 :=
  if value < 26 then UInt8.ofNat (65 + value)
  else if value < 52 then UInt8.ofNat (71 + value)
  else if value < 62 then UInt8.ofNat (value - 4)
  else if value = 62 then 43
  else 47

/-- The value of a symbol. -/
def value? (byte : UInt8) : Option Nat :=
  let code := byte.toNat
  if 65 ≤ code ∧ code ≤ 90 then some (code - 65)
  else if 97 ≤ code ∧ code ≤ 122 then some (code - 71)
  else if 48 ≤ code ∧ code ≤ 57 then some (code + 4)
  else if code = 43 then some 62
  else if code = 47 then some 63
  else none

/-- The bytes of a text, three at a time, as symbols. -/
def encode : List UInt8 → List UInt8
  | [] => []
  | [first] =>
      [symbol (first.toNat / 4), symbol (first.toNat % 4 * 16),
        padding, padding]
  | [first, second] =>
      [symbol (first.toNat / 4),
        symbol (first.toNat % 4 * 16 + second.toNat / 16),
        symbol (second.toNat % 16 * 4), padding]
  | first :: second :: third :: rest =>
      symbol (first.toNat / 4) ::
        symbol (first.toNat % 4 * 16 + second.toNat / 16) ::
        symbol (second.toNat % 16 * 4 + third.toNat / 64) ::
        symbol (third.toNat % 64) :: encode rest

/-- The values of symbols, or the first byte that is none. -/
def values (offset : Nat) : List UInt8 → Except Fault (List Nat)
  | [] => .ok []
  | byte :: rest =>
      match value? byte with
      | none => .error (.invalidSymbol byte offset)
      | some value => (values (offset + 1) rest).map (value :: ·)

/-- The three bytes of four values. -/
def bytesOfQuad (first second third fourth : Nat) : List UInt8 :=
  [UInt8.ofNat (first * 4 + second / 16),
    UInt8.ofNat (second % 16 * 16 + third / 4),
    UInt8.ofNat (third % 4 * 64 + fourth)]

/-- The bytes of the last values, whose surplus bits must be zero. -/
def bytesOfEnding
    (offset : Nat)
    (symbols : List UInt8) :
    List Nat → Except Fault (List UInt8)
  | [first, second] =>
      if second % 16 = 0 then .ok [UInt8.ofNat (first * 4 + second / 16)]
      else .error (.invalidLastSymbol (symbols.getLastD 0) (offset + 1))
  | [first, second, third] =>
      if third % 4 = 0 then
        .ok [UInt8.ofNat (first * 4 + second / 16),
          UInt8.ofNat (second % 16 * 16 + third / 4)]
      else .error (.invalidLastSymbol (symbols.getLastD 0) (offset + 2))
  | [first, second, third, fourth] =>
      .ok (bytesOfQuad first second third fourth)
  | _ => .ok []

/--
The bytes of the last four symbols or fewer, of which some may be padding.
-/
def decodeEnding
    (offset : Nat)
    (ending : List UInt8) :
    Except Fault (List UInt8) :=
  if ending.isEmpty then .ok []
  else do
    let symbols := ending.takeWhile (· != padding)
    let rest := ending.dropWhile (· != padding)
    let decoded ← values offset symbols
    if !rest.isEmpty && (symbols.length < 2 || rest.any (· != padding)) then
      .error (.invalidSymbol padding (offset + symbols.length))
    else if symbols.length < 2 then
      .error (.invalidLength (offset + symbols.length))
    else if ending.length ≠ 4 then
      .error .invalidPadding
    else
      bytesOfEnding offset symbols decoded

/-- The bytes of a text that begins at an offset, four symbols at a time. -/
def decodeFrom (offset : Nat) : List UInt8 → Except Fault (List UInt8)
  | first :: second :: third :: fourth :: next :: rest => do
      match ← values offset [first, second, third, fourth] with
      | [a, b, c, d] =>
          (decodeFrom (offset + 4) (next :: rest)).map
            (bytesOfQuad a b c d ++ ·)
      | _ => .ok []
  | ending => decodeEnding offset ending

/--
A last byte that is left over, and is neither a symbol nor padding, is reported
before all else.
-/
def strayLastByte? (text : List UInt8) : Option UInt8 :=
  match text.getLast? with
  | some last =>
      if text.length % 4 = 1 ∧ last ≠ padding ∧
        value? last = none then some last else none
  | none => none

/-- The bytes that a text stands for. -/
def decode (text : List UInt8) : Except Fault (List UInt8) :=
  match strayLastByte? text with
  | some last => .error (.invalidSymbol last (text.length - 1))
  | none => decodeFrom 0 text

end DropletClient.Base64
