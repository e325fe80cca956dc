import DropletClient.Key.Line
import DropletClient.Proofs.Base64.RoundTrip
import DropletClient.Proofs.Key.Framing
import DropletClient.Proofs.Text.Ascii
import DropletClient.Proofs.Text.Parts

namespace DropletClient

/-!
# Writing keys and reading them back

A key is written with whatever components it has, but it is read back only if
all of them are positive: reading names the first component that is not.
-/

namespace Key

theorem Component.dropRedundantZeros_eq_self
    {bytes : List UInt8}
    (minimal : redundantZero bytes = false) :
    dropRedundantZeros bytes = bytes := by
  cases bytes with
  | nil => rfl
  | cons byte rest =>
      cases rest with
      | nil => rfl
      | cons next later =>
          have kept : ¬ (byte = 0 ∧ next < 0x80) := by
            simpa [redundantZero] using minimal
          rw [dropRedundantZeros, if_neg kept]

/-- The bytes of a component are read as this component, if it is positive. -/
theorem Component.ofField_bytes
    (name : String)
    (component : Component) :
    ofField name component.bytes =
      if component.isPositive then .ok component
      else .error (.componentNotPositive name) := by
  have minimal := component.minimal
  have reads : ofBytes? component.bytes = some component := dif_pos minimal
  rw [ofField, dropRedundantZeros_eq_self minimal, reads]

end Key

namespace PublicKey

open Key

/--
The components of a key with their names, in the order in which they are
written.
-/
def components : PublicKey → List (String × Component)
  | .rsa e n => [("e", e), ("n", n)]
  | .dsa p q g y => [("p", p), ("q", q), ("g", g), ("y", y)]
  | .other _ => []

/-- The label of a key that can be written. -/
def label? : PublicKey → Option String
  | .rsa _ _ => some rsaLabel
  | .dsa _ _ _ _ => some dsaLabel
  | .other _ => none

/--
What is read where a key was written: the key, or the first component that is
not positive.
-/
def readBack (key : PublicKey) : Except Fault PublicKey :=
  match key.components.find? fun component => !component.2.isPositive with
  | none => .ok key
  | some (name, _) => .error (.componentNotPositive name)

/-- The payload of a key with a label. -/
def payloadBytes (label : String) (key : PublicKey) : List UInt8 :=
  (textBytes label :: key.components.map fun component =>
    component.2.bytes).flatMap Wire.field

variable {key : PublicKey} {label : String}

theorem label_eq
    (labelled : key.label? = some label) :
    label = rsaLabel ∨ label = dsaLabel := by
  cases key <;> simp_all [label?]

/--
Reading goes on after a component that was written, if the component is
positive.
-/
private theorem nextComponent_bind
    {component : Component}
    (fits : component.bytes.length < Wire.lengthLimit)
    (name : String)
    (rest : List UInt8)
    (next : Component × List UInt8 → Except Fault β) :
    (nextComponent name (Wire.field component.bytes ++ rest) >>= next) =
      if component.isPositive then next (component, rest)
      else .error (.componentNotPositive name) := by
  have reads :
      nextComponent name (Wire.field component.bytes ++ rest) =
        (Component.ofField name component.bytes >>= fun read =>
          pure (read, rest)) := by
    rw [nextComponent, Wire.read_field fits, Outcome.ok_bind]
  rw [reads, Component.ofField_bytes]
  split <;> rfl

theorem length_textBytes_lt
    (known : label = rsaLabel ∨ label = dsaLabel) :
    (textBytes label).length < Wire.lengthLimit := by
  rcases known with rfl | rfl <;> decide

/-- A label that was written is read back. -/
theorem nextLabel_field
    (known : label = rsaLabel ∨ label = dsaLabel)
    (rest : List UInt8) :
    nextLabel (Wire.field (textBytes label) ++ rest) = .ok (label, rest) := by
  have isText : Text.Utf8.decode? (textBytes label) = some label.toList := by
    rcases known with rfl | rfl <;> decide
  rw [nextLabel, Wire.read_field (length_textBytes_lt known), Outcome.ok_bind]
  simp only [isText, String.ofList_toList]
  rfl

/-- The payload of a key is read as the key, if its components are positive. -/
theorem ofBytes_payloadBytes
    (labelled : key.label? = some label)
    (fits : ∀ component ∈ key.components,
      component.2.bytes.length < Wire.lengthLimit) :
    ofBytes (payloadBytes label key) = key.readBack := by
  cases key with
  | other algorithm => cases labelled
  | rsa e n =>
      have shape :
          payloadBytes label (.rsa e n) =
            Wire.field (textBytes label) ++
              (Wire.field e.bytes ++ (Wire.field n.bytes ++ [])) :=
        rfl
      simp only [components, List.forall_mem_cons] at fits
      rw [shape, ofBytes, nextLabel_field (label_eq labelled), Outcome.ok_bind]
      cases labelled
      simp only [if_true, nextComponent_bind fits.1,
        nextComponent_bind fits.2.1, readBack, components, List.find?_cons]
      cases e.isPositive with
      | false => rfl
      | true => cases n.isPositive <;> rfl
  | dsa p q g y =>
      have shape :
          payloadBytes label (.dsa p q g y) =
            Wire.field (textBytes label) ++
              (Wire.field p.bytes ++
                (Wire.field q.bytes ++
                  (Wire.field g.bytes ++ (Wire.field y.bytes ++ [])))) :=
        rfl
      simp only [components, List.forall_mem_cons] at fits
      have otherLabel : dsaLabel ≠ rsaLabel := by decide
      rw [shape, ofBytes, nextLabel_field (label_eq labelled), Outcome.ok_bind]
      cases labelled
      simp only [if_true, if_neg otherLabel, nextComponent_bind fits.1,
        nextComponent_bind fits.2.1, nextComponent_bind fits.2.2.1,
        nextComponent_bind fits.2.2.2.1, readBack, components, List.find?_cons]
      cases p.isPositive with
      | false => rfl
      | true =>
          cases q.isPositive with
          | false => rfl
          | true =>
              cases g.isPositive with
              | false => rfl
              | true => cases y.isPositive <;> rfl

/-- The text of a payload. -/
def payloadText (bytes : List UInt8) : List Char :=
  (Base64.encode bytes).map Text.Utf8.asciiCharacter

/-- The line with a label and a payload. -/
def lineWith (label : String) (bytes : List UInt8) : String :=
  label ++ " " ++ String.ofList (payloadText bytes) ++ " " ++ comment

/-- Base64 is written in visible ASCII characters. -/
theorem visible_of_mem_encode
    {bytes : List UInt8}
    {byte : UInt8}
    (member : byte ∈ Base64.encode bytes) :
    byte.toNat < 128 ∧
      Text.isBlank (Text.Utf8.asciiCharacter byte) = false := by
  rcases Base64.mem_encode member with ⟨value, small, rfl⟩ | rfl
  · have checked :
        ∀ digit : Fin 64,
          (Base64.symbol digit.val).toNat < 128 ∧
            Text.isBlank (Text.Utf8.asciiCharacter (Base64.symbol digit.val)) =
              false := by
      decide
    exact checked ⟨value, small⟩
  · decide

theorem isBlank_payloadText
    {bytes : List UInt8}
    {character : Char}
    (member : character ∈ payloadText bytes) :
    Text.isBlank character = false := by
  obtain ⟨byte, byteMember, rfl⟩ := List.mem_map.mp member
  exact (visible_of_mem_encode byteMember).2

theorem encode_payloadText
    (bytes : List UInt8) :
    Text.Utf8.encode (payloadText bytes) = Base64.encode bytes :=
  Text.Utf8.encode_ascii fun _ member => (visible_of_mem_encode member).1

theorem decode_payloadText
    (bytes : List UInt8) :
    Base64.decode (Text.Utf8.encode (payloadText bytes)) = .ok bytes := by
  rw [encode_payloadText, Base64.decode_encode]

/-- A payload with a short first field begins like every payload. -/
private theorem payloadStart_payloadText
    (labelled : key.label? = some label) :
    payloadStart.isPrefixOf (payloadText (payloadBytes label key)) = true := by
  rcases label_eq labelled with rfl | rfl <;> rfl

private theorem toList_lineWith
    (label : String)
    (bytes : List UInt8) :
    (lineWith label bytes).toList =
      label.toList ++ ' ' :: (payloadText bytes ++ ' ' :: comment.toList) := by
  simp [lineWith]

/-- A line neither begins nor ends with white space. -/
private theorem trim_lineWith
    (labelled : key.label? = some label)
    (bytes : List UInt8) :
    Text.trim (lineWith label bytes).toList =
      (lineWith label bytes).toList := by
  have startOfLabel : label.toList.head? = some 's' := by
    rcases label_eq labelled with rfl | rfl <;> decide
  have endOfComment : comment.toList.getLast? = some 't' := rfl
  refine Text.trim_eq_self (fun character starts => ?_)
    (fun character ends => ?_)
  · rw [toList_lineWith, List.head?_append, startOfLabel] at starts
    cases starts
    decide
  · rw [toList_lineWith] at ends
    simp only [List.getLast?_append, List.getLast?_cons, endOfComment] at ends
    cases ends
    change Text.isBlank 't' = false
    decide

/-- A line has three parts, because there is no blank inside of any of them. -/
theorem split_lineWith
    (labelled : key.label? = some label)
    (bytes : List UInt8) :
    Text.split ' ' (lineWith label bytes).toList =
      [label.toList, payloadText bytes, comment.toList] := by
  have noSpaceInLabel : ' ' ∉ label.toList := by
    rcases label_eq labelled with rfl | rfl <;> decide
  have noSpaceInPayload : ' ' ∉ payloadText bytes := by
    intro member
    have blank : Text.isBlank ' ' = true := by decide
    cases blank.symm.trans (isBlank_payloadText member)
  have noSpaceInComment : ' ' ∉ comment.toList := by decide
  rw [toList_lineWith, Text.split_append noSpaceInLabel,
    Text.split_append noSpaceInPayload, Text.split_of_not_mem noSpaceInComment]

/--
The part of a line that is taken as the payload, with any white space at its
end.
-/
def payloadToken? (line : String) : Option (List Char) :=
  (Text.split ' ' (Text.trim line.toList)).find? payloadStart.isPrefixOf

theorem payloadToken?_lineWith
    (labelled : key.label? = some label) :
    payloadToken? (lineWith label (payloadBytes label key)) =
      some (payloadText (payloadBytes label key)) := by
  have labelIsNoPayload : payloadStart.isPrefixOf label.toList = false := by
    rcases label_eq labelled with rfl | rfl <;> decide
  rw [payloadToken?, trim_lineWith labelled, split_lineWith labelled,
    List.find?_cons, labelIsNoPayload]
  simp only [List.find?_cons, payloadStart_payloadText labelled]

theorem trimEnd_payloadText
    (bytes : List UInt8) :
    Text.trimEnd (payloadText bytes) = payloadText bytes :=
  Text.trimEnd_eq_self fun _ ends =>
    isBlank_payloadText (List.mem_of_getLast? ends)

/-- The payload is found on the line that it was written on. -/
theorem payload?_lineWith
    (labelled : key.label? = some label) :
    payload? (lineWith label (payloadBytes label key)) =
      some (payloadText (payloadBytes label key)) := by
  have found :=
    congrArg (Option.map Text.trimEnd) (payloadToken?_lineWith labelled)
  rw [Option.map_some, trimEnd_payloadText] at found
  exact found

/-- The line of a key that can be written. -/
theorem toLine_eq
    (labelled : key.label? = some label)
    (fits : ∀ component ∈ key.components,
      component.2.bytes.length < Wire.lengthLimit) :
    key.toLine = .ok (lineWith label (payloadBytes label key)) := by
  have fields :
      key.fields =
        .ok (label, key.components.map fun component => component.2.bytes) := by
    cases key <;> cases labelled <;> rfl
  have allFit :
      ∀ part ∈
          textBytes label ::
            key.components.map fun component => component.2.bytes,
        part.length < Wire.lengthLimit := by
    refine List.forall_mem_cons.mpr ⟨?_, fun part member => ?_⟩
    · rcases label_eq labelled with rfl | rfl <;> decide
    · obtain ⟨component, componentMember, rfl⟩ := List.mem_map.mp member
      exact fits component componentMember
  have bytes : key.toBytes = .ok (label, payloadBytes label key) := by
    rw [toBytes, fields, Outcome.ok_bind]
    simp only [Wire.writeAll_eq_ok allFit]
    rfl
  rw [toLine, bytes]
  rfl

/-- A line is read as the bytes of its payload are. -/
theorem ofLine_eq_ofBytes
    {line : String}
    {payload : List Char}
    {bytes : List UInt8}
    (found : payload? line = some payload)
    (decoded : Base64.decode (Text.Utf8.encode payload) = .ok bytes) :
    ofLine line = ofBytes bytes := by
  rw [ofLine, found]
  simp only [decoded]

/-- The line of a key is read as the key, if its components are positive. -/
theorem ofLine_lineWith
    (labelled : key.label? = some label)
    (fits : ∀ component ∈ key.components,
      component.2.bytes.length < Wire.lengthLimit) :
    ofLine (lineWith label (payloadBytes label key)) = key.readBack := by
  rw [ofLine_eq_ofBytes (payload?_lineWith labelled) (decode_payloadText _),
    ofBytes_payloadBytes labelled fits]

/-- A key is read back whole exactly if all of its components are positive. -/
theorem readBack_eq_ok :
    key.readBack = .ok key ↔
      ∀ component ∈ key.components, component.2.isPositive = true := by
  unfold readBack
  cases found : key.components.find? fun component =>
    !component.2.isPositive with
  | none => simpa using found
  | some component =>
      have refused := List.find?_some found
      refine iff_of_false (by simp) fun positive => ?_
      simp [positive component (List.mem_of_find?_eq_some found)] at refused

/-- What is read of a key that is not read back whole. -/
theorem readBack_eq_error
    (negative : ∃ component ∈ key.components, component.2.isPositive = false) :
    ∃ before name component after,
      key.components = before ++ (name, component) :: after ∧
        (∀ earlier ∈ before, earlier.2.isPositive = true) ∧
        component.isPositive = false ∧
        key.readBack = .error (.componentNotPositive name) := by
  obtain ⟨culprit, member, notPositive⟩ := negative
  cases found : key.components.find? fun component =>
    !component.2.isPositive with
  | none =>
      have positive := List.find?_eq_none.mp found culprit member
      simp [notPositive] at positive
  | some component =>
      obtain ⟨name, component⟩ := component
      obtain ⟨refused, before, after, shape, positive⟩ :=
        List.find?_eq_some_iff_append.mp found
      refine ⟨before, name, component, after, shape, ?_,
        by simpa using refused, ?_⟩
      · intro earlier earlierMember
        simpa using positive earlier earlierMember
      · rw [readBack, found]

/--
A key with components that fit into fields is written exactly if it is an RSA or
a DSA key. Reading the line gives the key back exactly if all components are
positive; otherwise it fails, and names the first component that is not.
-/
theorem ofLine_toLine
    (key : PublicKey)
    (fits : ∀ component ∈ key.components,
      component.2.bytes.length < Wire.lengthLimit) :
    (∀ algorithm,
        key = .other algorithm →
          key.toLine = .error (.unsupportedAlgorithm algorithm)) ∧
      ((∀ algorithm, key ≠ .other algorithm) →
        ∃ line,
          key.toLine = .ok line ∧
            (ofLine line = .ok key ↔
              ∀ component ∈ key.components, component.2.isPositive = true) ∧
            ((∃ component ∈ key.components, component.2.isPositive = false) →
              ∃ before name component after,
                key.components = before ++ (name, component) :: after ∧
                  (∀ earlier ∈ before, earlier.2.isPositive = true) ∧
                  component.isPositive = false ∧
                  ofLine line = .error (.componentNotPositive name))) := by
  constructor
  · rintro algorithm rfl
    rfl
  · intro writable
    obtain ⟨label, labelled⟩ : ∃ label, key.label? = some label := by
      cases key with
      | rsa e n => exact ⟨rsaLabel, rfl⟩
      | dsa p q g y => exact ⟨dsaLabel, rfl⟩
      | other algorithm => exact absurd rfl (writable algorithm)
    refine ⟨_, toLine_eq labelled fits, ?_, ?_⟩
    · rw [ofLine_lineWith labelled fits, readBack_eq_ok]
    · rw [ofLine_lineWith labelled fits]
      exact readBack_eq_error

/--
An RSA key with a guard byte is read back, and one with a negative modulus
is refused.
-/
theorem ofLine_toLine_guard_byte :
    (∃ line,
      (PublicKey.rsa ⟨[1, 0, 1], rfl⟩ ⟨[0, 128], rfl⟩).toLine = .ok line ∧
        ofLine line = .ok (PublicKey.rsa ⟨[1, 0, 1], rfl⟩ ⟨[0, 128], rfl⟩)) ∧
      ∃ line,
        (PublicKey.rsa ⟨[1, 0, 1], rfl⟩ ⟨[128], rfl⟩).toLine = .ok line ∧
          ofLine line ≠ .ok (PublicKey.rsa ⟨[1, 0, 1], rfl⟩ ⟨[128], rfl⟩) := by
  constructor
  · obtain ⟨line, writes, reads, _⟩ :=
      (ofLine_toLine (.rsa ⟨[1, 0, 1], rfl⟩ ⟨[0, 128], rfl⟩) (by decide)).2
        (by simp)
    exact ⟨line, writes, reads.mpr (by decide)⟩
  · obtain ⟨line, writes, reads, _⟩ :=
      (ofLine_toLine (.rsa ⟨[1, 0, 1], rfl⟩ ⟨[128], rfl⟩) (by decide)).2
        (by simp)
    exact ⟨line, writes, fun whole => absurd (reads.mp whole) (by decide)⟩

end PublicKey

end DropletClient
