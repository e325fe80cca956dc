import DropletClient.Key.Reader
import DropletClient.Proofs.Key.Framing

namespace DropletClient.Key.Wire

/-!
# How a reader walks through fields

On a machine with 64 bits a reader gives at every position what can be read of
the bytes that are not read yet, and it moves by just as many bytes as the
fields that it gives take. Its position stays within the bytes, so that neither
a length nor the end of a field is ever too great for the machine
(`fields_are_framed_exactly`).
-/

theorem length_field
    (part : List UInt8) :
    (field part).length = 4 + part.length := by
  rw [field, List.length_append]
  rfl

namespace Reader

/-- The position of a reader does not lie behind the end of its bytes. -/
def IsWithin (reader : Reader) : Prop :=
  reader.position ≤ reader.bytes.length

/--
A machine has so many addresses that no field of these bytes can end behind the
last one.
-/
def IsRoomy (addresses : Nat) (reader : Reader) : Prop :=
  reader.bytes.length + 4 + lengthLimit ≤ addresses

/-- The reader after some more bytes. -/
def advance (reader : Reader) (count : Nat) : Reader :=
  { reader with position := reader.position + count }

section

variable {addresses : Nat} {reader later : Reader}

theorem isWithin_start
    (bytes : List UInt8) :
    (start bytes).IsWithin :=
  Nat.zero_le bytes.length

theorem rest_start
    (bytes : List UInt8) :
    (start bytes).rest = bytes :=
  List.drop_zero

theorem rest_advance
    (count : Nat) :
    (reader.advance count).rest = reader.rest.drop count :=
  (List.drop_drop ..).symm

theorem advance_advance
    (first second : Nat) :
    (reader.advance first).advance second = reader.advance (first + second) :=
  congrArg (Reader.mk reader.bytes) (Nat.add_assoc ..)

theorem isWithin_advance
    {count : Nat}
    (within : reader.IsWithin)
    (ahead : count ≤ reader.rest.length) :
    (reader.advance count).IsWithin := by
  rw [rest, List.length_drop] at ahead
  unfold IsWithin at within ⊢
  change reader.position + count ≤ reader.bytes.length
  omega

theorem upTo?_of_le
    {count : Nat}
    (within : reader.IsWithin)
    (ahead : count ≤ reader.rest.length) :
    reader.upTo? (reader.position + count) = some (reader.rest.take count) := by
  have inBytes : reader.position + count ≤ reader.bytes.length :=
    isWithin_advance within ahead
  rw [upTo?, if_pos ⟨Nat.le_add_right .., inBytes⟩, Nat.add_sub_cancel_left]

theorem upTo?_of_lt
    {count : Nat}
    (short : reader.rest.length < count) :
    reader.upTo? (reader.position + count) = none := by
  rw [rest, List.length_drop] at short
  apply if_neg
  rintro ⟨-, inBytes⟩
  omega

/--
The next four bytes end before the last address, wherever the position is.
-/
theorem lengthEnd_eq
    (roomy : reader.IsRoomy addresses)
    (within : reader.IsWithin) :
    min (reader.position + 4) (addresses - 1) = reader.position + 4 := by
  unfold IsRoomy lengthLimit at roomy
  unfold IsWithin at within
  omega

/-- A length is read if there are four bytes for it. -/
theorem readLength_of_bytes
    {first second third fourth : UInt8}
    {behind : List UInt8}
    (roomy : reader.IsRoomy addresses)
    (within : reader.IsWithin)
    (bytes : reader.rest = first :: second :: third :: fourth :: behind) :
    reader.readLength addresses =
      (.ok (lengthOf first second third fourth), reader.advance 4) := by
  have ahead : 4 ≤ reader.rest.length := by
    rw [bytes]
    exact Nat.le_add_left 4 behind.length
  have addressable : lengthOf first second third fourth < addresses := by
    have bound := lengthOf_lt first second third fourth
    unfold IsRoomy at roomy
    omega
  rw [readLength, lengthEnd_eq roomy within, upTo?_of_le within ahead, bytes]
  exact if_pos addressable

/-- Less than four bytes are no length, and are not read. -/
theorem readLength_of_short
    (roomy : reader.IsRoomy addresses)
    (within : reader.IsWithin)
    (short : reader.rest.length < 4) :
    reader.readLength addresses = (.error .truncatedLength, reader) := by
  rw [readLength, lengthEnd_eq roomy within, upTo?_of_lt short]

/-- What follows a length is read as a field, if it is long enough. -/
theorem readField_of_length
    {length : Nat}
    {behind : List UInt8}
    (roomy : reader.IsRoomy addresses)
    (within : reader.IsWithin)
    (bound : length < lengthLimit)
    (ahead : 4 ≤ reader.rest.length)
    (left : reader.rest.drop 4 = behind)
    (reads : reader.readLength addresses = (.ok length, reader.advance 4)) :
    reader.readField addresses =
      if length ≤ behind.length then
        (.ok (behind.take length), reader.advance (4 + length))
      else
        (.error (.fieldTooLong length behind.length), reader.advance 4) := by
  have withinLater := isWithin_advance within ahead
  rw [← rest_advance] at left
  have remaining :
      (reader.advance 4).bytes.length - (reader.advance 4).position =
        behind.length := by
    rw [← left, rest, List.length_drop]
  have addressable : (reader.advance 4).position + length < addresses := by
    have atMost : (reader.advance 4).position ≤ reader.bytes.length :=
      withinLater
    unfold IsRoomy at roomy
    omega
  rw [readField, reads]
  dsimp only
  rw [if_pos addressable]
  by_cases inside : length ≤ behind.length
  · have isThere : length ≤ (reader.advance 4).rest.length := left ▸ inside
    rw [upTo?_of_le withinLater isThere, left, if_pos inside, advance, advance,
      ← Nat.add_assoc]
  · have missing : (reader.advance 4).rest.length < length :=
      left ▸ Nat.lt_of_not_le inside
    rw [upTo?_of_lt missing, if_neg inside, remaining]

/-- Less than four bytes hold no field, and none of them is read. -/
theorem readField_of_short
    (roomy : reader.IsRoomy addresses)
    (within : reader.IsWithin)
    (short : reader.rest.length < 4) :
    reader.readField addresses = (.error .truncatedLength, reader) := by
  rw [readField, readLength_of_short roomy within short]

/--
A reader gives the field that can be read of what is left and moves behind it,
or it fails as that reading does and stays within its bytes.
-/
theorem readField_cases
    (roomy : reader.IsRoomy addresses)
    (within : reader.IsWithin) :
    (∃ part behind,
        read reader.rest = .ok (part, behind) ∧
          reader.readField addresses =
            (.ok part, reader.advance (field part).length)) ∨
      ∃ fault later,
        read reader.rest = .error fault ∧
          reader.readField addresses = (.error fault, later) ∧
          later.bytes = reader.bytes ∧ later.IsWithin := by
  match bytes : reader.rest with
  | first :: second :: third :: fourth :: behind =>
      have ahead : 4 ≤ reader.rest.length := by
        rw [bytes]
        exact Nat.le_add_left 4 behind.length
      have left : reader.rest.drop 4 = behind := by
        rw [bytes]
        rfl
      rw [read, readField_of_length roomy within (lengthOf_lt ..) ahead left
        (readLength_of_bytes roomy within bytes)]
      by_cases inside : lengthOf first second third fourth ≤ behind.length
      · simp only [if_pos inside]
        refine .inl ⟨_, _, rfl, ?_⟩
        rw [length_field, List.length_take_of_le inside]
      · simp only [if_neg inside]
        exact .inr ⟨_, _, rfl, rfl, rfl, isWithin_advance within ahead⟩
  | [] | [_] | [_, _] | [_, _, _] =>
      have short : reader.rest.length < 4 := by simp [bytes]
      exact .inr ⟨_, _, rfl, readField_of_short roomy within short, rfl, within⟩

/-- What a reader has left behind a field is what reading the field leaves. -/
theorem behind_field
    {part behind : List UInt8}
    (within : reader.IsWithin)
    (reads : read reader.rest = .ok (part, behind)) :
    (reader.advance (field part).length).rest = behind ∧
      (reader.advance (field part).length).IsWithin := by
  obtain ⟨-, framed⟩ := read_eq_ok.mp reads
  constructor
  · rw [rest_advance, framed, List.drop_left]
  · apply isWithin_advance within
    rw [framed, List.length_append]
    exact Nat.le_add_right ..

/--
A reader gives a field if it can be read of what is left, and then it moves
behind it.
-/
theorem readField_eq_ok
    {part : List UInt8}
    (roomy : reader.IsRoomy addresses)
    (within : reader.IsWithin) :
    reader.readField addresses = (.ok part, later) ↔
      read reader.rest = .ok (part, later.rest) ∧
        later = reader.advance (field part).length := by
  rcases readField_cases roomy within with
    ⟨given, behind, reads, gives⟩ | ⟨_, _, fails, refused, _⟩
  · rw [reads, gives]
    constructor
    · intro same
      cases same
      rw [(behind_field within reads).1]
      exact ⟨rfl, rfl⟩
    · rintro ⟨same, rfl⟩
      cases same
      rfl
  · rw [fails, refused]
    exact iff_of_false nofun nofun

/-- The first of some fields is read, and then the others. -/
theorem readFields_succ_eq_ok
    {count : Nat}
    {parts : List (List UInt8)} :
    reader.readFields addresses (count + 1) = (.ok parts, later) ↔
      ∃ part middle partsLater,
        reader.readField addresses = (.ok part, middle) ∧
          middle.readFields addresses count = (.ok partsLater, later) ∧
          part :: partsLater = parts := by
  rw [readFields]
  rcases reader.readField addresses with ⟨_ | part, middle⟩
  · simp
  · dsimp only
    rcases goesOn : middle.readFields addresses count with
      ⟨_ | partsLater, last⟩
    · simp [goesOn]
    · constructor
      · rintro ⟨⟩
        exact ⟨part, middle, partsLater, rfl, goesOn, rfl⟩
      · rintro ⟨_, _, _, ⟨⟩, same, rfl⟩
        cases goesOn.symm.trans same
        rfl

/--
A reader gives some fields if and only if they can be read of what is left, and
then it moves behind them.
-/
theorem readFields_eq_ok
    {count : Nat}
    {parts : List (List UInt8)}
    (roomy : reader.IsRoomy addresses)
    (within : reader.IsWithin) :
    reader.readFields addresses count = (.ok parts, later) ↔
      readAll count reader.rest = .ok (parts, later.rest) ∧
        later = reader.advance (parts.flatMap field).length := by
  induction count generalizing reader parts with
  | zero =>
      constructor
      · intro gives
        cases gives
        exact ⟨rfl, rfl⟩
      · rintro ⟨reads, rfl⟩
        obtain rfl : [] = parts := congrArg Prod.fst (Except.ok.inj reads)
        rfl
  | succ count inductionHypothesis =>
      rw [readFields_succ_eq_ok, readAll_succ_eq_ok]
      constructor
      · rintro ⟨part, middle, partsLater, gives, goesOn, rfl⟩
        obtain ⟨reads, rfl⟩ := (readField_eq_ok roomy within).mp gives
        have roomyMiddle :
            (reader.advance (field part).length).IsRoomy addresses :=
          roomy
        have withinMiddle := (behind_field within reads).2
        obtain ⟨readsLater, isLater⟩ :=
          (inductionHypothesis roomyMiddle withinMiddle).mp goesOn
        refine ⟨⟨part, _, partsLater, reads, readsLater, rfl⟩, ?_⟩
        rw [isLater, advance_advance, List.flatMap_cons, List.length_append]
      · rintro ⟨⟨part, behind, partsLater, reads, readsLater, rfl⟩, isLater⟩
        obtain ⟨left, withinMiddle⟩ := behind_field within reads
        have roomyMiddle :
            (reader.advance (field part).length).IsRoomy addresses :=
          roomy
        rw [← left] at reads readsLater
        refine ⟨part, _, partsLater,
          (readField_eq_ok roomy within).mpr ⟨reads, rfl⟩, ?_, rfl⟩
        apply (inductionHypothesis roomyMiddle withinMiddle).mpr
        refine ⟨readsLater, ?_⟩
        rw [isLater, advance_advance, List.flatMap_cons, List.length_append]

/-- The bytes of a reader from its position on, up to another one. -/
def passed (reader later : Reader) : List UInt8 :=
  (reader.bytes.take later.position).drop reader.position

/--
The fields that a reader gives are written as the bytes that it has passed.
-/
theorem passed_of_readFields
    {count : Nat}
    {parts : List (List UInt8)}
    (roomy : reader.IsRoomy addresses)
    (within : reader.IsWithin)
    (gives : reader.readFields addresses count = (.ok parts, later)) :
    parts.length = count ∧
      writeAll parts = .ok (reader.passed later) ∧
      later.bytes = reader.bytes ∧ later.IsWithin := by
  obtain ⟨reads, rfl⟩ := (readFields_eq_ok roomy within).mp gives
  obtain ⟨counted, fits, framed⟩ := readAll_eq_ok.mp reads
  have ahead : (parts.flatMap field).length ≤ reader.rest.length := by
    rw [framed, List.length_append]
    exact Nat.le_add_right ..
  refine ⟨counted, ?_, rfl, isWithin_advance within ahead⟩
  have isPassed : reader.passed (reader.advance (parts.flatMap field).length) =
      reader.rest.take (parts.flatMap field).length := by
    rw [passed, advance, List.drop_take, Nat.add_sub_cancel_left]
    rfl
  rw [writeAll_eq_ok fits, isPassed, framed, List.take_left]

end

/--
A reader of some bytes that has come to where it is by reading fields, or
trying to.
-/
inductive Comes (addresses : Nat) (bytes : List UInt8) : Reader → Prop where
  | start : Comes addresses bytes (start bytes)
  | reads
      {reader : Reader}
      (comes : Comes addresses bytes reader) :
      Comes addresses bytes (reader.readField addresses).2

theorem isRoomy_of_wide
    {reader : Reader}
    {memory : Slice wideAddresses}
    (same : reader.bytes = memory.bytes) :
    reader.IsRoomy wideAddresses := by
  have inMemory := memory.inMemory
  rw [IsRoomy, same]
  unfold wideAddresses at inMemory ⊢
  unfold lengthLimit
  omega

/-- A reader stays within its bytes, whether or not the fields can be read. -/
theorem Comes.isWithin
    {memory : Slice wideAddresses}
    {reader : Reader}
    (comes : Comes wideAddresses memory.bytes reader) :
    reader.bytes = memory.bytes ∧ reader.IsWithin := by
  induction comes with
  | start => exact ⟨rfl, isWithin_start memory.bytes⟩
  | @reads reader _ inductionHypothesis =>
      obtain ⟨same, within⟩ := inductionHypothesis
      rcases readField_cases (isRoomy_of_wide same) within with
          ⟨part, behind, reads, gives⟩
            | ⟨fault, later, _, fails, kept, withinLater⟩
      · rw [gives]
        exact ⟨same, (behind_field within reads).2⟩
      · rw [fails]
        exact ⟨kept.trans same, withinLater⟩

/--
The faults of reading are that bytes are missing, for a length or for a field.
-/
theorem fault_of_read
    {bytes : List UInt8}
    {fault : Fault}
    (fails : read bytes = .error fault) :
    fault = .truncatedLength ∨
      ∃ length remaining, fault = .fieldTooLong length remaining := by
  unfold read at fails
  split at fails
  · dsimp only at fails
    split at fails
    · cases fails
    · cases fails
      exact .inr ⟨_, _, rfl⟩
  · cases fails
    exact .inl rfl

/-- What holds of a reader of bytes in the memory of a machine with 64 bits. -/
structure IsFaithful
    (memory : Slice wideAddresses)
    (reader : Reader) : Prop where
  /-- The position does not lie behind the end of the bytes. -/
  within : reader.bytes = memory.bytes ∧ reader.position ≤ memory.bytes.length
  /--
  A field is given, or a fault, as it can be read of the bytes that are left.
  -/
  asRead : (reader.readField wideAddresses).1 = (read reader.rest).map Prod.fst
  /-- No length and no end of a field is too great for the machine. -/
  addressable :
    ∀ fault,
      (reader.readField wideAddresses).1 = .error fault →
        fault ≠ .lengthNotAddressable ∧ fault ≠ .endNotAddressable
  /--
  Fields that are given are written as the bytes that are passed, which
  are there.
  -/
  passes :
    ∀ count parts later,
      reader.readFields wideAddresses count = (.ok parts, later) →
        parts.length = count ∧
          writeAll parts = .ok (reader.passed later) ∧
          later.bytes = memory.bytes ∧ later.position ≤ memory.bytes.length

theorem Comes.isFaithful
    {memory : Slice wideAddresses}
    {reader : Reader}
    (comes : Comes wideAddresses memory.bytes reader) :
    reader.IsFaithful memory := by
  obtain ⟨same, within⟩ := comes.isWithin
  have roomy := isRoomy_of_wide same
  have asRead :
      (reader.readField wideAddresses).1 = (read reader.rest).map Prod.fst := by
    rcases readField_cases roomy within with
        ⟨part, behind, reads, gives⟩ | ⟨fault, later, fails, refused, _⟩
    · rw [reads, gives]
      rfl
    · rw [fails, refused]
      rfl
  refine ⟨⟨same, same ▸ within⟩, asRead, fun fault fails => ?_,
    fun count parts later gives => ?_⟩
  · rw [asRead] at fails
    cases reads : read reader.rest with
    | ok result =>
        rw [reads] at fails
        cases fails
    | error other =>
        rw [reads] at fails
        cases fails
        rcases fault_of_read reads with rfl | ⟨_, _, rfl⟩
        · exact ⟨nofun, nofun⟩
        · exact ⟨nofun, nofun⟩
  · obtain ⟨counted, writes, kept, withinLater⟩ :=
      passed_of_readFields roomy within gives
    rw [IsWithin, kept, same] at withinLater
    exact ⟨counted, writes, kept.trans same, withinLater⟩

/--
What was written is read back by a reader, which then stands where it ends.
-/
theorem readFields_written
    {parts : List (List UInt8)}
    {suffix : List UInt8}
    {memory : Slice wideAddresses}
    (fits : ∀ part ∈ parts, part.length < lengthLimit)
    (holds : memory.bytes = parts.flatMap field ++ suffix) :
    ∃ later,
      (start memory.bytes).readFields wideAddresses parts.length =
          (.ok parts, later) ∧
        later.position = (parts.flatMap field).length ∧
        later.rest = suffix := by
  have left : ((start memory.bytes).advance (parts.flatMap field).length).rest =
      suffix := by
    rw [rest_advance, rest_start, holds, List.drop_left]
  refine ⟨_, (readFields_eq_ok (isRoomy_of_wide rfl)
    (isWithin_start _)).mpr ⟨?_, rfl⟩, ?_, left⟩
  · rw [left, rest_start]
    exact readAll_eq_ok.mpr ⟨rfl, fits, holds⟩
  · exact Nat.zero_add _

end Reader

open Reader

/--
Fields are framed exactly. Fields that were written are read back, whatever
follows them, and fields that are read are written as the bytes that they were
read from. This holds for byte sequences of any length, and for readers of all
that fits into the memory of a machine with 64 bits.
-/
theorem fields_are_framed_exactly :
    (∀ (parts : List (List UInt8)) (suffix : List UInt8),
      (∀ part ∈ parts, part.length < lengthLimit) →
        ∃ written,
          writeAll parts = .ok written ∧
            readAll parts.length (written ++ suffix) = .ok (parts, suffix) ∧
            ∀ memory : Slice wideAddresses,
              memory.bytes = written ++ suffix →
                ∃ later,
                  (start memory.bytes).readFields wideAddresses parts.length =
                      (.ok parts, later) ∧
                    later.position = written.length ∧ later.rest = suffix) ∧
    (∀ (bytes rest : List UInt8) (count : Nat) (parts : List (List UInt8)),
      readAll count bytes = .ok (parts, rest) →
        parts.length = count ∧
          ∃ written, writeAll parts = .ok written ∧ bytes = written ++ rest) ∧
    ∀ (memory : Slice wideAddresses) (reader : Reader),
      Comes wideAddresses memory.bytes reader → reader.IsFaithful memory := by
  refine ⟨fun parts suffix fits => ?_, fun bytes rest count parts reads => ?_,
    fun memory reader comes => comes.isFaithful⟩
  · exact ⟨parts.flatMap field, writeAll_eq_ok fits,
      readAll_eq_ok.mpr ⟨rfl, fits, rfl⟩,
      fun memory holds => readFields_written fits holds⟩
  · obtain ⟨counted, fits, framed⟩ := readAll_eq_ok.mp reads
    exact ⟨counted, parts.flatMap field, writeAll_eq_ok fits, framed⟩

/-- Two fields, the second of them empty, and one more byte behind them. -/
theorem fields_are_framed_exactly_before_surplus :
    let parts : List (List UInt8) := [[7, 0], []]
    let memory : Slice wideAddresses :=
      ⟨[0, 0, 0, 2, 7, 0, 0, 0, 0, 0, 9], by decide⟩
    (∀ part ∈ parts, part.length < lengthLimit) ∧
      memory.bytes = parts.flatMap field ++ [9] ∧
      (∃ later,
        (start memory.bytes).readFields wideAddresses 2 = (.ok parts, later) ∧
          later.position = 10 ∧ later.rest = [9]) ∧
      ∃ rest, readAll 2 memory.bytes = .ok (parts, rest) ∧ rest = [9] := by
  intro parts memory
  have fits : ∀ part ∈ parts, part.length < lengthLimit := by decide
  have holds : memory.bytes = parts.flatMap field ++ [9] := by decide
  obtain ⟨written, writes, reads, walks⟩ :=
    fields_are_framed_exactly.1 parts [9] fits
  have isWritten : parts.flatMap field = written :=
    Except.ok.inj ((writeAll_eq_ok fits).symm.trans writes)
  rw [← isWritten] at reads walks
  obtain ⟨later, gives, position, left⟩ := walks memory holds
  exact ⟨fits, holds, ⟨later, gives, position, left⟩, [9], holds ▸ reads, rfl⟩

/-- A machine with 32 bits meets a field whose end has no address. -/
example :
    ((start [255, 255, 255, 255]).readField 4294967296).1 =
      .error .endNotAddressable :=
  rfl

/-- A machine with 16 bits meets a length that it cannot hold. -/
example :
    ((start [0, 1, 0, 0]).readField 65536).1 = .error .lengthNotAddressable :=
  rfl

end DropletClient.Key.Wire
