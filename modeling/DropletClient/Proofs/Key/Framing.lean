import DropletClient.Key.Wire
import DropletClient.Proofs.Outcome

namespace DropletClient.Key.Wire

/-!
# How fields are framed

Fields are read exactly from the bytes that they are written as, and what
follows them is left over.
-/

variable {bytes rest : List UInt8}

theorem lengthOf_lt
    (first second third fourth : UInt8) :
    lengthOf first second third fourth < lengthLimit := by
  have boundFirst := first.toNat_lt
  have boundSecond := second.toNat_lt
  have boundThird := third.toNat_lt
  have boundFourth := fourth.toNat_lt
  simp only [lengthOf, lengthLimit]
  omega

/-- The four bytes of a length are the only ones that denote it. -/
theorem lengthBytes_lengthOf
    (first second third fourth : UInt8) :
    lengthBytes (lengthOf first second third fourth) =
      [first, second, third, fourth] := by
  have boundSecond := second.toNat_lt
  have boundThird := third.toNat_lt
  have boundFourth := fourth.toNat_lt
  have isFirst :
      lengthOf first second third fourth / 16777216 = first.toNat := by
    simp only [lengthOf]
    omega
  have isSecond :
      lengthOf first second third fourth / 65536 % 256 = second.toNat := by
    simp only [lengthOf]
    omega
  have isThird :
      lengthOf first second third fourth / 256 % 256 = third.toNat := by
    simp only [lengthOf]
    omega
  have isFourth : lengthOf first second third fourth % 256 = fourth.toNat := by
    simp only [lengthOf]
    omega
  rw [lengthBytes, isFirst, isSecond, isThird, isFourth]
  simp only [UInt8.ofNat_toNat]

/-- Fields that are short enough are written one after the other. -/
theorem writeAll_eq_ok
    {parts : List (List UInt8)}
    (fits : ∀ part ∈ parts, part.length < lengthLimit) :
    writeAll parts = .ok (parts.flatMap field) := by
  induction parts with
  | nil => rfl
  | cons part rest inductionHypothesis =>
      obtain ⟨fitsPart, fitsRest⟩ := List.forall_mem_cons.mp fits
      rw [writeAll, write, if_pos fitsPart, inductionHypothesis fitsRest]
      rfl

/-- A field is read where it was written, and nowhere else. -/
theorem read_eq_ok
    {part : List UInt8} :
    read bytes = .ok (part, rest) ↔
      part.length < lengthLimit ∧ bytes = field part ++ rest := by
  constructor
  · intro reads
    match bytes with
    | first :: second :: third :: fourth :: later =>
        rw [read] at reads
        split at reads
        case isTrue inside =>
          cases reads
          have length :
              (later.take (lengthOf first second third fourth)).length =
                lengthOf first second third fourth :=
            List.length_take_of_le inside
          constructor
          · rw [length]
            exact lengthOf_lt first second third fourth
          · rw [field, length, lengthBytes_lengthOf, List.append_assoc,
              List.take_append_drop]
            rfl
        case isFalse => cases reads
    | [] => cases reads
    | [first] => cases reads
    | [first, second] => cases reads
    | [first, second, third] => cases reads
  · rintro ⟨fits, rfl⟩
    exact read_field fits rest

/--
The first of some fields is read, and then the others from what follows it.
-/
theorem readAll_succ_eq_ok
    {count : Nat}
    {parts : List (List UInt8)} :
    readAll (count + 1) bytes = .ok (parts, rest) ↔
      ∃ part middle partsLater,
        read bytes = .ok (part, middle) ∧
          readAll count middle = .ok (partsLater, rest) ∧
          part :: partsLater = parts := by
  rw [readAll, Outcome.bind_eq_ok]
  constructor
  · rintro ⟨⟨part, middle⟩, reads, goesOn⟩
    obtain ⟨⟨partsLater, last⟩, readsLater, whole⟩ :=
      Outcome.bind_eq_ok.mp goesOn
    cases whole
    exact ⟨part, middle, partsLater, reads, readsLater, rfl⟩
  · rintro ⟨part, middle, partsLater, reads, readsLater, rfl⟩
    exact ⟨(part, middle), reads, Outcome.bind_eq_ok.mpr ⟨_, readsLater, rfl⟩⟩

/-- Fields are read where they were written, and nowhere else. -/
theorem readAll_eq_ok
    {count : Nat}
    {parts : List (List UInt8)} :
    readAll count bytes = .ok (parts, rest) ↔
      parts.length = count ∧
        (∀ part ∈ parts, part.length < lengthLimit) ∧
        bytes = parts.flatMap field ++ rest := by
  induction count generalizing bytes parts with
  | zero =>
      constructor
      · intro reads
        cases reads
        exact ⟨rfl, List.forall_mem_nil _, rfl⟩
      · rintro ⟨none, -, rfl⟩
        rw [List.length_eq_zero_iff.mp none]
        rfl
  | succ count inductionHypothesis =>
      rw [readAll_succ_eq_ok]
      constructor
      · rintro ⟨first, middle, later, readsFirst, readsLater, rfl⟩
        obtain ⟨fitsFirst, rfl⟩ := read_eq_ok.mp readsFirst
        obtain ⟨counted, fitsLater, rfl⟩ := inductionHypothesis.mp readsLater
        refine ⟨congrArg (· + 1) counted,
          List.forall_mem_cons.mpr ⟨fitsFirst, fitsLater⟩, ?_⟩
        rw [List.flatMap_cons, List.append_assoc]
      · rintro ⟨counted, fits, rfl⟩
        cases parts with
        | nil => cases counted
        | cons first later =>
            obtain ⟨fitsFirst, fitsLater⟩ := List.forall_mem_cons.mp fits
            have readsLater :=
              inductionHypothesis.mpr ⟨Nat.succ.inj counted, fitsLater, rfl⟩
            rw [List.flatMap_cons, List.append_assoc]
            exact ⟨first, _, later, read_field fitsFirst _, readsLater, rfl⟩

end DropletClient.Key.Wire
