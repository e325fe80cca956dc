import DropletClient.Proofs.Json.Same
import DropletClient.Record.Catalog
import DropletClient.Record.Droplet
import DropletClient.Record.Event
import DropletClient.Record.SshKey

namespace DropletClient.Record

/-!
# Records do not depend on the order of members

Every reader of the program reads values that say the same as the same record,
or refuses them for the same reason.
-/

open Json (Same SameItems SameIfAny)

/-- A reader tells values apart only by what they say. -/
def Respects (read : Json → Except Mismatch α) : Prop :=
  ∀ value other, Same value other → read value = read other

/-- Two objects give the same for every name. -/
def SameLookups (members others : List (String × Json)) : Prop :=
  ∀ name, SameIfAny (Json.lookup name members) (Json.lookup name others)

/-- A reader that looks at scalars only respects what values say. -/
theorem respects_of_scalars
    {read : Json → Except Mismatch α}
    (arrays : ∀ items others, read (.array items) = read (.array others))
    (objects : ∀ members others,
      read (.object members) = read (.object others)) :
    Respects read := by
  intro value other same
  cases same with
  | refl value => rfl
  | array same => exact arrays _ _
  | object same => exact objects _ _

theorem respects_readInt32 : Respects readInt32 :=
  respects_of_scalars (fun _ _ => rfl) fun _ _ => rfl

theorem respects_readText : Respects readText :=
  respects_of_scalars (fun _ _ => rfl) fun _ _ => rfl

theorem respects_readBoolean : Respects readBoolean :=
  respects_of_scalars (fun _ _ => rfl) fun _ _ => rfl

theorem respects_readTextOrNumber : Respects readTextOrNumber :=
  respects_of_scalars (fun _ _ => rfl) fun _ _ => rfl

theorem respects_timestamp : Respects Timestamp.read :=
  respects_of_scalars (fun _ _ => rfl) fun _ _ => rfl

theorem respects_readNullable
    {read : Json → Except Mismatch α}
    (respects : Respects read) :
    Respects (readNullable read) := by
  intro value other same
  cases same with
  | refl value => rfl
  | array same => exact congrArg (Except.map some) (respects _ _ (.array same))
  | object same =>
      exact congrArg (Except.map some) (respects _ _ (.object same))

theorem respects_readFlag : Respects readFlag := by
  intro value other same
  rw [readFlag, readFlag,
    respects_readNullable respects_readBoolean value other same]

theorem respects_eventStatus : Respects EventStatus.read := by
  intro value other same
  rw [EventStatus.read, EventStatus.read,
    respects_readNullable respects_readText value other same]

theorem respects_readOptionalLine : Respects PublicKey.readOptionalLine := by
  intro value other same
  rw [PublicKey.readOptionalLine, PublicKey.readOptionalLine,
    respects_readNullable respects_readText value other same]

theorem readItems_congr
    {read : Json → Except Mismatch α}
    (respects : Respects read) :
    ∀ {items others : List Json},
      SameItems items others → readItems read items = readItems read others
  | _, _, .nil => rfl
  | _, _, .cons first later => by
      rw [readItems, readItems, respects _ _ first,
        readItems_congr respects later]

theorem respects_readList
    {read : Json → Except Mismatch α}
    (respects : Respects read) :
    Respects (readList read) := by
  intro value other same
  cases same with
  | refl value => rfl
  | array same => exact readItems_congr respects same
  | object same => rfl

theorem mem_names_iff
    {members : List (String × Json)}
    {name : String} :
    name ∈ members.map Prod.fst ↔ Json.lookup name members ≠ none := by
  rw [Ne, Json.lookup_eq_none_iff]
  simp

/--
An object has one name exactly if this name is found in it and no other is.
-/
theorem memberNames_eq_singleton
    {members : List (String × Json)}
    {word : String} :
    DropletStatus.memberNames members = [word] ↔
      ∀ name, Json.lookup name members ≠ none ↔ name = word := by
  simp only [← mem_names_iff, DropletStatus.memberNames]
  constructor
  · intro single name
    rw [← List.mem_eraseDups, single, List.mem_singleton]
  · intro only
    cases names : members.map Prod.fst with
    | nil => simp [names] at only
    | cons first rest =>
        rw [names] at only
        have isWord : ∀ name ∈ first :: rest, name = word :=
          fun name member => (only name).mp member
        obtain ⟨rfl, restIsWord⟩ := List.forall_mem_cons.mp isWord
        have nothingElse : rest.filter (fun name => !name == first) = [] := by
          refine List.filter_eq_nil_iff.mpr fun name member => ?_
          simp [restIsWord name member]
        rw [List.eraseDups_cons, nothingElse, List.eraseDups_nil]

theorem SameLookups.memberNames
    {members others : List (String × Json)}
    (same : SameLookups members others)
    (word : String) :
    DropletStatus.memberNames members = [word] ↔
      DropletStatus.memberNames others = [word] := by
  have found : ∀ name,
      Json.lookup name members ≠ none ↔ Json.lookup name others ≠ none := by
    intro name
    have sameName := same name
    generalize Json.lookup name members = first at sameName ⊢
    generalize Json.lookup name others = second at sameName ⊢
    cases sameName with
    | none => simp
    | some same => simp
  simp only [memberNames_eq_singleton, found]

/-- A state in an object of its own is read from its only name. -/
theorem dropletStatus_object
    {members : List (String × Json)}
    {word : String}
    (single : DropletStatus.memberNames members = [word]) :
    DropletStatus.read (.object members) =
      match Json.lookup word members with
      | some .null => .ok (DropletStatus.ofLabel word)
      | some other => .error (.wrongType (Found.ofJson other) "unit")
      | none => .error .severalMembers := by
  rw [DropletStatus.read]
  split
  case h_1 other isOther =>
    obtain rfl : other = word :=
      List.head_eq_of_cons_eq (isOther.symm.trans single)
    rfl
  case h_2 several => exact absurd single (several word)

theorem respects_dropletStatus : Respects DropletStatus.read := by
  intro value other same
  cases same with
  | refl value => rfl
  | array same => rfl
  | @object members others same =>
      by_cases single : ∃ word, DropletStatus.memberNames members = [word]
      · obtain ⟨word, isWord⟩ := single
        have found := same word
        rw [dropletStatus_object isWord,
          dropletStatus_object ((SameLookups.memberNames same word).mp isWord)]
        generalize Json.lookup word members = first at found ⊢
        generalize Json.lookup word others = second at found ⊢
        cases found with
        | none => rfl
        | some same =>
            cases same with
            | refl value => rfl
            | array same => rfl
            | object same => rfl
      · have several :
            ∀ members : List (String × Json),
              (¬ ∃ word, DropletStatus.memberNames members = [word]) →
                DropletStatus.read (.object members) =
                  .error .severalMembers := by
          intro members noSingle
          rw [DropletStatus.read]
          split
          case h_1 word isWord => exact absurd ⟨word, isWord⟩ noSingle
          case h_2 => rfl
        have otherSingle : ¬ ∃ word,
            DropletStatus.memberNames others = [word] := by
          rintro ⟨word, isWord⟩
          exact single ⟨word, (SameLookups.memberNames same word).mpr isWord⟩
        rw [several members single, several others otherSingle]

/-- What is read of two objects that give the same for every name. -/
theorem Field.visit_congr
    (field : Field α)
    {members others : List (String × Json)}
    (respects : Respects field.read)
    (same : SameLookups members others) :
    field.visit members = field.visit others := by
  have found := same field.name
  unfold Field.visit
  generalize Json.lookup field.name members = first at found ⊢
  generalize Json.lookup field.name others = second at found ⊢
  cases found with
  | none => rfl
  | some same => exact congrArg (Except.map some) (respects _ _ same)

/-- Results that differ only in items left over that say the same. -/
inductive SameResult :
    Except Mismatch (α × Cursor) → Except Mismatch (α × Cursor) → Prop where
  | error (mismatch : Mismatch) : SameResult (.error mismatch) (.error mismatch)
  | ok
      {items others : List Json}
      (value : α)
      (taken : Nat)
      (same : SameItems items others) :
      SameResult (.ok (value, ⟨taken, items⟩)) (.ok (value, ⟨taken, others⟩))

/-- A reader of items tells them apart only by what they say. -/
def ItemReader.Respects (reader : ItemReader α) : Prop :=
  ∀ taken items others,
    SameItems items others →
      SameResult (reader ⟨taken, items⟩) (reader ⟨taken, others⟩)

namespace ItemReader.Respects

theorem pure (value : α) : ItemReader.Respects (pure value : ItemReader α) :=
  fun taken _ _ same => .ok value taken same

theorem bind
    {reader : ItemReader α}
    {next : α → ItemReader β}
    (first : ItemReader.Respects reader)
    (later : ∀ value, ItemReader.Respects (next value)) :
    ItemReader.Respects (reader >>= next) := by
  intro taken items others same
  have result := first taken items others same
  change SameResult
    (reader ⟨taken, items⟩ >>= fun given => next given.1 given.2)
    (reader ⟨taken, others⟩ >>= fun given => next given.1 given.2)
  generalize reader ⟨taken, items⟩ = left at result ⊢
  generalize reader ⟨taken, others⟩ = right at result ⊢
  cases result with
  | error mismatch => exact .error mismatch
  | ok value taken same => exact later value taken _ _ same

theorem next
    {field : Field α}
    {name : String}
    {size : Nat}
    (respects : Record.Respects field.read) :
    ItemReader.Respects (field.next name size) := by
  intro taken items others same
  cases same with
  | nil =>
      unfold Field.next
      dsimp only
      cases field.fallback with
      | none => exact .error _
      | some value => exact .ok value _ .nil
  | cons first later =>
      unfold Field.next
      dsimp only
      rw [respects _ _ first]
      cases field.read _ with
      | error mismatch => exact .error mismatch
      | ok value => exact .ok value _ later

end ItemReader.Respects

theorem SameItems.length_eq :
    ∀ {items others : List Json},
      SameItems items others → items.length = others.length
  | _, _, .nil => rfl
  | _, _, .cons _ later => congrArg (· + 1) (length_eq later)

/--
A record is read in the same way from members and from items that say the same.
-/
structure Layout.Respects (layout : Layout α) : Prop where
  ofMembers :
    ∀ members others,
      SameLookups members others →
        layout.ofMembers members = layout.ofMembers others
  ofItems : ItemReader.Respects layout.ofItems

theorem Layout.Respects.decode
    {layout : Layout α}
    (respects : layout.Respects) :
    Record.Respects layout.decode := by
  intro value other same
  cases same with
  | refl value => rfl
  | object same => exact respects.ofMembers _ _ same
  | @array items others same =>
      have length := SameItems.length_eq same
      have result := respects.ofItems 0 items others same
      simp only [Layout.decode, bind, Except.bind]
      generalize layout.ofItems ⟨0, items⟩ = left at result ⊢
      generalize layout.ofItems ⟨0, others⟩ = right at result ⊢
      cases result with
      | error mismatch => rfl
      | ok value taken left =>
          cases left with
          | nil => rfl
          | cons first later => simp [length]

theorem respects_droplet : Droplet.layout.Respects where
  ofMembers members others same := by
    change Droplet.ofMembers members = Droplet.ofMembers others
    rw [Droplet.ofMembers, Droplet.ofMembers,
      Droplet.backupsActiveField.visit_congr respects_readFlag same,
      Droplet.createdField.visit_congr respects_timestamp same,
      Droplet.idField.visit_congr respects_readInt32 same,
      Droplet.imageIdField.visit_congr respects_readInt32 same,
      Droplet.ipField.visit_congr respects_readText same,
      Droplet.lockedField.visit_congr respects_readFlag same,
      Droplet.nameField.visit_congr respects_readText same,
      Droplet.privateIpField.visit_congr
        (respects_readNullable respects_readText) same,
      Droplet.regionIdField.visit_congr respects_readInt32 same,
      Droplet.sizeIdField.visit_congr respects_readInt32 same,
      Droplet.statusField.visit_congr respects_dropletStatus same]
  ofItems :=
    .bind (.next respects_readInt32) fun _ =>
    .bind (.next respects_readText) fun _ =>
    .bind (.next respects_readInt32) fun _ =>
    .bind (.next respects_readInt32) fun _ =>
    .bind (.next respects_readInt32) fun _ =>
    .bind (.next respects_readFlag) fun _ =>
    .bind (.next respects_readText) fun _ =>
    .bind (.next (respects_readNullable respects_readText)) fun _ =>
    .bind (.next respects_readFlag) fun _ =>
    .bind (.next respects_dropletStatus) fun _ =>
    .bind (.next respects_timestamp) fun _ =>
    .pure _

theorem respects_dropletCreation : DropletCreation.layout.Respects where
  ofMembers members others same := by
    change DropletCreation.ofMembers members = DropletCreation.ofMembers others
    rw [DropletCreation.ofMembers, DropletCreation.ofMembers,
      DropletCreation.eventIdField.visit_congr respects_readInt32 same,
      DropletCreation.idField.visit_congr respects_readInt32 same]
  ofItems :=
    .bind (.next respects_readInt32) fun _ =>
    .bind (.next respects_readInt32) fun _ =>
    .pure _

theorem respects_image : Image.layout.Respects where
  ofMembers members others same := by
    change Image.ofMembers members = Image.ofMembers others
    rw [Image.ofMembers, Image.ofMembers,
      Image.distributionField.visit_congr respects_readText same,
      Image.idField.visit_congr respects_readInt32 same,
      Image.nameField.visit_congr respects_readText same,
      Image.isPublicField.visit_congr respects_readFlag same,
      Image.slugField.visit_congr
        (respects_readNullable respects_readText) same]
  ofItems :=
    .bind (.next respects_readInt32) fun _ =>
    .bind (.next respects_readText) fun _ =>
    .bind (.next respects_readText) fun _ =>
    .bind (.next respects_readFlag) fun _ =>
    .bind (.next (respects_readNullable respects_readText)) fun _ =>
    .pure _

theorem respects_region : Region.layout.Respects where
  ofMembers members others same := by
    change Region.ofMembers members = Region.ofMembers others
    rw [Region.ofMembers, Region.ofMembers,
      Region.idField.visit_congr respects_readTextOrNumber same,
      Region.nameField.visit_congr respects_readText same,
      Region.slugField.visit_congr respects_readText same]
  ofItems :=
    .bind (.next respects_readTextOrNumber) fun _ =>
    .bind (.next respects_readText) fun _ =>
    .bind (.next respects_readText) fun _ =>
    .pure _

theorem respects_size : Size.layout.Respects where
  ofMembers members others same := by
    change Size.ofMembers members = Size.ofMembers others
    rw [Size.ofMembers, Size.ofMembers,
      Size.costPerHourField.visit_congr respects_readTextOrNumber same,
      Size.costPerMonthField.visit_congr respects_readTextOrNumber same,
      Size.cpuField.visit_congr respects_readInt32 same,
      Size.diskField.visit_congr respects_readInt32 same,
      Size.idField.visit_congr respects_readInt32 same,
      Size.memoryField.visit_congr respects_readInt32 same,
      Size.nameField.visit_congr respects_readText same,
      Size.slugField.visit_congr respects_readText same]
  ofItems :=
    .bind (.next respects_readInt32) fun _ =>
    .bind (.next respects_readText) fun _ =>
    .bind (.next respects_readText) fun _ =>
    .bind (.next respects_readInt32) fun _ =>
    .bind (.next respects_readInt32) fun _ =>
    .bind (.next respects_readInt32) fun _ =>
    .bind (.next respects_readTextOrNumber) fun _ =>
    .bind (.next respects_readTextOrNumber) fun _ =>
    .pure _

theorem respects_sshKey : SshKey.layout.Respects where
  ofMembers members others same := by
    change SshKey.ofMembers members = SshKey.ofMembers others
    rw [SshKey.ofMembers, SshKey.ofMembers,
      SshKey.idField.visit_congr respects_readInt32 same,
      SshKey.nameField.visit_congr respects_readText same,
      SshKey.publicKeyField.visit_congr respects_readOptionalLine same]
  ofItems :=
    .bind (.next respects_readInt32) fun _ =>
    .bind (.next respects_readText) fun _ =>
    .bind (.next respects_readOptionalLine) fun _ =>
    .pure _

theorem respects_event : Event.layout.Respects where
  ofMembers members others same := by
    change Event.ofMembers members = Event.ofMembers others
    rw [Event.ofMembers, Event.ofMembers,
      Event.statusField.visit_congr respects_eventStatus same,
      Event.dropletField.visit_congr
        (respects_readNullable respects_readInt32) same,
      Event.actionField.visit_congr
        (respects_readNullable respects_readInt32) same,
      Event.idField.visit_congr respects_readInt32 same,
      Event.percentageField.visit_congr
        (respects_readNullable respects_readTextOrNumber) same]
  ofItems :=
    .bind (.next respects_readInt32) fun _ =>
    .bind (.next respects_eventStatus) fun _ =>
    .bind (.next (respects_readNullable respects_readInt32)) fun _ =>
    .bind (.next (respects_readNullable respects_readInt32)) fun _ =>
    .bind (.next (respects_readNullable respects_readTextOrNumber)) fun _ =>
    .pure _

/-- The readers of everything that a payload can be. -/
inductive ReadsPayload : {α : Type} → (Json → Except Mismatch α) → Prop where
  | droplet : ReadsPayload Droplet.layout.decode
  | dropletCreation : ReadsPayload DropletCreation.layout.decode
  | image : ReadsPayload Image.layout.decode
  | region : ReadsPayload Region.layout.decode
  | size : ReadsPayload Size.layout.decode
  | sshKey : ReadsPayload SshKey.layout.decode
  | event : ReadsPayload Event.layout.decode
  | identifier : ReadsPayload readInt32
  | list
      {α : Type}
      {read : Json → Except Mismatch α}
      (reads : ReadsPayload read) :
      ReadsPayload (readList read)

theorem ReadsPayload.respects
    {α : Type}
    {read : Json → Except Mismatch α}
    (reads : ReadsPayload read) :
    Respects read := by
  induction reads with
  | droplet => exact respects_droplet.decode
  | dropletCreation => exact respects_dropletCreation.decode
  | image => exact respects_image.decode
  | region => exact respects_region.decode
  | size => exact respects_size.decode
  | sshKey => exact respects_sshKey.decode
  | event => exact respects_event.decode
  | identifier => exact respects_readInt32
  | list reads inductionHypothesis =>
      exact respects_readList inductionHypothesis

end DropletClient.Record
