import DropletClient.Proofs.Json.Arrangement
import DropletClient.Proofs.Json.WholeNumber
import DropletClient.Proofs.Record.Field
import DropletClient.Record.Catalog
import DropletClient.Record.Droplet

namespace DropletClient

/-!
# How the ids of regions are spelled

The id of a region arrives as a text or as a number. The droplets of a region
are known by it, if it is spelled in the way in which their number of the region
is written.
-/

namespace Json.Spelling

/-- The last member with a name is the one that is found under it. -/
theorem lookup_of_last
    {before after : List (Quoted × Spelling)}
    {name : Quoted}
    {spelling : Spelling}
    {key : String}
    {depth : Nat}
    {values : List (String × Json)}
    (isKey : name.text? = some key)
    (last : ∀ member ∈ after, member.1.text? ≠ some key)
    (reads :
      readMembers? depth (before ++ (name, spelling) :: after) = some values) :
    ∃ value,
      spelling.read? depth = some value ∧ lookup key values = some value := by
  obtain ⟨earlier, _, _, readsRest, rfl⟩ := readMembers?_append.mp reads
  obtain ⟨text, value, later, isText, isValue, readsAfter, rfl⟩ :=
    readMembers?_cons.mp readsRest
  refine ⟨value, isValue, ?_⟩
  have sameKey : text = key := Option.some.inj (isText.symm.trans isKey)
  have noLater : lookup key later = none := by
    rw [lookup_eq_none_iff]
    intro member inLater isAgain
    have names := names_eq_of_readMembers? readsAfter
    have named : some member.1 ∈ (object after).names := by
      rw [names]
      exact List.mem_map_of_mem inLater
    obtain ⟨found, inAfter, sameName⟩ := List.mem_map.mp named
    exact last found inAfter (by rw [sameName, isAgain])
  rw [lookup_append, lookup, noLater, sameKey, if_pos rfl]
  rfl

end Json.Spelling

namespace Region

open Identifier (Denotes IsCanonical)
open Json (Quoted Spelling)
open Record
open Text.Decimal (isDigit)

/--
What stands for the id where a region is spelled: a member of an object,
or an item.
-/
inductive SpellsId : Spelling → Spelling → Prop where
  | member
      {before after : List (Quoted × Spelling)}
      {name : Quoted}
      {id : Spelling}
      (isName : name.text? = some "id")
      (last : ∀ member ∈ after, member.1.text? ≠ some "id") :
      SpellsId (.object (before ++ (name, id) :: after)) id
  | item
      {id : Spelling}
      {later : List Spelling} :
      SpellsId (.array (id :: later)) id

private theorem idField_yields_ofMembers
    {members : List (String × Json)}
    {region : Region}
    (decodes : ofMembers members = .ok region) :
    idField.Yields region.id (Json.lookup "id" members) := by
  obtain ⟨id, visits, decodes⟩ := Outcome.bind_eq_ok.mp decodes
  obtain ⟨name, _, decodes⟩ := Outcome.bind_eq_ok.mp decodes
  obtain ⟨slug, _, decodes⟩ := Outcome.bind_eq_ok.mp decodes
  obtain ⟨settledId, settles, decodes⟩ := Outcome.bind_eq_ok.mp decodes
  obtain ⟨settledName, _, decodes⟩ := Outcome.bind_eq_ok.mp decodes
  obtain ⟨settledSlug, _, decodes⟩ := Outcome.bind_eq_ok.mp decodes
  cases decodes
  exact Field.yields_of_settle visits settles

private theorem idField_yields_ofItems
    {items : List Json}
    {region : Region}
    {cursor : Cursor}
    (decodes : ofItems ⟨0, items⟩ = .ok (region, cursor)) :
    idField.Yields region.id items.head? := by
  obtain ⟨⟨id, afterId⟩, reads, decodes⟩ := Outcome.bind_eq_ok.mp decodes
  obtain ⟨⟨name, afterName⟩, _, decodes⟩ := Outcome.bind_eq_ok.mp decodes
  obtain ⟨⟨slug, afterSlug⟩, _, decodes⟩ := Outcome.bind_eq_ok.mp decodes
  cases decodes
  exact (Field.yields_of_next reads).1

private theorem readTextOrNumber_of_yields
    {id : String}
    {json : Json}
    (yields : idField.Yields id (some json)) :
    readTextOrNumber json = .ok id := by
  cases yields with
  | given reads => exact reads

/-- A region is read from a value in which its id is spelled in some way. -/
def IsReadWith (region : Region) (id : Spelling) : Prop :=
  ∃ spelling depth record,
    SpellsId spelling id ∧
      spelling.read? depth = some record ∧ layout.decode record = .ok region

example :
    IsReadWith ⟨"05", "Amsterdam", "ams5"⟩ (.scalar (.quoted (.ofText "05"))) :=
  ⟨.array
      [.scalar (.quoted (.ofText "05")),
        .scalar (.quoted (.ofText "Amsterdam")),
        .scalar (.quoted (.ofText "ams5"))],
    0, .array [.text "05", .text "Amsterdam", .text "ams5"], .item, rfl, rfl⟩

/--
A droplet is in a region if the id of the region is what the droplet knows the
region by.
-/
def Hosts (region : Region) (droplet : Droplet) : Prop :=
  region.id = Identifier.text droplet.regionId

variable {region : Region}

/-- The id of a region is the text or the number that is spelled for it. -/
theorem IsReadWith.exists_value
    {id : Spelling}
    (isRead : region.IsReadWith id) :
    ∃ depth value,
      id.read? depth = some value ∧ readTextOrNumber value = .ok region.id := by
  obtain ⟨spelling, depth, record, spelled, reads, decodes⟩ := isRead
  refine ⟨depth + 1, ?_⟩
  cases spelled with
  | member isName last =>
      obtain ⟨_, values, readsMembers, rfl⟩ := Spelling.read?_object.mp reads
      obtain ⟨value, isValue, found⟩ :=
        Spelling.lookup_of_last isName last readsMembers
      have yields := idField_yields_ofMembers decodes
      rw [found] at yields
      exact ⟨value, isValue, readTextOrNumber_of_yields yields⟩
  | item =>
      obtain ⟨_, values, readsItems, rfl⟩ := Spelling.read?_array.mp reads
      obtain ⟨value, later, isValue, _, rfl⟩ :=
        Spelling.readItems?_cons.mp readsItems
      obtain ⟨cursor, readsRecord⟩ := Layout.ofItems_of_decode decodes
      exact ⟨value, isValue,
        readTextOrNumber_of_yields (idField_yields_ofItems readsRecord)⟩

/--
A region that is known by a text hosts the droplets for which the text is
canonical.
-/
theorem hosts_iff_of_text
    {parts : Quoted}
    {word : String}
    (isRead : region.IsReadWith (.scalar (.quoted parts)))
    (isWord : parts.text? = some word)
    (droplet : Droplet) :
    region.Hosts droplet ↔ IsCanonical word.toList droplet.regionId.toInt := by
  obtain ⟨depth, value, isValue, isId⟩ := isRead.exists_value
  have isText : value = .text word := by
    simpa [Spelling.read?, Json.Scalar.value?, Json.Scalar.token?, isWord] using
      isValue.symm
  cases isText
  cases isId
  exact Identifier.eq_text_iff

section

variable {first : Char} {rest : List Char}
  {begins : (isDigit first || first == '-') = true}
  {goesOn : ∀ character ∈ rest, Json.isNumeralCharacter character = true}

/-- The id that is spelled as a number is the text of that number. -/
theorem IsReadWith.exists_number
    (isRead : region.IsReadWith (.scalar (.numeral first rest begins goesOn))) :
    ∃ number, Json.readNumber? (first :: rest) = some number ∧
      region.id = number.text := by
  obtain ⟨depth, value, isValue, isId⟩ := isRead.exists_value
  cases isNumber : Json.readNumber? (first :: rest) with
  | none =>
      simp [Spelling.read?, Json.Scalar.value?, Json.Scalar.token?, isNumber]
        at isValue
  | some number =>
      have isJson : value = .number number := by
        simpa [Spelling.read?, Json.Scalar.value?, Json.Scalar.token?, isNumber]
          using isValue.symm
      cases isJson
      exact ⟨number, rfl, (Except.ok.inj isId).symm⟩

/--
A region that is known by a number hosts the droplets for which its numeral is
canonical.
-/
theorem hosts_iff_of_numeral
    (isRead : region.IsReadWith (.scalar (.numeral first rest begins goesOn)))
    (droplet : Droplet) :
    region.Hosts droplet ↔
      IsCanonical (first :: rest) droplet.regionId.toInt := by
  obtain ⟨number, isNumber, isId⟩ := isRead.exists_number
  rw [Hosts, isId]
  exact Json.text_eq_identifier_iff isNumber droplet.regionId

/--
A region that is known by an integer hosts the droplets with this number of
their region.
-/
theorem hosts_iff_of_integer
    {value : Int}
    (isRead : region.IsReadWith (.scalar (.numeral first rest begins goesOn)))
    (denotes : Denotes (first :: rest) value)
    (notMinusZero : first :: rest ≠ ['-', '0'])
    (droplet : Droplet) :
    region.Hosts droplet ↔ droplet.regionId.toInt = value := by
  obtain ⟨number, isNumber, _⟩ := isRead.exists_number
  have canonical :=
    Json.isCanonical_of_readNumber? isNumber denotes notMinusZero
  rw [hosts_iff_of_numeral isRead]
  constructor
  · exact fun otherwise => otherwise.denotes.unique denotes
  · rintro rfl
    exact canonical

/--
A region that is known by another number, or by minus zero, hosts no droplets.
-/
theorem not_hosts_of_numeral
    (isRead : region.IsReadWith (.scalar (.numeral first rest begins goesOn)))
    (noInteger : (∀ value, ¬ Denotes (first :: rest) value) ∨
      first :: rest = ['-', '0'])
    (droplet : Droplet) :
    ¬ region.Hosts droplet := by
  rw [hosts_iff_of_numeral isRead]
  intro canonical
  rcases noInteger with undenoted | minusZero
  · exact undenoted _ canonical.denotes
  · exact canonical.ne_minusZero minusZero

end

end Region

end DropletClient
