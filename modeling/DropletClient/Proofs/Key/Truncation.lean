import DropletClient.Proofs.Key.NormalForm

namespace DropletClient

/-!
# Truncated keys

A payload that was cut is not read as any key. Where the cut leaves canonical
base64, bytes are missing at the end, and what is left holds too few fields;
where it leaves less than the beginning of a payload, there is no payload on
the line.
-/

namespace Key

/-- Only fields that are short enough are written. -/
theorem Wire.fits_of_writeAll
    {parts : List (List UInt8)}
    {bytes : List UInt8}
    (writes : writeAll parts = .ok bytes) :
    ∀ part ∈ parts, part.length < lengthLimit := by
  induction parts generalizing bytes with
  | nil => exact List.forall_mem_nil _
  | cons part rest inductionHypothesis =>
      obtain ⟨first, writesFirst, writesRest⟩ := Outcome.bind_eq_ok.mp writes
      obtain ⟨later, writesLater, -⟩ := Outcome.bind_eq_ok.mp writesRest
      refine List.forall_mem_cons.mpr ⟨?_, inductionHypothesis writesLater⟩
      rw [write] at writesFirst
      split at writesFirst
      case isTrue fits => exact fits
      case isFalse => cases writesFirst

end Key

namespace PublicKey

open Key

variable {label written : String} {key other : PublicKey}
  {bytes surplus : List UInt8} {parts : List (List UInt8)}

/-- What is written of a key that can be written. -/
theorem exists_lineWith_of_toLine
    (writes : key.toLine = .ok written) :
    ∃ label,
      key.label? = some label ∧
        (∀ component ∈ key.components,
          component.2.bytes.length < Wire.lengthLimit) ∧
        written = lineWith label (payloadBytes label key) := by
  obtain ⟨⟨label, bytes⟩, writesBytes, -⟩ := Outcome.bind_eq_ok.mp writes
  obtain ⟨⟨first, parts⟩, fields, writesParts⟩ :=
    Outcome.bind_eq_ok.mp writesBytes
  obtain ⟨all, writesAll, -⟩ := Outcome.bind_eq_ok.mp writesParts
  have shape :
      key.label? = some first ∧
        parts = key.components.map fun component => component.2.bytes := by
    cases key <;> cases fields <;> exact ⟨rfl, rfl⟩
  obtain ⟨labelled, rfl⟩ := shape
  have fits :
      ∀ component ∈ key.components,
        component.2.bytes.length < Wire.lengthLimit := by
    intro component member
    refine Wire.fits_of_writeAll writesAll _ (List.mem_cons_of_mem _ ?_)
    exact List.mem_map_of_mem member
  have sameLine := writes.symm.trans (toLine_eq labelled fits)
  exact ⟨first, labelled, fits, Except.ok.inj sameLine⟩

/-- The payload of a key holds the fields of its components and nothing else. -/
theorem payloadBytes_holds
    (label : String)
    (fits : ∀ component ∈ key.components,
      component.2.bytes.length < Wire.lengthLimit) :
    Holds (payloadBytes label key) label
      (key.components.map fun component => component.2.bytes) [] := by
  constructor
  · intro part member
    obtain ⟨component, componentMember, rfl⟩ := List.mem_map.mp member
    exact fits component componentMember
  · rw [payloadBytes, List.append_nil]

/-- Bytes hold one label only. -/
theorem Holds.label_unique
    {otherLabel : String}
    {otherParts : List (List UInt8)}
    {otherSurplus : List UInt8}
    (holds : Holds bytes label parts surplus)
    (otherwise : Holds bytes otherLabel otherParts otherSurplus)
    (labelled : key.label? = some label)
    (otherLabelled : other.label? = some otherLabel) :
    label = otherLabel := by
  have reads :=
    nextLabel_field (label_eq labelled) (parts.flatMap Wire.field ++ surplus)
  have otherReads :=
    nextLabel_field (label_eq otherLabelled)
      (otherParts.flatMap Wire.field ++ otherSurplus)
  rw [← List.append_assoc, ← List.flatMap_cons, ← holds.framed] at reads
  rw [← List.append_assoc, ← List.flatMap_cons, ← otherwise.framed, reads]
    at otherReads
  exact congrArg Prod.fst (Except.ok.inj otherReads)

/-- Keys with the same label have as many components. -/
theorem length_components_of_label
    (labelled : key.label? = some label)
    (otherLabelled : other.label? = some label) :
    key.components.length = other.components.length := by
  have different : rsaLabel ≠ dsaLabel := by decide
  cases key <;> cases labelled <;> cases other <;>
    simp_all [label?, components, eq_comm]

/-- A cut payload holds too few fields for its label. -/
theorem ofBytes_of_cut
    {cut more : List UInt8}
    (labelled : key.label? = some label)
    (fits : ∀ component ∈ key.components,
      component.2.bytes.length < Wire.lengthLimit)
    (something : more ≠ [])
    (whole : payloadBytes label key = cut ++ more) :
    ∃ fault, ofBytes cut = .error fault := by
  cases reads : ofBytes cut with
  | error fault => exact ⟨fault, rfl⟩
  | ok other =>
      obtain ⟨otherLabel, parts, surplus, otherLabelled, holdsCut,
          shortened, -⟩ :=
        exists_holds_of_ofBytes reads
      -- the whole payload would hold the fields that were read, with what was
      -- cut off as a surplus
      have holds := payloadBytes_holds label fits
      have holdsLonger :
          Holds (payloadBytes label key) otherLabel parts (surplus ++ more) :=
        ⟨holdsCut.fits, by rw [whole, holdsCut.framed, List.append_assoc]⟩
      obtain rfl := holds.label_unique holdsLonger labelled otherLabelled
      have sameLength :
          (key.components.map fun component => component.2.bytes).length =
            parts.length := by
        have lengths := congrArg List.length shortened
        rw [List.length_map, List.length_map] at lengths
        rw [List.length_map,
          length_components_of_label labelled otherLabelled, lengths]
      have fitsLabel := length_textBytes_lt (label_eq labelled)
      have nothing := (holds.unique holdsLonger sameLength fitsLabel).2
      exact absurd (List.append_eq_nil_iff.mp nothing.symm).2 something

/--
A cut payload that is still base64 stands for bytes that were cut as well.
-/
theorem exists_append_of_payloadText_prefix
    {cut : List Char}
    {left : List UInt8}
    (cuts : cut <+: payloadText bytes)
    (shorter : cut ≠ payloadText bytes)
    (decoded : Base64.decode (Text.Utf8.encode cut) = .ok left) :
    ∃ more, more ≠ [] ∧ bytes = left ++ more := by
  have isText := eq_payloadText_of_decode decoded
  rw [isText] at cuts shorter
  obtain ⟨rest, whole⟩ := cuts
  have cutsBytes : Base64.encode left <+: Base64.encode bytes := by
    refine ⟨Text.Utf8.encode rest, ?_⟩
    rw [← encode_payloadText, ← encode_payloadText, ← whole]
    exact List.flatMap_append.symm
  exact Base64.exists_append_of_encode_prefix cutsBytes fun same =>
    shorter (congrArg (List.map Text.Utf8.asciiCharacter) same)

/--
A word beside a payload: it holds no white space and does not begin like
a payload.
-/
structure IsAside (word : List Char) : Prop where
  visible : ∀ character ∈ word, Text.isBlank character = false
  foreign : ¬ payloadStart <+: word

theorem isAside_of_all
    {word : List Char}
    (visible : word.all (fun character => !Text.isBlank character) = true)
    (foreign : payloadStart.isPrefixOf word = false) :
    IsAside word := by
  constructor
  · intro character member
    simpa using List.all_eq_true.mp visible character member
  · intro begins
    cases foreign.symm.trans (List.isPrefixOf_iff_prefix.mpr begins)

/-- A line of a payload, with words in front of it and behind it. -/
def lineOf
    (before : List (List Char))
    (payload : List Char)
    (after : List (List Char)) :
    String :=
  String.ofList (Text.join [' '] (before ++ payload :: after))

/--
Trimming takes nothing from a payload if there is no other white space than
the space.
-/
theorem payloadToken?_ofList
    {text : List Char}
    (spaced : ∀ character ∈ text,
      Text.isBlank character = true → character = ' ') :
    payloadToken? (String.ofList text) =
      (Text.split ' ' text).find? payloadStart.isPrefixOf := by
  obtain ⟨front, back, shape, blank⟩ := Text.exists_blanks_of_trim text
  have spaces :
      ∀ part,
        part ⊆ text → part ⊆ front ++ back →
          part = List.replicate part.length ' ' := by
    intro part inText inBlanks
    refine List.eq_replicate_iff.mpr ⟨rfl, fun character member => ?_⟩
    exact spaced character (inText member) (blank character (inBlanks member))
  have spacesFront := spaces front
    (fun _ member => shape ▸ List.mem_append_left _ member)
      (List.subset_append_left ..)
  have spacesBack := spaces back
    (fun _ member =>
      shape ▸ List.mem_append_right _ (List.mem_append_right _ member))
    (List.subset_append_right ..)
  -- the spaces around the text only add empty parts to it
  have nothing : ∀ count,
      (List.replicate count []).find? payloadStart.isPrefixOf = none := by
    intro count
    refine List.find?_eq_none.mpr fun part member => ?_
    rw [List.eq_of_mem_replicate member]
    decide
  rw [payloadToken?, String.toList_ofList]
  conv => rhs; rw [shape, spacesFront, spacesBack]
  rw [Text.split_replicate_append, Text.split_append_replicate,
    List.find?_append, nothing, List.find?_append, nothing, Option.none_or,
    Option.or_none]

section Lines

variable {before after : List (List Char)} {payload : List Char}

/-- Words without white space are what the line of them is split into. -/
private theorem payloadToken?_words
    {words : List (List Char)}
    (some : words ≠ [])
    (visible : ∀ word ∈ words,
      ∀ character ∈ word, Text.isBlank character = false) :
    payloadToken? (String.ofList (Text.join [' '] words)) =
      words.find? payloadStart.isPrefixOf := by
  have noSpace : ∀ word ∈ words, ' ' ∉ word := by
    intro word member inWord
    have blank : Text.isBlank ' ' = true := by decide
    cases blank.symm.trans (visible word member ' ' inWord)
  rw [payloadToken?_ofList, Text.split_join some noSpace]
  intro character member blank
  rcases Text.mem_join member with isSpace | ⟨word, wordMember, inWord⟩
  · exact List.mem_singleton.mp isSpace
  · cases blank.symm.trans (visible word wordMember character inWord)

/-- Only the payload is found on a line, and only if it begins like one. -/
theorem payloadToken?_lineOf
    (aside : ∀ word ∈ before ++ after, IsAside word)
    (visible : ∀ character ∈ payload, Text.isBlank character = false) :
    payloadToken? (lineOf before payload after) =
      if payloadStart.isPrefixOf payload then some payload else none := by
  have visibleWords :
      ∀ word ∈ before ++ payload :: after, ∀ character ∈ word,
        Text.isBlank character = false := by
    intro word member
    rcases List.mem_append.mp member with inFront | inRest
    · exact (aside word (List.mem_append_left _ inFront)).visible
    · rcases List.mem_cons.mp inRest with rfl | behind
      · exact visible
      · exact (aside word (List.mem_append_right _ behind)).visible
  have nowhere :
      ∀ words : List (List Char), words ⊆ before ++ after →
        words.find? payloadStart.isPrefixOf = none := by
    intro words subset
    refine List.find?_eq_none.mpr fun word member begins => ?_
    exact (aside word (subset member)).foreign
      (List.isPrefixOf_iff_prefix.mp begins)
  rw [lineOf, payloadToken?_words (by simp) visibleWords, List.find?_append,
    nowhere before (List.subset_append_left ..), Option.none_or,
      List.find?_cons,
    nowhere after (List.subset_append_right ..)]
  cases payloadStart.isPrefixOf payload <;> rfl

/-- A cut payload is refused on every line. -/
theorem ofLine_of_cut
    {cut : List Char}
    (labelled : key.label? = some label)
    (fits : ∀ component ∈ key.components,
      component.2.bytes.length < Wire.lengthLimit)
    (cuts : cut <+: payloadText (payloadBytes label key))
    (shorter : cut ≠ payloadText (payloadBytes label key))
    (aside : ∀ word ∈ before ++ after, IsAside word) :
    ∃ fault, ofLine (lineOf before cut after) = .error fault := by
  have visible : ∀ character ∈ cut, Text.isBlank character = false :=
    fun character member => isBlank_payloadText (cuts.subset member)
  have untrimmed : Text.trimEnd cut = cut :=
    Text.trimEnd_eq_self fun character ends =>
      visible character (List.mem_of_getLast? ends)
  have payload :=
    congrArg (Option.map Text.trimEnd) (payloadToken?_lineOf aside visible)
  change payload? (lineOf before cut after) = _ at payload
  cases begins : payloadStart.isPrefixOf cut with
  | false =>
      rw [begins] at payload
      exact ⟨.noPayload, by rw [ofLine, payload]; rfl⟩
  | true =>
      rw [begins, if_pos rfl, Option.map_some, untrimmed] at payload
      cases decoded : Base64.decode (Text.Utf8.encode cut) with
      | error fault =>
          refine ⟨.payload fault, ?_⟩
          rw [ofLine, payload]
          simp only [decoded]
      | ok left =>
          obtain ⟨more, something, whole⟩ :=
            exists_append_of_payloadText_prefix cuts shorter decoded
          rw [ofLine_eq_ofBytes payload decoded]
          exact ofBytes_of_cut labelled fits something whole

end Lines

/--
If a key is written, then its line is refused with any shorter beginning of its
payload in place of the payload. This holds with the label and the comment and
without, and with any other words beside the payload that are no payload
themselves.
-/
theorem truncated_payloads_are_refused
    (writes : key.toLine = .ok written) :
    ∃ label payload,
      Text.split ' ' written.toList = [label, payload, comment.toList] ∧
        IsAside label ∧
        IsAside comment.toList ∧
        ∀ cut before after,
          cut <+: payload →
            cut ≠ payload →
            (∀ word ∈ before ++ after, IsAside word) →
            ∃ fault, ofLine (lineOf before cut after) = .error fault := by
  obtain ⟨label, labelled, fits, rfl⟩ := exists_lineWith_of_toLine writes
  refine ⟨label.toList, payloadText (payloadBytes label key),
    split_lineWith labelled _, ?_, ?_,
    fun cut before after cuts shorter aside =>
      ofLine_of_cut labelled fits cuts shorter aside⟩
  · rcases label_eq labelled with rfl | rfl <;>
      exact isAside_of_all (by decide) (by decide)
  · exact isAside_of_all (by decide) (by decide)

/--
An RSA key that is cut between its exponent and its modulus is refused, as a
line and alone.
-/
theorem truncated_payloads_are_refused_between_fields :
    (PublicKey.rsa ⟨[1, 0, 1], rfl⟩ ⟨[0, 0xc5, 1], rfl⟩).toLine =
        .ok "ssh-rsa AAAAB3NzaC1yc2EAAAADAQABAAAAAwDFAQ== user@host" ∧
      (∃ fault,
        ofLine "ssh-rsa AAAAB3NzaC1yc2EAAAADAQAB user@host" = .error fault) ∧
      ∃ fault, ofLine "AAAAB3NzaC1yc2EAAAADAQAB" = .error fault := by
  have writes :
      (PublicKey.rsa ⟨[1, 0, 1], rfl⟩ ⟨[0, 0xc5, 1], rfl⟩).toLine =
        .ok "ssh-rsa AAAAB3NzaC1yc2EAAAADAQABAAAAAwDFAQ== user@host" := rfl
  obtain ⟨label, payload, splits, asideLabel, asideComment, refused⟩ :=
    truncated_payloads_are_refused writes
  have shape :
      Text.split ' '
          "ssh-rsa AAAAB3NzaC1yc2EAAAADAQABAAAAAwDFAQ== user@host".toList =
        [rsaLabel.toList, "AAAAB3NzaC1yc2EAAAADAQABAAAAAwDFAQ==".toList,
          comment.toList] :=
    rfl
  obtain ⟨rfl, rfl⟩ : label = rsaLabel.toList ∧
      payload = "AAAAB3NzaC1yc2EAAAADAQABAAAAAwDFAQ==".toList := by
    have same := splits.symm.trans shape
    injection same with sameLabel sameRest
    injection sameRest with samePayload
    exact ⟨sameLabel, samePayload⟩
  have cuts :
      "AAAAB3NzaC1yc2EAAAADAQAB".toList <+:
        "AAAAB3NzaC1yc2EAAAADAQABAAAAAwDFAQ==".toList := by
    decide
  have labelled :
      lineOf [rsaLabel.toList] "AAAAB3NzaC1yc2EAAAADAQAB".toList
          [comment.toList] =
        "ssh-rsa AAAAB3NzaC1yc2EAAAADAQAB user@host" := rfl
  have alone : lineOf [] "AAAAB3NzaC1yc2EAAAADAQAB".toList [] =
      "AAAAB3NzaC1yc2EAAAADAQAB" :=
    rfl
  rw [← labelled, ← alone]
  refine ⟨writes, ?_, refused _ [] [] cuts (by decide) (List.forall_mem_nil _)⟩
  refine refused _ [rsaLabel.toList] [comment.toList] cuts (by decide) ?_
  exact List.forall_mem_cons.mpr
    ⟨asideLabel, List.forall_mem_cons.mpr ⟨asideComment, List.forall_mem_nil _⟩⟩

end PublicKey

end DropletClient
