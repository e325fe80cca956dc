import DropletClient.Proofs.CommandLine.Accomplishment
import DropletClient.Proofs.Identifier
import DropletClient.Proofs.Portable.ImageName
import DropletClient.Proofs.Text.Parts

namespace DropletClient.CommandLine

/-!
# Listings as tables

A listing is a line for each entity, with tabs between its columns, and it is
read as a table again. Texts of the provider are listed as they came, so that a
tab or a line feed in one of them breaks the table, and one row can pass for two
(`region_name_forges_row`). Nothing else breaks it: `listings_are_tables_iff` is
the main result.
-/

/-- A text that neither ends a column nor a line. -/
def FitsColumn (text : String) : Prop :=
  '\t' ∉ text.toList ∧ '\n' ∉ text.toList

instance (text : String) : Decidable (FitsColumn text) :=
  inferInstanceAs (Decidable (_ ∧ _))

/--
So many lines, each ended by a line feed, of so many columns with tabs
between them.
-/
def IsTable (width height : Nat) (output : String) : Prop :=
  ∃ lines : List (List Char),
    output.toList = lines.flatMap (· ++ ['\n']) ∧
      lines.length = height ∧
      ∀ line ∈ lines, '\n' ∉ line ∧ (Text.split '\t' line).length = width

/--
The rows of a table: what stands between tabs on the lines that a line
feed ends.
-/
def rows (output : String) : List (List String) :=
  (Text.split '\n' output.toList).dropLast.map fun line =>
    (Text.split '\t' line).map String.ofList

/-- The columns on a line, without the line feed. -/
def joined (columns : List String) : List Char :=
  Text.join ['\t'] (columns.map String.toList)

theorem toList_line
    (columns : List String) :
    (line columns).toList = joined columns ++ ['\n'] := by
  rw [line, String.toList_append, Text.joinStrings, String.toList_ofList]
  rfl

theorem listing_map
    (columns : β → List String)
    (convert : α → β)
    (items : List α) :
    listing columns (items.map convert) =
      listing (fun item => columns (convert item)) items := by
  rw [listing, List.map_map]
  rfl

theorem toList_listing
    (columns : α → List String)
    (entities : List α) :
    (listing columns entities).toList =
      (entities.map fun entity => joined (columns entity)).flatMap
        (· ++ ['\n']) := by
  rw [listing, Text.joinStrings, String.toList_ofList]
  change Text.join [] _ = _
  rw [Text.join_nil_eq_flatten, List.map_map, List.flatMap_map,
    List.flatMap_def]
  simp only [Function.comp_def, toList_line]

section

variable {columns : List String}

/-- Columns of texts that fit hold no line feed. -/
theorem lineFeed_not_mem_joined
    (fit : ∀ column ∈ columns, FitsColumn column) :
    '\n' ∉ joined columns := by
  intro member
  rcases Text.mem_join member with isTab | ⟨_, isColumn, inColumn⟩
  · cases List.mem_singleton.mp isTab
  · obtain ⟨column, present, rfl⟩ := List.mem_map.mp isColumn
    exact (fit column present).2 inColumn

/-- Columns of texts that fit are told apart again. -/
theorem split_joined
    (some : columns ≠ [])
    (fit : ∀ column ∈ columns, FitsColumn column) :
    Text.split '\t' (joined columns) = columns.map String.toList := by
  refine Text.split_join (by simpa using some) ?_
  intro part isColumn
  obtain ⟨column, present, rfl⟩ := List.mem_map.mp isColumn
  exact (fit column present).1

/--
Texts fit if they hold no line feed and make no columns besides their own.
-/
theorem fit_of_length_split
    (some : columns ≠ [])
    (noLineFeed : '\n' ∉ joined columns)
    (counted : (Text.split '\t' (joined columns)).length = columns.length) :
    ∀ column ∈ columns, FitsColumn column := by
  have noTab : '\t' ∉ (columns.map String.toList).flatten := by
    have positive := List.length_pos_iff.mpr some
    rw [Text.length_split, joined, Text.count_join, List.length_map] at counted
    exact List.count_eq_zero.mp (by omega)
  intro column present
  have isColumn := List.mem_map_of_mem (f := String.toList) present
  refine ⟨fun inColumn => noTab (List.mem_flatten_of_mem isColumn inColumn),
    fun inColumn => ?_⟩
  exact noLineFeed (Text.mem_join_of_mem isColumn inColumn)

end

section

variable {columns : α → List String} {entities : List α} {width : Nat}

/--
A listing is a table of its entities if and only if the text of every
column fits.
-/
theorem isTable_listing_iff
    (someColumns : 0 < width)
    (even : ∀ entity ∈ entities, (columns entity).length = width) :
    IsTable width entities.length (listing columns entities) ↔
      ∀ entity ∈ entities, ∀ column ∈ columns entity, FitsColumn column := by
  have anyColumn (entity : α) (listed : entity ∈ entities) :
      columns entity ≠ [] :=
    List.length_pos_iff.mp (even entity listed ▸ someColumns)
  unfold IsTable
  rw [toList_listing]
  constructor
  · rintro ⟨lines, shape, counted, regular⟩
    have noLineFeed : ∀ line ∈ lines, '\n' ∉ line :=
      fun line present => (regular line present).1
    have noneInLines : '\n' ∉ lines.flatten := by
      intro member
      obtain ⟨line, present, inLine⟩ := List.mem_flatten.mp member
      exact noLineFeed line present inLine
    -- There are as many line feeds as lines, so none is left for the columns.
    have countedFeeds := congrArg (List.count '\n') shape
    rw [Text.count_terminated, Text.count_terminated, List.length_map, counted,
      List.count_eq_zero.mpr noneInLines] at countedFeeds
    have noFeed := List.count_eq_zero.mp (Nat.add_right_cancel countedFeeds)
    have absent : ∀ line ∈ entities.map fun entity => joined (columns entity),
        '\n' ∉ line :=
      fun line present inLine => noFeed (List.mem_flatten_of_mem present inLine)
    have sameLines := congrArg (Text.split '\n') shape
    rw [Text.split_terminated absent, Text.split_terminated noLineFeed]
      at sameLines
    have areLines := List.append_cancel_right sameLines
    intro entity listed
    have isLine :=
      List.mem_map_of_mem (f := fun entity => joined (columns entity)) listed
    refine fit_of_length_split (anyColumn entity listed) (absent _ isLine) ?_
    rw [areLines] at isLine
    exact (regular _ isLine).2.trans (even entity listed).symm
  · intro fit
    refine ⟨_, rfl, List.length_map _, ?_⟩
    intro line isLine
    obtain ⟨entity, listed, rfl⟩ := List.mem_map.mp isLine
    refine ⟨lineFeed_not_mem_joined (fit entity listed), ?_⟩
    rw [split_joined (anyColumn entity listed) (fit entity listed),
      List.length_map]
    exact even entity listed

/--
The rows of a listing are the columns of its entities, if their texts fit.
-/
theorem rows_listing
    (some : ∀ entity ∈ entities, columns entity ≠ [])
    (fit : ∀ entity ∈ entities, ∀ column ∈ columns entity, FitsColumn column) :
    rows (listing columns entities) = entities.map columns := by
  have noLineFeed : ∀ line ∈ entities.map fun entity => joined (columns entity),
      '\n' ∉ line := by
    intro line isLine
    obtain ⟨entity, listed, rfl⟩ := List.mem_map.mp isLine
    exact lineFeed_not_mem_joined (fit entity listed)
  rw [rows, toList_listing, Text.split_terminated noLineFeed,
    List.dropLast_concat, List.map_map]
  refine List.map_congr_left fun entity listed => ?_
  rw [Function.comp_apply,
    split_joined (some entity listed) (fit entity listed), List.map_map]
  simp [Function.comp_def]

end

section

variable {first second : String}

theorem fitsColumn_append :
    FitsColumn (first ++ second) ↔ FitsColumn first ∧ FitsColumn second := by
  simp only [FitsColumn, String.toList_append, List.mem_append, not_or]
  exact and_and_and_comm

/-- A number fits. -/
theorem fitsColumn_text
    (id : Int32) :
    FitsColumn (Identifier.text id) :=
  ⟨Identifier.not_mem_text (by decide) (by decide) id,
    Identifier.not_mem_text (by decide) (by decide) id⟩

/-- A state fits. -/
theorem fitsColumn_label
    (status : NodeStatus) :
    FitsColumn status.label := by
  cases status <;> decide

/-- A family fits. -/
theorem fitsColumn_displayName
    (family : OsFamily) :
    FitsColumn family.displayName := by
  cases family <;> decide

/-- An architecture fits if the name that it is read from does. -/
theorem fitsColumn_arch
    {name : String}
    (fits : FitsColumn name)
    (distribution : String) :
    FitsColumn (OperatingSystem.ofImageNames distribution name).arch := by
  have isPart {character : Char} (absent : character ∉ name.toList) :
      character ∉
        (OperatingSystem.ofImageNames distribution name).arch.toList := by
    rw [OperatingSystem.ofImageNames, String.toList_ofList]
    exact mt OperatingSystem.mem_of_mem_firstArchitecture absent
  exact ⟨isPart fits.1, isPart fits.2⟩

/-- What is not known fits. -/
theorem fitsColumn_orDash
    {value : Option String} :
    FitsColumn (orDash value) ↔ ∀ text ∈ value.toList, FitsColumn text := by
  cases value with
  | none => exact iff_of_true (by decide) (List.forall_mem_nil _)
  | some text => exact List.forall_mem_singleton.symm

end

/--
An entity that is listed: its columns, and the texts of the provider that they
come from.
-/
structure Listed where
  columns : List String
  texts : List String

namespace Listed

/-- The texts of the provider fit. -/
def Fits (listed : Listed) : Prop :=
  ∀ text ∈ listed.texts, FitsColumn text

/-- A droplet, as a node with what the catalog has for it. -/
def ofDroplet
    (catalog : Catalog)
    (groupOf : String → Option String)
    (droplet : Droplet) : Listed where
  columns := nodeColumns (catalog.toNode groupOf droplet)
  texts :=
    [droplet.name, droplet.ip] ++
      ((catalog.sizes.find? fun size => size.id == droplet.sizeId).map
        Size.name).toList ++
      ((catalog.regions.find? fun region =>
        region.id == Identifier.text droplet.regionId).map
          Region.slug).toList ++
      ((catalog.images.find? fun image => image.id == droplet.imageId).map
        Image.name).toList

/-- An image. -/
def ofImage (image : Image) : Listed where
  columns := imageColumns image.toPortable
  texts := [image.name]

/-- A size. -/
def ofSize (size : Size) : Listed where
  columns := sizeColumns size
  texts := [size.name, size.costPerHour]

/-- A region. -/
def ofRegion (region : Region) : Listed where
  columns := regionColumns region
  texts := [region.id, region.slug, region.name]

/-- The columns of an entity fit if and only if the texts of the provider do. -/
def IsSound (listed : Listed) : Prop :=
  (∀ column ∈ listed.columns, FitsColumn column) ↔ listed.Fits

theorem isSound_ofDroplet
    (catalog : Catalog)
    (groupOf : String → Option String)
    (droplet : Droplet) :
    (ofDroplet catalog groupOf droplet).IsSound := by
  have sizeName :
      (catalog.hardware? droplet.sizeId).map Hardware.name =
        (catalog.sizes.find? fun size => size.id == droplet.sizeId).map
          Size.name := by
    rw [Catalog.hardware?, Option.map_map]
    rfl
  have slug :
      (catalog.location? droplet.regionId).map Location.slug =
        (catalog.regions.find? fun region =>
          region.id == Identifier.text droplet.regionId).map Region.slug := by
    rw [Catalog.location?, Option.map_map]
    rfl
  have imageName :
      (catalog.operatingSystem? droplet.imageId).map
          OperatingSystem.description =
        (catalog.images.find? fun image => image.id == droplet.imageId).map
          Image.name := by
    rw [Catalog.operatingSystem?, Option.map_map]
    rfl
  have address : Text.joinStrings "," [droplet.ip] = droplet.ip :=
    String.ofList_toList
  simp only [IsSound, Fits, ofDroplet, nodeColumns, Catalog.toNode,
    List.forall_mem_cons, List.forall_mem_append, List.not_mem_nil,
    false_imp_iff, implies_true, fitsColumn_text, fitsColumn_label, sizeName,
    slug, imageName, address, fitsColumn_orDash, true_and, and_true, and_assoc]

theorem isSound_ofImage
    (image : Image) :
    (ofImage image).IsSound := by
  have arch (fits : FitsColumn image.name) :=
    fitsColumn_arch fits image.distribution
  simp only [IsSound, Fits, ofImage, imageColumns, Image.toPortable,
    List.forall_mem_cons, List.not_mem_nil, false_imp_iff, implies_true,
    fitsColumn_text, fitsColumn_displayName, true_and, and_true]
  exact and_iff_left_of_imp arch

theorem isSound_ofSize
    (size : Size) :
    (ofSize size).IsSound := by
  have unit : FitsColumn " MB" ∧ FitsColumn " vCPU" ∧ FitsColumn " GB" ∧
      FitsColumn "/h" := by
    decide
  simp only [IsSound, Fits, ofSize, sizeColumns, List.forall_mem_cons,
    List.not_mem_nil, false_imp_iff, implies_true, fitsColumn_append,
    fitsColumn_text, unit, true_and, and_true]

theorem isSound_ofRegion
    (region : Region) :
    (ofRegion region).IsSound :=
  Iff.rfl

end Listed

/--
What a command lists if all that it asks for is given: how many columns, and
which entities.
-/
inductive Lists (groupOf : String → Option String) :
    Command → List Step → Nat → List Listed → Prop where
  | nodes
      {droplets : List Droplet}
      {images : List Image}
      {sizes : List Size}
      {regions : List Region} :
      Lists groupOf .nodes
        [.sent .listDroplets (.ok droplets), .sent .listImages (.ok images),
          .sent .listSizes (.ok sizes), .sent .listRegions (.ok regions)]
        7 (droplets.map (Listed.ofDroplet ⟨images, sizes, regions⟩ groupOf))
  | images
      {images : List Image} :
      Lists groupOf .images [.sent .listImages (.ok images)] 4
        (images.map Listed.ofImage)
  | sizes
      {sizes : List Size} :
      Lists groupOf .sizes [.sent .listSizes (.ok sizes)] 6
        (sizes.map Listed.ofSize)
  | regions
      {regions : List Region} :
      Lists groupOf .regions [.sent .listRegions (.ok regions)] 3
        (regions.map Listed.ofRegion)

section

variable
  {groupOf : String → Option String}
  {key : Option String}
  {command : Command}
  {done : List Step}
  {width : Nat}
  {entities : List Listed}

/--
What is listed has as many columns as the command says, and they fit if the
texts do.
-/
theorem Lists.regular
    (lists : Lists groupOf command done width entities) :
    0 < width ∧
      ∀ entity ∈ entities, entity.columns.length = width ∧ entity.IsSound := by
  cases lists with
  | nodes =>
      refine ⟨by decide, List.forall_mem_map.mpr fun droplet _ => ⟨rfl, ?_⟩⟩
      exact Listed.isSound_ofDroplet _ groupOf droplet
  | images =>
      refine ⟨by decide, List.forall_mem_map.mpr fun image _ => ⟨rfl, ?_⟩⟩
      exact Listed.isSound_ofImage image
  | sizes =>
      refine ⟨by decide, List.forall_mem_map.mpr fun size _ => ⟨rfl, ?_⟩⟩
      exact Listed.isSound_ofSize size
  | regions =>
      refine ⟨by decide, List.forall_mem_map.mpr fun region _ => ⟨rfl, ?_⟩⟩
      exact Listed.isSound_ofRegion region

/-- What a command lists is what it prints. -/
theorem Lists.accomplishes
    (lists : Lists groupOf command done width entities) :
    Accomplishes groupOf key command done
      (listing Listed.columns entities) := by
  cases lists with
  | @nodes droplets images sizes regions =>
      let catalog : Catalog := ⟨images, sizes, regions⟩
      have printed :
          listing Listed.columns
              (droplets.map (Listed.ofDroplet catalog groupOf)) =
            listing nodeColumns (droplets.map (catalog.toNode groupOf)) := by
        rw [listing_map, listing_map]
        rfl
      rw [printed]
      exact .nodes
  | @images images =>
      have printed :
          listing Listed.columns (images.map Listed.ofImage) =
            listing imageColumns (images.map Image.toPortable) := by
        rw [listing_map, listing_map]
        rfl
      rw [printed]
      exact .images
  | @sizes sizes =>
      rw [listing_map]
      exact .sizes
  | @regions regions =>
      rw [listing_map]
      exact .regions

end

/--
Whatever the provider lists, the command prints it, and what it prints is a
table with one line for each entity if and only if no text of the provider
holds a tab or a line feed. Such a table gives the columns of the entities
back, in order.
-/
theorem listings_are_tables_iff
    {compute : Compute}
    {key : Option String}
    {command : Command}
    {steps : List Step}
    {outcome : Option (Except Failure (Except Fault String))}
    {width : Nat}
    {entities : List Listed}
    (plays : (command.workflow compute key).Plays steps outcome)
    (lists : Lists compute.groupOf command (deeds steps) width entities) :
    ∃ output,
      outcome = some (.ok (.ok output)) ∧
        (IsTable width entities.length output ↔
          ∀ entity ∈ entities, entity.Fits) ∧
        (IsTable width entities.length output →
          rows output = entities.map Listed.columns) := by
  obtain ⟨someColumns, regular⟩ := lists.regular
  have even (entity : Listed) (listed : entity ∈ entities) :
      entity.columns.length = width :=
    (regular entity listed).1
  have isTable := isTable_listing_iff someColumns even
  refine ⟨listing Listed.columns entities,
    (workflow_iff plays _).mpr lists.accomplishes, ?_, ?_⟩
  · rw [isTable]
    exact forall₂_congr fun entity listed => (regular entity listed).2
  · intro table
    refine rows_listing (fun entity listed => ?_) (isTable.mp table)
    exact List.length_pos_iff.mp (even entity listed ▸ someColumns)

/-- The regions that are given are listed. -/
theorem plays_regions
    (compute : Compute)
    (key : Option String)
    (regions : List Region) :
    (Command.regions.workflow compute key).Plays
      [.sent .listRegions (.ok regions)]
      (some (.ok (.ok (listing regionColumns regions)))) :=
  @Workflow.Plays.perform _ (.send .listRegions) _ (.ok regions) _ _
    (.finished _)

/-- Two regions with plain names are listed as a table with two rows. -/
theorem listings_are_tables_of_plain_names :
    let compute : Compute := ⟨.uniform ⟨1, 1, 1⟩, 1, fun _ => none⟩
    let regions : List Region :=
      [⟨"1", "New York 1", "nyc1"⟩, ⟨"2", "Frankfurt", "fra1"⟩]
    let steps : List Step := [.sent .listRegions (.ok regions)]
    ∃ output,
      (Command.regions.workflow compute none).Plays steps
          (some (.ok (.ok output))) ∧
        Lists compute.groupOf .regions (deeds steps) 3
          (regions.map Listed.ofRegion) ∧
        IsTable 3 2 output ∧
        rows output =
          [["1", "nyc1", "New York 1"], ["2", "fra1", "Frankfurt"]] := by
  intro compute regions steps
  have plays := plays_regions compute none regions
  have lists : Lists compute.groupOf .regions (deeds steps) 3
      (regions.map Listed.ofRegion) :=
    .regions
  obtain ⟨output, printed, isTable, read⟩ := listings_are_tables_iff plays lists
  cases printed
  have fit : ∀ entity ∈ regions.map Listed.ofRegion, entity.Fits := by
    unfold Listed.Fits
    decide
  exact ⟨_, plays, lists, isTable.mpr fit, read (isTable.mpr fit)⟩

/--
A region whose name holds a line feed and tabs is printed as two regions are, on
two lines.
-/
theorem region_name_forges_row :
    let compute : Compute := ⟨.uniform ⟨1, 1, 1⟩, 1, fun _ => none⟩
    let forging : Region := ⟨"1", "New York\n2\tfra1\tFrankfurt", "nyc1"⟩
    let regions : List Region :=
      [⟨"1", "New York", "nyc1"⟩, ⟨"2", "Frankfurt", "fra1"⟩]
    ∃ output,
      (Command.regions.workflow compute none).Plays
          [.sent .listRegions (.ok [forging])] (some (.ok (.ok output))) ∧
        (Command.regions.workflow compute none).Plays
          [.sent .listRegions (.ok regions)] (some (.ok (.ok output))) ∧
        ¬ IsTable 3 1 output := by
  intro compute forging regions
  have same :
      listing regionColumns regions = listing regionColumns [forging] := by
    apply String.toList_inj.mp
    rw [toList_listing, toList_listing]
    decide
  have first := plays_regions compute none [forging]
  have second := plays_regions compute none regions
  rw [same] at second
  refine ⟨_, first, second, ?_⟩
  intro isTable
  have even : ∀ region ∈ [forging], (regionColumns region).length = 3 :=
    fun _ _ => rfl
  have fit :=
    (isTable_listing_iff (by decide) even).mp isTable forging List.mem_cons_self
  exact absurd (fit forging.name (by decide)).2 (by decide)

end DropletClient.CommandLine
