import DropletClient.Compute.Nodes
import DropletClient.Proofs.Record.RegionId
import DropletClient.Proofs.Workflow.Play
import Mathlib.Data.List.Forall2
import Mathlib.Data.List.Nodup

namespace DropletClient

/-!
# Nodes described by what droplets refer to

A description joins the list of the droplets with those of the sizes, the
regions and the images. Every droplet gives one node, and what it refers to is
found by id: the first entry counts, and what is not found is left out.
`nodes_are_described_by_join` is the main result.
-/

/--
The first wanted entry of a list, converted; nothing if no entry is wanted.
-/
inductive IsFirst
    (entries : List α)
    (wanted : α → Prop)
    (convert : α → β) :
    Option β → Prop where
  | present
      {before after : List α}
      {entry : α}
      (shape : entries = before ++ entry :: after)
      (isWanted : wanted entry)
      (first : ∀ earlier ∈ before, ¬ wanted earlier) :
      IsFirst entries wanted convert (some (convert entry))
  | absent
      (unwanted : ∀ entry ∈ entries, ¬ wanted entry) :
      IsFirst entries wanted convert none

namespace IsFirst

variable {entries : List α} {wanted : α → Prop} {convert : α → β}
  {found : Option β}

/-- The first wanted entry is the one that a test for it finds. -/
theorem iff_find?
    {test : α → Bool}
    (isTest : ∀ entry, test entry = true ↔ wanted entry) :
    IsFirst entries wanted convert found ↔
      found = (entries.find? test).map convert := by
  constructor
  · intro isFirst
    cases isFirst with
    | @present before after entry shape isWanted first =>
        have finds : entries.find? test = some entry := by
          rw [List.find?_eq_some_iff_append]
          refine ⟨(isTest entry).mpr isWanted, before, after, shape,
            fun earlier member => ?_⟩
          simpa using mt (isTest earlier).mp (first earlier member)
        rw [finds, Option.map_some]
    | absent unwanted =>
        have findsNone : entries.find? test = none := by
          rw [List.find?_eq_none]
          exact fun entry member => mt (isTest entry).mp (unwanted entry member)
        rw [findsNone, Option.map_none]
  · rintro rfl
    cases finds : entries.find? test with
    | none =>
        rw [List.find?_eq_none] at finds
        exact .absent fun entry member =>
          mt (isTest entry).mpr (finds entry member)
    | some entry =>
        obtain ⟨passes, before, after, shape, first⟩ :=
          List.find?_eq_some_iff_append.mp finds
        refine .present shape ((isTest entry).mp passes) fun earlier member =>
          ?_
        exact mt (isTest earlier).mpr (by simpa using first earlier member)

/-- Something is there if and only if a wanted entry is. -/
theorem isSome_iff
    (isFirst : IsFirst entries wanted convert found) :
    found.isSome = true ↔ ∃ entry ∈ entries, wanted entry := by
  cases isFirst with
  | @present before after entry shape isWanted first =>
      exact iff_of_true rfl ⟨entry, by simp [shape], isWanted⟩
  | absent unwanted =>
      exact iff_of_false Bool.false_ne_true fun ⟨entry, member, isWanted⟩ =>
        unwanted entry member isWanted

end IsFirst

/-- The entry that is found depends on those that pass the test only. -/
theorem find?_congr_filter
    {entries others : List α}
    {test : α → Bool}
    (agree : entries.filter test = others.filter test) :
    entries.find? test = others.find? test := by
  rw [← List.head?_filter, ← List.head?_filter, agree]

/-- Of entries with different keys, one at most has the wanted one. -/
theorem length_filter_le_one
    [DecidableEq κ]
    {entries : List α}
    {key : α → κ}
    (differ : (entries.map key).Nodup)
    (wanted : κ) :
    (entries.filter fun entry => key entry == wanted).length ≤ 1 := by
  have passedDiffer :
      ((entries.filter fun entry => key entry == wanted).map key).Nodup :=
    differ.sublist (List.filter_sublist.map key)
  have sameKey :
      (entries.filter fun entry => key entry == wanted).map key =
        List.replicate
          (entries.filter fun entry => key entry == wanted).length wanted := by
    rw [List.eq_replicate_iff]
    refine ⟨List.length_map key, fun found member => ?_⟩
    obtain ⟨entry, passed, rfl⟩ := List.mem_map.mp member
    exact beq_iff_eq.mp (List.mem_filter.mp passed).2
  rwa [sameKey, List.nodup_replicate] at passedDiffer

/--
Entries stand in another order, none of them twice; or everything stands
as it is.
-/
inductive Rearranges (key : α → κ) (entries : List α) : List α → Prop where
  | same : Rearranges key entries entries
  | permuted
      {others : List α}
      (perm : entries.Perm others)
      (differ : (entries.map key).Nodup) :
      Rearranges key entries others

/-- The order does not matter for what a key is looked up for. -/
theorem Rearranges.filter_eq
    [DecidableEq κ]
    {entries others : List α}
    {key : α → κ}
    (rearranges : Rearranges key entries others)
    (wanted : κ) :
    entries.filter (fun entry => key entry == wanted) =
      others.filter fun entry => key entry == wanted := by
  cases rearranges with
  | same => rfl
  | permuted perm differ =>
      have oneAtMost := length_filter_le_one differ wanted
      have samePassed := perm.filter fun entry => key entry == wanted
      rcases passed : entries.filter fun entry => key entry == wanted with
        _ | ⟨first, _ | ⟨second, rest⟩⟩
      · rw [passed] at samePassed
        exact samePassed.nil_eq
      · rw [passed] at samePassed
        exact samePassed.singleton_eq
      · simp [passed] at oneAtMost

namespace Catalog

variable {catalog other : Catalog} {droplet : Droplet}

/--
Two catalogs list the same for what a droplet refers to, whatever else
they list.
-/
structure AgreesOn (droplet : Droplet) (catalog other : Catalog) : Prop where
  sizes :
    catalog.sizes.filter (fun size => size.id == droplet.sizeId) =
      other.sizes.filter fun size => size.id == droplet.sizeId
  regions :
    catalog.regions.filter
        (fun region => region.id == Identifier.text droplet.regionId) =
      other.regions.filter fun region =>
        region.id == Identifier.text droplet.regionId
  images :
    catalog.images.filter (fun image => image.id == droplet.imageId) =
      other.images.filter fun image => image.id == droplet.imageId

/-- The node of a droplet depends only on what is listed for its references. -/
theorem AgreesOn.toNode_eq
    (agrees : AgreesOn droplet catalog other)
    (groupOf : String → Option String) :
    catalog.toNode groupOf droplet = other.toNode groupOf droplet := by
  have sameHardware :
      catalog.hardware? droplet.sizeId = other.hardware? droplet.sizeId :=
    congrArg (Option.map _) (find?_congr_filter agrees.sizes)
  have sameLocation :
      catalog.location? droplet.regionId = other.location? droplet.regionId :=
    congrArg (Option.map _) (find?_congr_filter agrees.regions)
  have sameSystem :
      catalog.operatingSystem? droplet.imageId =
        other.operatingSystem? droplet.imageId :=
    congrArg (Option.map _) (find?_congr_filter agrees.images)
  unfold toNode
  rw [sameHardware, sameLocation, sameSystem]

/-- A catalog has one entry more than another, to which some droplets refer. -/
inductive Gains (catalog : Catalog) : Catalog → (Droplet → Prop) → Prop where
  | size
      {before after : List Size}
      {extra : Size}
      (shape : catalog.sizes = before ++ after) :
      Gains catalog { catalog with sizes := before ++ extra :: after }
        fun droplet => extra.id = droplet.sizeId
  | region
      {before after : List Region}
      {extra : Region}
      (shape : catalog.regions = before ++ after) :
      Gains catalog { catalog with regions := before ++ extra :: after }
        fun droplet => extra.Hosts droplet
  | image
      {before after : List Image}
      {extra : Image}
      (shape : catalog.images = before ++ after) :
      Gains catalog { catalog with images := before ++ extra :: after }
        fun droplet => extra.id = droplet.imageId

/-- An entry more does not matter for the droplets that do not refer to it. -/
theorem Gains.agreesOn
    {refers : Droplet → Prop}
    (gains : catalog.Gains other refers)
    (unrelated : ¬ refers droplet) :
    AgreesOn droplet catalog other := by
  cases gains with
  | size shape => exact ⟨by simp [shape, unrelated], rfl, rfl⟩
  | region shape =>
      have noHost : ¬ _ = Identifier.text droplet.regionId := unrelated
      exact ⟨rfl, by simp [shape, noHost], rfl⟩
  | image shape => exact ⟨rfl, rfl, by simp [shape, unrelated]⟩

/--
Some lists of a catalog, in which no id is listed twice, stand in another order.
-/
structure Reorders (catalog other : Catalog) : Prop where
  sizes : Rearranges Size.id catalog.sizes other.sizes
  regions : Rearranges Region.id catalog.regions other.regions
  images : Rearranges Image.id catalog.images other.images

theorem Reorders.agreesOn
    (reorders : catalog.Reorders other)
    (droplet : Droplet) :
    AgreesOn droplet catalog other where
  sizes := reorders.sizes.filter_eq droplet.sizeId
  regions := reorders.regions.filter_eq (Identifier.text droplet.regionId)
  images := reorders.images.filter_eq droplet.imageId

end Catalog

/--
A node is that of a droplet in a catalog: what a droplet tells by itself is
taken from it, and each reference is resolved with the first entry that it may
refer to.
-/
structure IsNodeOf
    (groupOf : String → Option String)
    (catalog : Catalog)
    (droplet : Droplet)
    (node : Node) : Prop where
  own :
    { node with hardware := none, location := none, operatingSystem := none } =
      Catalog.toNode ⟨[], [], []⟩ groupOf droplet
  hardware :
    IsFirst catalog.sizes (fun size => size.id = droplet.sizeId)
      Size.toHardware node.hardware
  location :
    IsFirst catalog.regions (fun region => region.Hosts droplet)
      Region.toLocation node.location
  operatingSystem :
    IsFirst catalog.images (fun image => image.id = droplet.imageId)
      (fun image => OperatingSystem.ofImageNames image.distribution image.name)
      node.operatingSystem

section

variable {groupOf : String → Option String} {catalog : Catalog}

/-- The node of a droplet in a catalog is the one that the catalog gives. -/
theorem isNodeOf_iff
    {droplet : Droplet}
    {node : Node} :
    IsNodeOf groupOf catalog droplet node ↔
      node = catalog.toNode groupOf droplet := by
  constructor
  · intro isNode
    have sameHardware : node.hardware = catalog.hardware? droplet.sizeId :=
      (IsFirst.iff_find? fun _ => beq_iff_eq).mp isNode.hardware
    have sameLocation : node.location = catalog.location? droplet.regionId :=
      (IsFirst.iff_find? fun _ => beq_iff_eq).mp isNode.location
    have sameSystem :
        node.operatingSystem = catalog.operatingSystem? droplet.imageId :=
      (IsFirst.iff_find? fun _ => beq_iff_eq).mp isNode.operatingSystem
    have own := isNode.own
    cases node
    simp_all [Catalog.toNode]
  · rintro rfl
    exact
      ⟨rfl, (IsFirst.iff_find? fun _ => beq_iff_eq).mpr rfl,
        (IsFirst.iff_find? fun _ => beq_iff_eq).mpr rfl,
        (IsFirst.iff_find? fun _ => beq_iff_eq).mpr rfl⟩

/-- The nodes of droplets in a catalog are those that the catalog gives. -/
theorem forall₂_isNodeOf_iff
    {droplets : List Droplet}
    {nodes : List Node} :
    droplets.Forall₂ (IsNodeOf groupOf catalog) nodes ↔
      nodes = droplets.map (catalog.toNode groupOf) := by
  induction droplets generalizing nodes with
  | nil => rw [List.forall₂_nil_left_iff, List.map_nil]
  | cons droplet later inductionHypothesis =>
      rw [List.forall₂_cons_left_iff, List.map_cons]
      constructor
      · rintro ⟨node, laterNodes, isNode, areLater, rfl⟩
        rw [isNodeOf_iff.mp isNode, inductionHypothesis.mp areLater]
      · rintro rfl
        exact ⟨_, _, isNodeOf_iff.mpr rfl, inductionHypothesis.mpr rfl, rfl⟩

end

/--
In a state of a world the four lists are given, when they are asked for one
after the other.
-/
structure World.Lists
    (world : World σ)
    (state : σ)
    (droplets : List Droplet)
    (catalog : Catalog) : Prop where
  droplets : (world.answer state .listDroplets).1 = .ok droplets
  images :
    (world.answer (world.answer state .listDroplets).2 .listImages).1 =
      .ok catalog.images
  sizes :
    (world.answer
      (world.answer (world.answer state .listDroplets).2 .listImages).2
      .listSizes).1 = .ok catalog.sizes
  regions :
    (world.answer (world.answer
      (world.answer (world.answer state .listDroplets).2 .listImages).2
      .listSizes).2 .listRegions).1 = .ok catalog.regions

namespace Compute

/--
Wherever the provider lists some droplets and a catalog, some nodes are
described.
-/
def DescribesFrom
    (compute : Compute)
    (droplets : List Droplet)
    (catalog : Catalog)
    (nodes : List Node) : Prop :=
  ∀ ⦃σ : Type⦄ (world : World σ) (session : Session σ),
    world.Lists session.state droplets catalog →
      (compute.describeNodes.run world session).1 = some (.ok nodes)

/-- A world that always lists the same, and does nothing else. -/
def stillWorld (droplets : List Droplet) (catalog : Catalog) : World Unit where
  answer
    | (), .listDroplets => (.ok droplets, ())
    | (), .listImages => (.ok catalog.images, ())
    | (), .listSizes => (.ok catalog.sizes, ())
    | (), .listRegions => (.ok catalog.regions, ())
    | (), _ => (.error (.transport .noResponse), ())
  generate _ := (.error (.transport .noResponse), ())
  propose _ group := (group, ())

/-- What is described is what the catalog gives for the droplets. -/
theorem describesFrom_iff
    {compute : Compute}
    {droplets : List Droplet}
    {catalog : Catalog}
    {nodes : List Node} :
    compute.DescribesFrom droplets catalog nodes ↔
      nodes = droplets.map (catalog.toNode compute.groupOf) := by
  constructor
  · intro describes
    have described :=
      describes (stillWorld droplets catalog) (.start ()) ⟨rfl, rfl, rfl, rfl⟩
    cases described
    rfl
  · rintro rfl σ world session lists
    rw [describeNodes, Workflow.run_attempt_bind, Workflow.run_attempt_bind,
      Workflow.run_attempt_bind, Workflow.run_attempt_bind]
    simp only [World.perform, Session.record]
    rw [lists.droplets, lists.images, lists.sizes, lists.regions]
    rfl

/-- How droplets are described. -/
structure DescribesNodes (compute : Compute) : Prop where
  /--
  There is one node for each droplet, in the same order, with the first
  entries for it.
  -/
  joins :
    ∀ droplets catalog, ∃ nodes,
      compute.DescribesFrom droplets catalog nodes ∧
        ∀ others,
          droplets.Forall₂ (IsNodeOf compute.groupOf catalog) others ↔
            others = nodes
  /-- A reference is resolved if and only if there is an entry for it. -/
  resolved :
    ∀ {catalog droplet node}, IsNodeOf compute.groupOf catalog droplet node →
      (node.hardware.isSome = true ↔
          ∃ size ∈ catalog.sizes, size.id = droplet.sizeId) ∧
        (node.location.isSome = true ↔
          ∃ region ∈ catalog.regions, region.Hosts droplet) ∧
        (node.operatingSystem.isSome = true ↔
          ∃ image ∈ catalog.images, image.id = droplet.imageId)
  /--
  One entry more or less drops no node, and changes only what refers to
  the entry.
  -/
  unaffected :
    ∀ {droplets catalog other refers nodes others},
      catalog.Gains other refers →
        compute.DescribesFrom droplets catalog nodes →
          compute.DescribesFrom droplets other others →
            others.length = nodes.length ∧
              ∀ (position : Nat) (droplet : Droplet),
                droplets[position]? = some droplet →
                  ¬ refers droplet → others[position]? = nodes[position]?
  /-- Where no id is listed twice, the order of the entries does not matter. -/
  reordered :
    ∀ {droplets catalog other nodes},
      catalog.Reorders other →
        (compute.DescribesFrom droplets other nodes ↔
          compute.DescribesFrom droplets catalog nodes)
  /--
  A region whose id arrives as an integer hosts the droplets that have it as
  their region.
  -/
  numbered :
    ∀ {region : Region} {first rest begins goesOn value},
      region.IsReadWith (.scalar (.numeral first rest begins goesOn)) →
        Identifier.Denotes (first :: rest) value →
          first :: rest ≠ ['-', '0'] →
            ∀ droplet, region.Hosts droplet ↔ droplet.regionId.toInt = value
  /-- A region whose id arrives as another number hosts no droplet. -/
  unnumbered :
    ∀ {region : Region} {first rest begins goesOn},
      region.IsReadWith (.scalar (.numeral first rest begins goesOn)) →
        (∀ value, ¬ Identifier.Denotes (first :: rest) value) ∨
            first :: rest = ['-', '0'] →
          ∀ droplet, ¬ region.Hosts droplet
  /--
  A region whose id arrives as a text hosts the droplets for which it is
  canonical.
  -/
  worded :
    ∀ {region : Region} {parts : Json.Quoted} {word : String},
      region.IsReadWith (.scalar (.quoted parts)) →
        parts.text? = some word →
          ∀ droplet,
            region.Hosts droplet ↔
              Identifier.IsCanonical word.toList droplet.regionId.toInt

/--
Descriptions are a faithful join: a node for every droplet, whose references are
resolved with the first entries that match, independently of all other entries.
-/
theorem nodes_are_described_by_join
    (compute : Compute) :
    compute.DescribesNodes where
  joins droplets catalog :=
    ⟨_, describesFrom_iff.mpr rfl, fun _ => forall₂_isNodeOf_iff⟩
  resolved isNode :=
    ⟨isNode.hardware.isSome_iff, isNode.location.isSome_iff,
      isNode.operatingSystem.isSome_iff⟩
  unaffected gains describes describesOther := by
    rw [describesFrom_iff.mp describes, describesFrom_iff.mp describesOther]
    refine ⟨by simp only [List.length_map],
      fun position droplet isDroplet unrelated => ?_⟩
    rw [List.getElem?_map, List.getElem?_map, isDroplet, Option.map_some,
      Option.map_some, (gains.agreesOn unrelated).toNode_eq]
  reordered {droplets catalog other nodes} reorders := by
    have sameNodes :
        droplets.map (catalog.toNode compute.groupOf) =
          droplets.map (other.toNode compute.groupOf) :=
      List.map_congr_left fun droplet _ =>
        (reorders.agreesOn droplet).toNode_eq compute.groupOf
    rw [describesFrom_iff, describesFrom_iff, sameNodes]
  numbered isRead denotes notMinusZero :=
    Region.hosts_iff_of_integer isRead denotes notMinusZero
  unnumbered isRead noInteger := Region.not_hosts_of_numeral isRead noInteger
  worded isRead isWord := Region.hosts_iff_of_text isRead isWord

end Compute

end DropletClient
