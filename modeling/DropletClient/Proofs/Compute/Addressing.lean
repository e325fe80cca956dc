import DropletClient.Proofs.Compute.Course
import DropletClient.Proofs.Identifier.Spelling
import DropletClient.Proofs.Poll.Undisturbed
import Mathlib.Data.List.Forall2

namespace DropletClient

/-!
# What texts address

Whoever names a droplet or an image by a text addresses what the text spells.
Nothing is asked of the provider if it spells no identifier, and nothing but
what is spelled is touched if it does. The texts under which droplets and
images are given spell their identifiers, so that what was given can be
addressed again. `identifiers_are_read_exactly` says all this of every workflow
that takes a text.
-/

/-- A request that touches the droplet or image with an id and no other. -/
def Request.Addresses (id : Int32) : Request → Prop
  | .getDroplet other => other = id
  | .dropletAction other _ => other = id
  | .getImage other => other = id
  | .deleteImage other => other = id
  | .getEvent _ => True
  | .listImages => True
  | _ => False

/-- An effect that touches the droplet or image with an id and no other. -/
def Effect.Addresses (id : Int32) : Effect → Prop
  | .send request => request.Addresses id
  | .sleep _ => True
  | .readClock => True
  | .generateKeys => False
  | .proposeName _ => False

/-- What watches an event touches nothing. -/
theorem Effect.Watches.addresses
    {event : Int32}
    {effect : Effect}
    (watches : effect.Watches event)
    (id : Int32) :
    effect.Addresses id := by
  cases effect with
  | send request =>
      obtain rfl : request = .getEvent event := watches
      trivial
  | sleep duration => trivial
  | readClock => trivial
  | generateKeys => cases watches
  | proposeName group => cases watches

namespace Compute

open Workflow

/--
A workflow does something to the droplet or image that a text names. With it
goes what results if the text names none.
-/
inductive ActsOnNamed
    (compute : Compute)
    (text : String) :
    {α : Type} → (workflow : Workflow α) → (refusal : Except Failure α) →
      Prop where
  | destroy :
      ActsOnNamed compute text (destroyNode text)
        (.error (.noSuchElement (.droplet text)))
  | reboot :
      ActsOnNamed compute text (compute.rebootNode text)
        (.error (.noSuchElement (.droplet text)))
  | resume :
      ActsOnNamed compute text (compute.resumeNode text)
        (.error (.noSuchElement (.droplet text)))
  | suspend :
      ActsOnNamed compute text (compute.suspendNode text)
        (.error (.noSuchElement (.droplet text)))
  | capture (name : String) :
      ActsOnNamed compute text (compute.createImage ⟨name, text⟩)
        (.error (.noSuchElement (.droplet text)))
  | captureExisting (name : String) :
      ActsOnNamed compute text (compute.createImageFromNode name text)
        (.error (.noSuchElement (.droplet text)))
  | delete : ActsOnNamed compute text (deleteImage text) (.ok false)
  | lookUpNode : ActsOnNamed compute text (getNode text) (.ok none)
  | lookUpImage : ActsOnNamed compute text (getImage text) (.ok none)

section

variable {compute : Compute} {text : String}

/-- What is done to a droplet that a text names is refused if it names none. -/
theorem requireDropletId_bind_of_unread
    (unread : Identifier.read? text = none)
    (next : Int32 → Workflow α) :
    (requireDropletId text >>= next) =
      .finished (.error (.noSuchElement (.droplet text))) := by
  simp only [requireDropletId, unread]
  rfl

/-- A text that names nothing is refused without any effect. -/
theorem ActsOnNamed.eq_refusal
    {workflow : Workflow α}
    {refusal : Except Failure α}
    (acts : ActsOnNamed compute text workflow refusal)
    (unread : Identifier.read? text = none) :
    workflow = .finished refusal := by
  cases acts with
  | destroy => exact requireDropletId_bind_of_unread unread _
  | reboot => exact requireDropletId_bind_of_unread unread _
  | resume => exact requireDropletId_bind_of_unread unread _
  | suspend => exact requireDropletId_bind_of_unread unread _
  | capture name => exact requireDropletId_bind_of_unread unread _
  | captureExisting name =>
      rw [createImageFromNode, buildCloneTemplate, bind_assoc]
      exact requireDropletId_bind_of_unread unread _
  | delete =>
      simp only [deleteImage, unread]
      rfl
  | lookUpNode =>
      simp only [getNode, unread]
      rfl
  | lookUpImage =>
      simp only [getImage, unread]
      rfl

end

section

variable {id : Int32}

theorem send_addresses
    (request : Request)
    (addresses : request.Addresses id) :
    (send request).Only (Effect.Addresses id) :=
  .perform addresses fun reply => .finished reply

theorem waitFor_addresses
    (compute : Compute)
    (event : Int32)
    (kind : EventKind) :
    (compute.waitFor event kind).Only (Effect.Addresses id) :=
  (Wait.workflow_only ⟨compute.policies, compute.patience, event, kind⟩).mono
    fun _ watches => watches.addresses id

/--
Only the droplet that a text names is touched if what follows touches only
that one.
-/
theorem requireDropletId_bind_addresses
    {text : String}
    {next : Int32 → Workflow α}
    (read : Identifier.read? text = some id)
    (goesOn : (next id).Only (Effect.Addresses id)) :
    (requireDropletId text >>= next).Only (Effect.Addresses id) := by
  simp only [requireDropletId, read]
  exact goesOn

theorem actAndWait_addresses
    {text : String}
    (read : Identifier.read? text = some id)
    (compute : Compute)
    (action : DropletAction)
    (kind : EventKind) :
    (compute.actAndWait text action kind).Only (Effect.Addresses id) := by
  apply requireDropletId_bind_addresses read
  apply (send_addresses (.dropletAction id action) rfl).bind
  exact fun event => waitFor_addresses compute event kind

theorem imageNamed_addresses
    (name : String) :
    (imageNamed name).Only (Effect.Addresses id) := by
  apply (send_addresses .listImages trivial).bind
  intro images
  cases images.find? fun image => image.name == name with
  | none => exact .finished _
  | some image => exact .finished _

theorem createImage_addresses
    {text : String}
    (read : Identifier.read? text = some id)
    (compute : Compute)
    (name : String) :
    (compute.createImage ⟨name, text⟩).Only (Effect.Addresses id) := by
  apply requireDropletId_bind_addresses read
  apply (send_addresses (.dropletAction id .powerOff) rfl).bind
  intro powerOff
  apply (waitFor_addresses compute powerOff .nodeSuspended).bind
  intro _
  apply (send_addresses (.dropletAction id (.snapshot (some name))) rfl).bind
  intro snapshot
  apply (waitFor_addresses compute snapshot .imageAvailable).bind
  intro _
  exact (imageNamed_addresses name).bind fun _ => .finished _

/-- Nothing is touched but what the text names. -/
theorem ActsOnNamed.addresses
    {compute : Compute}
    {text : String}
    {workflow : Workflow α}
    {refusal : Except Failure α}
    (acts : ActsOnNamed compute text workflow refusal)
    (read : Identifier.read? text = some id) :
    workflow.Only (Effect.Addresses id) := by
  cases acts with
  | destroy =>
      apply requireDropletId_bind_addresses read
      apply (send_addresses (.dropletAction id (.destroy true)) rfl).bind
      exact fun _ => .finished _
  | reboot => exact actAndWait_addresses read compute .reboot .nodeRunning
  | resume => exact actAndWait_addresses read compute .powerOn .nodeRunning
  | suspend => exact actAndWait_addresses read compute .powerOff .nodeSuspended
  | capture name => exact createImage_addresses read compute name
  | captureExisting name =>
      rw [createImageFromNode, buildCloneTemplate, bind_assoc]
      apply requireDropletId_bind_addresses read
      rw [bind_assoc]
      apply (send_addresses (.getDroplet id) rfl).bind
      intro found
      cases found with
      | none => exact .finished _
      | some droplet => exact createImage_addresses read compute name
  | delete =>
      simp only [deleteImage, read]
      refine .perform rfl fun reply => ?_
      cases reply with
      | ok answer => exact .finished _
      | error failure => exact .finished _
  | lookUpNode =>
      simp only [getNode, read]
      exact send_addresses (.getDroplet id) rfl
  | lookUpImage =>
      simp only [getImage, read]
      exact send_addresses (.getImage id) rfl

end

/-! ## What was given can be addressed -/

/--
An image that a workflow gives is one that was listed, under a text that is read
as its id.
-/
def GivesListedImage (workflow : Workflow PortableImage) : Prop :=
  workflow.Obeys fun steps outcome =>
    ∀ image, outcome = some (.ok image) →
      ∃ listed found,
        .sent .listImages (.ok listed) ∈ steps ∧ found ∈ listed ∧
          Identifier.read? image.id = some found.id

/--
The texts under which droplets and images are given are read as their ids.
-/
structure GivesReadableIds (compute : Compute) : Prop where
  created :
    ∀ name template,
      (compute.createNode name template).Obeys fun _ outcome =>
        ∀ created, outcome = some (.ok created) →
          Identifier.read? created.id = some created.node.id
  described :
    compute.describeNodes.Obeys fun steps outcome =>
      ∀ nodes, outcome = some (.ok nodes) →
        ∃ droplets,
          .sent .listDroplets (.ok droplets) ∈ steps ∧
            droplets.Forall₂
              (fun droplet node =>
                Identifier.read? node.id = some droplet.id ∧
                  Identifier.read? node.imageId = some droplet.imageId)
              nodes
  captured : ∀ name text, GivesListedImage (compute.createImage ⟨name, text⟩)
  capturedExisting : ∀ name text,
    GivesListedImage (compute.createImageFromNode name text)

section

variable {name text : String}

theorem mem_of_mem_deeds
    {step : Step}
    {steps : List Step}
    (member : step ∈ deeds steps) :
    step ∈ steps :=
  List.mem_of_mem_filter member

/-- A workflow that ends with a capture gives a listed image. -/
theorem givesListedImage_of_captures
    {workflow : Workflow PortableImage}
    {course : Course PortableImage}
    (succeeds : workflow.SucceedsBy course)
    (captures :
      ∀ {done image},
        course done image →
          ∃ later, later <:+ done ∧ Captures name text later image) :
    GivesListedImage workflow := by
  refine .of_plays fun {steps outcome} plays image given => ?_
  subst given
  obtain ⟨later, isEnd, captured⟩ := captures (succeeds.gives plays)
  cases captured with
  | @intro _ _ _ _ _ images image _ _ _ found =>
      refine ⟨images, image, mem_of_mem_deeds (isEnd.subset ?_),
        List.mem_of_find?_eq_some found, Identifier.read?_text image.id⟩
      simp

/-- A created node is given under a text that is read as its id. -/
theorem Creates.read?_id
    {template : Template}
    {done : List Step}
    {created : CreatedNode}
    (creates : Creates name template done created) :
    Identifier.read? created.id = some created.node.id := by
  cases creates with
  | intro registers awaits => exact Identifier.read?_text _

end

theorem givesReadableIds
    (compute : Compute) :
    GivesReadableIds compute where
  created name template := by
    refine .of_plays fun {steps outcome} plays created given => ?_
    subst given
    exact ((createNode_succeedsBy compute name template).gives plays).read?_id
  described := by
    refine .of_plays fun {steps outcome} plays nodes given => ?_
    subst given
    obtain ⟨droplets, images, sizes, regions, done, rfl⟩ :=
      describeNodes_succeedsBy.gives plays
    refine ⟨droplets, mem_of_mem_deeds (done ▸ List.mem_cons_self), ?_⟩
    rw [List.forall₂_map_right_iff, List.forall₂_same]
    exact fun droplet _ => ⟨Identifier.read?_text _, Identifier.read?_text _⟩
  captured name text :=
    givesListedImage_of_captures (createImage_succeedsBy name text)
      fun captures => ⟨_, List.suffix_rfl, captures⟩
  capturedExisting name text := by
    apply givesListedImage_of_captures
      (createImageFromNode_succeedsBy name text)
    rintro _ image ⟨dropletId, droplet, later, _, rfl, captures⟩
    exact ⟨later, List.suffix_cons _ later, captures⟩

/-- The text that names no droplet is told at the end of the failure. -/
theorem suffix_message_noSuchElement
    (text : String) :
    text.toList <:+ (Failure.noSuchElement (.droplet text)).message.toList := by
  have wording :
      (Failure.noSuchElement (.droplet text)).message =
        ("no such element: " ++ "Cannot find droplet with id: ") ++ text :=
    String.append_assoc.symm
  rw [wording, String.toList_append]
  exact List.suffix_append _ _

/--
A text is recognised if and only if it spells an integer with 32 bits, and then
as that integer. The texts under which droplets and images are given are read as
their ids. A workflow that takes a text touches nothing but what the text
spells. If it spells no identifier, then the workflow leaves the session as it
is, and fails with the text in its failure, or says that there is nothing.
-/
theorem identifiers_are_read_exactly
    (compute : Compute) :
    (∀ text id,
        Identifier.read? text = some id ↔ Identifier.Spells text id.toInt) ∧
      (∀ text,
        (Identifier.read? text).isSome = true ↔
          ∃ value, Identifier.Spells text value ∧ Identifier.HasWord value) ∧
      (∀ id, Identifier.read? (Identifier.text id) = some id) ∧
      GivesReadableIds compute ∧
      (∀ text : String,
        text.toList <:+
          (Failure.noSuchElement (.droplet text)).message.toList) ∧
      ∀ (text : String)
        {α : Type}
        {workflow : Workflow α}
        {refusal : Except Failure α},
        ActsOnNamed compute text workflow refusal →
          (∀ id : Int32,
            Identifier.Spells text id.toInt →
              workflow.Only (Effect.Addresses id)) ∧
          ((¬ ∃ value,
              Identifier.Spells text value ∧ Identifier.HasWord value) →
            ∀ {σ : Type} (world : World σ) (session : Session σ),
              workflow.run world session = (some refusal, session)) := by
  refine ⟨fun _ _ => Identifier.read?_eq_some_iff,
    fun _ => Identifier.isSome_read?_iff, Identifier.read?_text,
    givesReadableIds compute, suffix_message_noSuchElement, ?_⟩
  intro text α workflow refusal acts
  constructor
  · intro id spells
    exact acts.addresses (Identifier.read?_eq_some_iff.mpr spells)
  · intro unspelled σ world session
    have unread : Identifier.read? text = none := by
      rw [← Option.not_isSome_iff_eq_none, Identifier.isSome_read?_iff]
      exact unspelled
    rw [acts.eq_refusal unread]
    rfl

end Compute

end DropletClient
