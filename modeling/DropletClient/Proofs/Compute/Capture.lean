import DropletClient.Proofs.Compute.Course
import DropletClient.Proofs.Identifier
import DropletClient.Proofs.Poll.Undisturbed

namespace DropletClient

/-!
# Captured images

A capture gives the first listed image with the name that was asked for. That is
the image which the snapshot has added, unless there is one of the same name in
front of it: then the older one is given although the snapshot has succeeded.
`captures_give_first_of_name` says when which of them is given.
-/

/--
A request that changes no image: to look at something, or to power a
droplet off.
-/
def Request.SparesImages : Request → Prop
  | .listImages => True
  | .getDroplet _ => True
  | .getEvent _ => True
  | .dropletAction _ .powerOff => True
  | _ => False

/-- An effect that changes no image. -/
def Effect.SparesImages : Effect → Prop
  | .send request => request.SparesImages
  | .sleep _ => True
  | .readClock => True
  | .generateKeys => False
  | .proposeName _ => False

/--
The images of a world are listed, and they stay while nothing is done to them.
-/
structure World.KeepsImages
    (world : World σ)
    (images : σ → List Image) : Prop where
  listed :
    ∀ {state listed},
      (world.answer state .listImages).1 = .ok listed → listed = images state
  spared :
    ∀ request : Request,
      request.SparesImages →
        ∀ state, images (world.answer state request).2 = images state

theorem World.KeepsImages.perform
    {world : World σ}
    {images : σ → List Image}
    (keeps : world.KeepsImages images)
    (effect : Effect)
    (spares : effect.SparesImages)
    (session : Session σ) :
    images (world.perform session effect).2.state = images session.state := by
  cases effect with
  | send request => exact keeps.spared request spares session.state
  | sleep duration => rfl
  | readClock => rfl
  | generateKeys => cases spares
  | proposeName group => cases spares

namespace Compute

open Workflow

/--
What is given where images stand in front of a new one: it, or the first one
with its name.
-/
inductive Gives (front : List Image) (new : Image) : PortableImage → Prop where
  | new
      (unhidden : ∀ older ∈ front, older.name ≠ new.name) :
      Gives front new new.toPortable
  | older
      {before after : List Image}
      {older : Image}
      (split : front = before ++ older :: after)
      (sameName : older.name = new.name)
      (first : ∀ earlier ∈ before, earlier.name ≠ new.name) :
      Gives front new older.toPortable

namespace Gives

variable {front : List Image} {new : Image}

/--
The first one of its name is either in front of a new image or the new
image itself.
-/
theorem of_find?
    {back : List Image}
    {image : Image}
    (found : (front ++ new :: back).find?
      (fun image => image.name == new.name) = some image) :
    Gives front new image.toPortable := by
  rw [List.find?_append] at found
  cases hidden : front.find? fun image => image.name == new.name with
  | some older =>
      rw [hidden] at found
      cases found
      obtain ⟨sameName, before, after, split, first⟩ :=
        List.find?_eq_some_iff_append.mp hidden
      exact .older split (by simpa using sameName) (by simpa using first)
  | none =>
      rw [hidden, Option.none_or, List.find?_cons_of_pos (by simp)] at found
      cases found
      exact .new (by simpa using hidden)

/--
A new image with an id of its own is given if and only if none in front of it
has its name.
-/
theorem eq_new_iff
    {image : PortableImage}
    (gives : Gives front new image)
    (fresh : ∀ older ∈ front, older.id ≠ new.id) :
    image = new.toPortable ↔ ∀ older ∈ front, older.name ≠ new.name := by
  cases gives with
  | new unhidden => exact iff_of_true rfl unhidden
  | @older before after older split sameName first =>
      have member : older ∈ front := by
        rw [split]
        exact List.mem_append_right before List.mem_cons_self
      refine iff_of_false (fun same => ?_)
        (fun unhidden => unhidden older member sameName)
      exact fresh older member
        (Identifier.text_inj (congrArg PortableImage.id same))

end Gives

/--
A workflow that captures under a name and gives an image has asked for a
snapshot while the images were those from before. If the snapshot has added one
of that name, then the first of them is given.
-/
structure CapturesFirst
    (world : World σ)
    (images : σ → List Image)
    (name : String)
    (workflow : Workflow PortableImage) : Prop where
  captured :
    ∀ {session final : Session σ} {image : PortableImage},
      workflow.run world session = (some (.ok image), final) →
        ∃ asked dropletId event later,
          world.answer asked
              (.dropletAction dropletId (.snapshot (some name))) =
            (.ok event, later) ∧
            images asked = images session.state ∧
            images final.state = images later ∧
            ∀ front new back,
              images asked = front ++ back →
              images later = front ++ new :: back →
              new.name = name →
                Gives front new image ∧
                  ((∀ older ∈ front, older.id ≠ new.id) →
                    (image = new.toPortable ↔
                      ∀ older ∈ front, older.name ≠ name))

section

variable
  {world : World σ}
  {images : σ → List Image}
  {session final : Session σ}

theorem send_sparesImages
    (request : Request)
    (spares : request.SparesImages) :
    (send request).Only Effect.SparesImages :=
  .perform spares fun reply => .finished reply

theorem waitFor_sparesImages
    (compute : Compute)
    (event : Int32)
    (kind : EventKind) :
    (compute.waitFor event kind).Only Effect.SparesImages := by
  apply
    (Wait.workflow_only ⟨compute.policies, compute.patience, event, kind⟩).mono
  intro effect watches
  cases effect with
  | send request =>
      obtain rfl : request = .getEvent event := watches
      trivial
  | sleep duration => trivial
  | readClock => trivial
  | generateKeys => cases watches
  | proposeName group => cases watches

theorem requireDropletId_sparesImages
    (id : String) :
    (requireDropletId id).Only Effect.SparesImages := by
  unfold requireDropletId
  split
  · exact .finished _
  · exact .finished _

/-- What is done before the snapshot is asked for. -/
def powerDown (compute : Compute) (id : String) : Workflow Int32 := do
  let dropletId ← requireDropletId id
  let powerOff ← send (.dropletAction dropletId .powerOff)
  compute.waitFor powerOff .nodeSuspended
  return dropletId

/-- The snapshot, and what is done from then on. -/
def snapshotAs (compute : Compute) (name : String) (dropletId : Int32) :
    Workflow PortableImage := do
  let snapshot ← send (.dropletAction dropletId (.snapshot (some name)))
  compute.waitFor snapshot .imageAvailable
  let image ← imageNamed name
  return image.toPortable

theorem createImage_eq
    (compute : Compute)
    (name id : String) :
    compute.createImage ⟨name, id⟩ =
      compute.powerDown id >>= compute.snapshotAs name := by
  simp only [createImage, powerDown, bind_assoc, pure_bind]
  rfl

theorem powerDown_sparesImages
    (compute : Compute)
    (id : String) :
    (compute.powerDown id).Only Effect.SparesImages :=
  (requireDropletId_sparesImages id).bind fun _ =>
    (send_sparesImages (.dropletAction _ .powerOff) trivial).bind fun _ =>
      (waitFor_sparesImages compute _ _).bind fun _ => .finished _

theorem buildCloneTemplate_sparesImages
    (name id : String) :
    (buildCloneTemplate name id).Only Effect.SparesImages := by
  refine (requireDropletId_sparesImages id).bind fun dropletId => ?_
  refine (send_sparesImages (.getDroplet dropletId) trivial).bind fun found =>
    ?_
  cases found with
  | none => exact .finished _
  | some droplet => exact .finished _

/-- The image that is found by its name is the first one of that name. -/
theorem run_imageNamed
    {name : String}
    {image : Image}
    (keeps : world.KeepsImages images)
    (gives : (imageNamed name).run world session = (some (.ok image), final)) :
    images final.state = images session.state ∧
      (images session.state).find? (fun image => image.name == name) =
        some image := by
  obtain ⟨listed, middle, lists, finds⟩ := run_bind_eq_ok gives
  have told := run_send_eq_ok lists
  have same : listed = images session.state :=
    keeps.listed (congrArg Prod.fst told)
  have stays : images middle.state = images session.state := by
    have spared := keeps.spared .listImages trivial session.state
    rwa [told] at spared
  rw [← same]
  cases found : listed.find? fun image => image.name == name with
  | none =>
      simp only [found] at finds
      cases finds
  | some first =>
      simp only [found] at finds
      cases finds
      exact ⟨stays.trans same.symm, rfl⟩

theorem capturesFirst_snapshotAs
    (keeps : world.KeepsImages images)
    (compute : Compute)
    (name : String)
    (dropletId : Int32) :
    CapturesFirst world images name (compute.snapshotAs name dropletId) := by
  refine ⟨fun {session final image} gives => ?_⟩
  obtain ⟨event, started, snapshots, waits⟩ := run_bind_eq_ok gives
  obtain ⟨_, awaited, awaits, searches⟩ := run_bind_eq_ok waits
  obtain ⟨found, listed, finds, returns⟩ := run_bind_eq_ok searches
  cases returns
  obtain ⟨stays, isFirst⟩ := run_imageNamed keeps finds
  have sameAwaited : images awaited.state = images started.state := by
    have spares :=
      (waitFor_sparesImages compute event .imageAvailable).run_keeps
        keeps.perform started
    rwa [awaits] at spares
  refine ⟨session.state, dropletId, event, started.state,
    run_send_eq_ok snapshots, rfl, stays.trans sameAwaited, ?_⟩
  intro front new back _ registered named
  rw [sameAwaited, registered, ← named] at isFirst
  have given := Gives.of_find? isFirst
  rw [← named]
  exact ⟨given, given.eq_new_iff⟩

/-- What is done before does not matter if it changes no image. -/
theorem CapturesFirst.after
    {before : Workflow α}
    {next : α → Workflow PortableImage}
    {name : String}
    (keeps : world.KeepsImages images)
    (spares : before.Only Effect.SparesImages)
    (captures :
      ∀ {session middle : Session σ} {value : α},
        before.run world session = (some (.ok value), middle) →
          CapturesFirst world images name (next value)) :
    CapturesFirst world images name (before >>= next) := by
  refine ⟨fun {session final image} gives => ?_⟩
  obtain ⟨value, middle, begins, goesOn⟩ := run_bind_eq_ok gives
  have same : images middle.state = images session.state := by
    have stays := spares.run_keeps keeps.perform session
    rwa [begins] at stays
  rw [← same]
  exact (captures begins).captured goesOn

theorem capturesFirst_createImage
    (keeps : world.KeepsImages images)
    (compute : Compute)
    (name id : String) :
    CapturesFirst world images name (compute.createImage ⟨name, id⟩) := by
  rw [createImage_eq]
  exact .after keeps (powerDown_sparesImages compute id) fun _ =>
    capturesFirst_snapshotAs keeps compute name _

theorem capturesFirst_createImageFromNode
    (keeps : world.KeepsImages images)
    (compute : Compute)
    (name id : String) :
    CapturesFirst world images name (compute.createImageFromNode name id) := by
  refine .after keeps (buildCloneTemplate_sparesImages name id) ?_
  intro session middle template begins
  -- the template has the name that was asked for
  obtain ⟨steps, _, plays⟩ :=
    run_plays world (buildCloneTemplate name id) session
  rw [begins] at plays
  obtain ⟨_, _, _, _, rfl⟩ :=
    (buildCloneTemplate_succeedsBy name id).gives plays
  exact capturesFirst_createImage keeps compute name id

end

/--
A capture that succeeds gives the first image of its name, and so the one that
the snapshot has added if and only if no image of that name was listed in
front of it.
-/
theorem captures_give_first_of_name
    (world : World σ)
    (images : σ → List Image)
    (keeps : world.KeepsImages images)
    (compute : Compute)
    (name id : String) :
    CapturesFirst world images name (compute.createImage ⟨name, id⟩) ∧
      CapturesFirst world images name (compute.createImageFromNode name id) :=
  ⟨capturesFirst_createImage keeps compute name id,
    capturesFirst_createImageFromNode keeps compute name id⟩

end Compute

namespace ScriptedCloud

/-- The scripted provider changes no image where none is to be changed. -/
theorem images_answer
    (cloud : ScriptedCloud)
    (request : Request)
    (spares : request.SparesImages) :
    (cloud.answer request).2.images = cloud.images := by
  rw [answer_eq_carryOut]
  cases request with
  | listImages | getDroplet id => rfl
  | getEvent event =>
      rw [carryOut_getEvent_snd]
      rcases (cloud.logging (.getEvent event)).nextStatus_cases event with
          ⟨_, next⟩ | ⟨_, _, next⟩ | ⟨_, _, _, _, next⟩
      all_goals
        rw [next]
        rfl
  | dropletAction id action =>
      cases action with
      | powerOff =>
          rw [carryOut]
          rcases (cloud.logging
              (.dropletAction id .powerOff)).nextActionEvent_cases
              DropletAction.powerOff.segment with ⟨_, next⟩ | ⟨_, _, _, next⟩
          all_goals
            rw [next]
            rfl
      | _ => cases spares
  | _ => cases spares

/--
The scripted provider keeps its images, wherever key pairs and names come from.
-/
theorem keepsImages_sharedWorld
    (generate : τ → Except Failure KeyPair × τ)
    (propose : τ → String → String × τ) :
    (sharedWorld generate propose).KeepsImages fun state => state.1.images where
  listed told := (Except.ok.inj told).symm
  spared request spares state := images_answer state.1 request spares

/-- A provider with one image, at which one capture can succeed. -/
def preparedForCapture (older : Image) : ScriptedCloud :=
  { empty with
    images := [older]
    actionEvents := [1, 2]
    scripts := [(1, [.done]), (2, [.done])] }

end ScriptedCloud

namespace Compute

/-- Where no listed image has the name, the captured image is given. -/
theorem captures_give_first_of_name_unhidden :
    let world := ScriptedCloud.sharedWorld
      (fun state : Unit => (.error (.transport .noResponse), state))
      (fun state group => (group, state))
    let images := fun state : ScriptedCloud × Unit => state.1.images
    let older : Image := ⟨1601, "other", "CentOS", true, some "centos"⟩
    let new := ScriptedCloud.snapshotImage 5000 "img"
    let compute : Compute := ⟨.uniform ⟨1, 1, 1⟩, 1, fun _ => none⟩
    world.KeepsImages images ∧
      CapturesFirst world images "img" (compute.createImage ⟨"img", "42"⟩) ∧
      ∃ final,
        (compute.createImage ⟨"img", "42"⟩).run world
            (.start (ScriptedCloud.preparedForCapture older, ())) =
          (some (.ok new.toPortable), final) ∧
          images final.state = [older, new] := by
  intro world images older new compute
  have keeps : world.KeepsImages images :=
    ScriptedCloud.keepsImages_sharedWorld ..
  exact ⟨keeps,
    (captures_give_first_of_name world images keeps compute "img" "42").1,
    _, rfl, rfl⟩

/--
An older image of the same name is given in place of the one that was captured.
-/
theorem older_image_hides_captured_image :
    let world := ScriptedCloud.sharedWorld
      (fun state : Unit => (.error (.transport .noResponse), state))
      (fun state group => (group, state))
    let images := fun state : ScriptedCloud × Unit => state.1.images
    let older : Image := ⟨1601, "img", "CentOS", true, some "centos"⟩
    let new := ScriptedCloud.snapshotImage 5000 "img"
    let compute : Compute := ⟨.uniform ⟨1, 1, 1⟩, 1, fun _ => none⟩
    world.KeepsImages images ∧
      new.name = "img" ∧
      older.toPortable ≠ new.toPortable ∧
      ∃ final,
        (compute.createImage ⟨"img", "42"⟩).run world
            (.start (ScriptedCloud.preparedForCapture older, ())) =
          (some (.ok older.toPortable), final) ∧
          images final.state = [older, new] := by
  intro world images older new compute
  refine ⟨ScriptedCloud.keepsImages_sharedWorld .., rfl, ?_, _, rfl, rfl⟩
  intro same
  have sameId : older.id = new.id :=
    Identifier.text_inj (congrArg PortableImage.id same)
  exact absurd sameId (by decide)

end Compute

end DropletClient
