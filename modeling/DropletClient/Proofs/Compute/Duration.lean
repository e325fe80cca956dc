import DropletClient.Compute.Credentials
import DropletClient.Compute.Imaging
import DropletClient.Proofs.Settings.Accepted
import DropletClient.Proofs.Workflow.Duration
import DropletClient.Rehearsal

namespace DropletClient

/-!
# How long workflows on nodes take

With settings that pass the check, every workflow ends after at most the waits
that it makes: one wait for a node that is created, rebooted, resumed or
suspended, two for a node that is captured, and none for everything else.
-/

open Workflow

namespace Settings

/-- The longest wait for a kind of operation, in nanoseconds. -/
def budget (settings : Settings) (kind : EventKind) : Nat :=
  settings.wait kind * nanosecondsPerSecond

/-- How workflows wait with settings. -/
def computeWith
    (settings : Settings)
    (groupOf : String → Option String)
    (patience : Nat) :
    Compute where
  policies := settings.pollPolicies
  patience := patience
  groupOf := groupOf

/--
A family of workflows ends within a budget, with the patience of the program at
the latest.
-/
def Affords
    (settings : Settings)
    (budget : Nat)
    (workflow : Compute → Workflow α) : Prop :=
  ∀ groupOf : String → Option String,
    EndsWithin budget CommandLine.patience fun patience =>
      workflow (settings.computeWith groupOf patience)

/-- The workflows that settings afford, each with the waits that it makes. -/
structure AffordsWorkflows (settings : Settings) : Prop where
  createNode :
    ∀ name template,
      settings.Affords (settings.budget .nodeRunning) fun compute =>
        compute.createNode name template
  rebootNode :
    ∀ id, settings.Affords (settings.budget .nodeRunning) fun compute =>
      compute.rebootNode id
  resumeNode :
    ∀ id, settings.Affords (settings.budget .nodeRunning) fun compute =>
      compute.resumeNode id
  suspendNode :
    ∀ id, settings.Affords (settings.budget .nodeSuspended) fun compute =>
      compute.suspendNode id
  createImage :
    ∀ template,
      settings.Affords
        (settings.budget .nodeSuspended + settings.budget .imageAvailable)
        fun compute => compute.createImage template
  createImageFromNode :
    ∀ name id,
      settings.Affords
        (settings.budget .nodeSuspended + settings.budget .imageAvailable)
        fun compute => compute.createImageFromNode name id
  destroyNode : ∀ id, settings.Affords 0 fun _ => Compute.destroyNode id
  listNodes : settings.Affords 0 fun _ => Compute.listNodes
  listNodesByIds : ∀ ids, settings.Affords 0 fun _ => Compute.listNodesByIds ids
  listImages : settings.Affords 0 fun _ => Compute.listImages
  listHardware : settings.Affords 0 fun _ => Compute.listHardware
  listLocations : settings.Affords 0 fun _ => Compute.listLocations
  describeNodes : settings.Affords 0 fun compute => compute.describeNodes
  getNode : ∀ id, settings.Affords 0 fun _ => Compute.getNode id
  getImage : ∀ id, settings.Affords 0 fun _ => Compute.getImage id
  buildCloneTemplate : ∀ name id,
    settings.Affords 0 fun _ => Compute.buildCloneTemplate name id
  deleteImage : ∀ id, settings.Affords 0 fun _ => Compute.deleteImage id
  defaultCredentials : ∀ provisioner : Provisioner,
    settings.Affords 0 fun _ => provisioner.get
  credentialsForImage :
    ∀ (provisioner : Provisioner) image,
      settings.Affords 0 fun _ => provisioner.credentialsForImage image

end Settings

namespace Compute

theorem isInstant_requireDropletId
    (id : String) :
    (requireDropletId id).IsInstant := by
  unfold requireDropletId
  split
  · exact .of_pure _
  · exact .finished _

theorem isInstant_registerTemplateKey
    (name : String)
    (template : Template) :
    (registerTemplateKey name template).IsInstant := by
  unfold registerTemplateKey
  split
  · exact .of_pure _
  · split
    · exact .finished _
    · exact .bind (.of_send _) fun _ => .of_pure _

theorem isInstant_readBack
    (id : Int32) :
    (readBack id).IsInstant := by
  refine .bind (.of_send _) fun answer => ?_
  split
  · exact .of_pure _
  · exact .finished _

theorem isInstant_imageNamed
    (name : String) :
    (imageNamed name).IsInstant := by
  refine .bind (.of_send _) fun images => ?_
  split
  · exact .of_pure _
  · exact .finished _

theorem isInstant_buildCloneTemplate
    (name id : String) :
    (buildCloneTemplate name id).IsInstant := by
  refine .bind (isInstant_requireDropletId id) fun dropletId => ?_
  refine .bind (.of_send _) fun answer => ?_
  split
  · exact .of_pure _
  · exact .finished _

theorem isInstant_destroyNode
    (id : String) :
    (destroyNode id).IsInstant :=
  .bind (isInstant_requireDropletId id) fun _ => .bind (.of_send _) fun _ =>
    .of_pure ()

theorem isInstant_deleteImage
    (id : String) :
    (deleteImage id).IsInstant := by
  unfold deleteImage
  split
  · exact .of_pure _
  · refine .bind (.of_attempt _) fun outcome => ?_
    split <;> exact .of_pure _

theorem isInstant_getNode
    (id : String) :
    (getNode id).IsInstant := by
  unfold getNode
  split
  · exact .of_send _
  · exact .of_pure _

theorem isInstant_getImage
    (id : String) :
    (getImage id).IsInstant := by
  unfold getImage
  split
  · exact .of_send _
  · exact .of_pure _

theorem isInstant_describeNodes
    (compute : Compute) :
    compute.describeNodes.IsInstant := by
  unfold describeNodes
  iterate 4 refine .bind (.of_attempt _) fun _ => ?_
  iterate 4 refine .bind (.finished _) fun _ => ?_
  exact .of_pure _

end Compute

namespace Provisioner

theorem isInstant_unusedName
    (taken : List String)
    (attempts : Nat) :
    (unusedName taken attempts).IsInstant := by
  induction attempts with
  | zero => exact .finished _
  | succ attempts inductionHypothesis =>
      refine .bind (.of_proposeName _) fun candidate => ?_
      split
      · exact inductionHypothesis
      · exact .of_pure _

theorem isInstant_get
    (provisioner : Provisioner) :
    provisioner.get.IsInstant := by
  unfold get
  split
  · exact .of_pure _
  · refine .bind ?_ fun credentials => .of_pure _
    refine .bind .of_generateKeys fun pair => ?_
    refine .bind (.of_send _) fun keys => ?_
    refine .bind (isInstant_unusedName _ _) fun name => ?_
    exact .bind (.of_send _) fun key => .of_pure _

theorem isInstant_credentialsForImage
    (provisioner : Provisioner)
    (image : PortableImage) :
    (provisioner.credentialsForImage image).IsInstant := by
  unfold credentialsForImage
  split
  · exact .of_pure _
  · exact .bind (isInstant_get provisioner) fun provisioned => .of_pure _

end Provisioner

namespace Settings

variable {settings : Settings}

/-- An instant workflow costs nothing. -/
theorem affords_instant
    {workflow : Workflow α}
    (instant : workflow.IsInstant) :
    settings.Affords 0 fun _ => workflow :=
  fun _ => instant.endsWithin CommandLine.patience

/-- A wait costs what its kind may take. -/
theorem affords_waitFor
    (accepted : settings.validate = .ok ())
    (event : Int32)
    (kind : EventKind) :
    settings.Affords (settings.budget kind) fun compute =>
      compute.waitFor event kind := by
  intro groupOf σ world session room
  have bounded := isBounded_pollPolicy accepted kind
  have patient := mostLooks_le_patience accepted kind
  rw [← pollPolicies_get] at bounded patient
  have timeout :
      (settings.pollPolicies.get kind).timeout = settings.budget kind := by
    rw [pollPolicies_get]
    rfl
  obtain ⟨outcome, later, steps, ends, reaches, _, rests⟩ :=
    waitFor_ends world bounded event session (by omega)
  refine ⟨outcome, later, fun patience isEnough => ends patience (by omega), ?_⟩
  rw [reaches.clock]
  omega

namespace Affords

variable {budget : Nat}

/-- A sequence costs what its parts cost. -/
theorem bind
    {firstBudget secondBudget : Nat}
    {workflow : Compute → Workflow α}
    {next : Compute → α → Workflow β}
    (first : settings.Affords firstBudget workflow)
    (second : ∀ value,
      settings.Affords secondBudget fun compute => next compute value) :
    settings.Affords (firstBudget + secondBudget) fun compute =>
      workflow compute >>= next compute :=
  fun groupOf => EndsWithin.bind (first groupOf) fun value =>
    second value groupOf

/-- What comes after an instant part costs as much as alone. -/
theorem after_instant
    {workflow : Workflow α}
    {next : Compute → α → Workflow β}
    (instant : workflow.IsInstant)
    (second : ∀ value,
      settings.Affords budget fun compute => next compute value) :
    settings.Affords budget fun compute => workflow >>= next compute :=
  Nat.zero_add budget ▸ (affords_instant instant).bind second

/-- An instant part at the end costs nothing. -/
theorem before_instant
    {workflow : Compute → Workflow α}
    {next : α → Workflow β}
    (first : settings.Affords budget workflow)
    (instant : ∀ value, (next value).IsInstant) :
    settings.Affords budget fun compute => workflow compute >>= next := by
  change settings.Affords (budget + 0) fun compute => workflow compute >>= next
  exact first.bind fun value => affords_instant (instant value)

end Affords

section Accepted

variable (accepted : settings.validate = .ok ())

include accepted

/-- Doing something to a droplet costs the wait for it. -/
theorem affords_actAndWait
    (id : String)
    (action : DropletAction)
    (kind : EventKind) :
    settings.Affords (settings.budget kind) fun compute =>
      compute.actAndWait id action kind := by
  refine .after_instant (Compute.isInstant_requireDropletId id) fun dropletId =>
    ?_
  exact .after_instant (.of_send _) fun event =>
    affords_waitFor accepted event kind

/-- Creating a node costs the wait until it runs. -/
theorem affords_createNode
    (name : String)
    (template : Template) :
    settings.Affords (settings.budget .nodeRunning) fun compute =>
      compute.createNode name template := by
  refine .after_instant (Compute.isInstant_registerTemplateKey name template)
    fun registered => ?_
  refine .after_instant (.of_send _) fun creation => ?_
  refine .before_instant
    (affords_waitFor accepted creation.eventId .nodeRunning) fun _ => ?_
  exact .bind (Compute.isInstant_readBack creation.id) fun droplet => .of_pure _

/--
Capturing a node costs the waits until it is off and until the image is
available.
-/
theorem affords_createImage
    (template : CloneTemplate) :
    settings.Affords
      (settings.budget .nodeSuspended + settings.budget .imageAvailable)
      fun compute => compute.createImage template := by
  refine .after_instant (Compute.isInstant_requireDropletId _) fun dropletId =>
    ?_
  refine .after_instant (.of_send _) fun powerOff => ?_
  refine .bind (affords_waitFor accepted powerOff .nodeSuspended) fun _ => ?_
  refine .after_instant (.of_send _) fun snapshot => ?_
  refine .before_instant (affords_waitFor accepted snapshot .imageAvailable)
    fun _ => ?_
  exact .bind (Compute.isInstant_imageNamed template.name) fun image =>
    .of_pure _

/-- Accepted settings afford all workflows. -/
theorem affordsWorkflows : settings.AffordsWorkflows where
  createNode := affords_createNode accepted
  rebootNode id := affords_actAndWait accepted id .reboot .nodeRunning
  resumeNode id := affords_actAndWait accepted id .powerOn .nodeRunning
  suspendNode id := affords_actAndWait accepted id .powerOff .nodeSuspended
  createImage := affords_createImage accepted
  createImageFromNode name id :=
    .after_instant (Compute.isInstant_buildCloneTemplate name id)
      (affords_createImage accepted)
  destroyNode id := affords_instant (Compute.isInstant_destroyNode id)
  listNodes := affords_instant (.of_send _)
  listNodesByIds _ := affords_instant (.bind (.of_send _) fun _ => .of_pure _)
  listImages := affords_instant (.of_send _)
  listHardware := affords_instant (.of_send _)
  listLocations := affords_instant (.of_send _)
  describeNodes groupOf :=
    (Compute.isInstant_describeNodes
      (settings.computeWith groupOf 0)).endsWithin CommandLine.patience
  getNode id := affords_instant (Compute.isInstant_getNode id)
  getImage id := affords_instant (Compute.isInstant_getImage id)
  buildCloneTemplate name id :=
    affords_instant (Compute.isInstant_buildCloneTemplate name id)
  deleteImage id := affords_instant (Compute.isInstant_deleteImage id)
  defaultCredentials provisioner := affords_instant provisioner.isInstant_get
  credentialsForImage provisioner image :=
    affords_instant (provisioner.isInstant_credentialsForImage image)

end Accepted

/--
Settings that pass the check bound all waiting, whatever the provider replies. A
wait for an event ends after at most one look for each first period that its
time holds, and one more, and sleeps no longer than its kind may take; no amount
of patience beyond that changes how it ends. A workflow ends within the waits
that it makes. The clock is to have room for the waits, for a deadline beyond
its range never comes; it ranges over `2 ^ 63` seconds, and an accepted wait
takes a week at most.
-/
theorem waiting_is_bounded
    {settings : Settings}
    (accepted : settings.validate = .ok ()) :
    (∀ (kind : EventKind)
        (event : Int32)
        {σ : Type}
        (world : World σ)
        (session : Session σ),
        session.clock + settings.budget kind < PollPolicy.clockEnd →
        ∃ outcome later steps,
          (∀ patience,
            (settings.pollPolicy kind).mostLooks ≤ patience + 1 →
              (waitFor settings.pollPolicies patience event kind).run
                  world session =
                (some outcome, later)) ∧
          session.Reaches steps later ∧
          (exchanges steps).length ≤ (settings.pollPolicy kind).mostLooks ∧
          slept steps ≤ settings.budget kind) ∧
      settings.AffordsWorkflows := by
  refine ⟨fun kind event σ world session room => ?_, affordsWorkflows accepted⟩
  have bounded := isBounded_pollPolicy accepted kind
  have ends := @waitFor_ends σ world settings.pollPolicies kind
  rw [pollPolicies_get] at ends
  exact ends bounded event session room

/-- A provider that takes one action and never completes it. -/
def stuckProvider : Rehearsal where
  cloud := (ScriptedCloud.empty.scriptEvent 7 [.pending]).pushActionEvent 7
  faults := []
  names := []
  pairs := []
  nameUses := 0
  pairUses := 0
  trail := []

/--
With the default settings, a reboot that is never done ends within
twenty minutes.
-/
theorem waiting_is_bounded_stuck_reboot :
    (withCredentials "client" "secret").validate = .ok () ∧
      ∃ outcome later,
        (∀ patience,
          CommandLine.patience ≤ patience →
            (((withCredentials "client" "secret").computeWith Naming.groupOf?
                patience).rebootNode
                "1").run Rehearsal.world (.start stuckProvider) =
              (some outcome, later)) ∧
        later.clock ≤ 1200 * nanosecondsPerSecond := by
  have accepted : (withCredentials "client" "secret").validate = .ok () := rfl
  obtain ⟨outcome, later, ends, inTime⟩ :=
    (waiting_is_bounded accepted).2.rebootNode "1" Naming.groupOf?
      Rehearsal.world (.start stuckProvider) (by decide)
  have started : (Session.start stuckProvider).clock = 0 := rfl
  rw [started, Nat.zero_add] at inTime
  exact ⟨accepted, outcome, later, ends, inTime⟩

end Settings

end DropletClient
