import DropletClient.CommandLine.Program
import DropletClient.Proofs.Compute.Course

namespace DropletClient.CommandLine

/-!
# What commands accomplish

`Accomplishes` tells for every command what is done, and printed, when all of
its steps succeed. That is just how the workflow of the command comes to give an
output (`workflow_iff`).
-/

open Compute Workflow

/--
What is printed of the default credentials: two lines about the key, and its
private half.
-/
def credentialsText (defaults : DefaultCredentials) : String :=
  "# key " ++ Identifier.text defaults.key.id ++ " (" ++
    defaults.key.name ++ ")\n" ++
    "# user " ++ defaults.credentials.user ++ "\n" ++
    defaults.credentials.privateKey.getD ""

/-- How a new droplet gets its name. -/
inductive Names (arguments : CreateArguments) : List Step → String → Prop where
  | given
      {name : String}
      (isGiven : arguments.name = some name) :
      Names arguments [] name
  | proposed
      {name : String}
      (noName : arguments.name = none) :
      Names arguments [.proposed arguments.group name] name

/--
What is done for a command when every step of it succeeds, and what is
printed then.
-/
inductive Accomplishes
    (groupOf : String → Option String)
    (key : Option String) :
    Command → List Step → String → Prop where
  | nodes
      {droplets : List Droplet}
      {images : List Image}
      {sizes : List Size}
      {regions : List Region} :
      Accomplishes groupOf key .nodes
        [.sent .listDroplets (.ok droplets), .sent .listImages (.ok images),
          .sent .listSizes (.ok sizes), .sent .listRegions (.ok regions)]
        (listing nodeColumns
          (droplets.map (Catalog.toNode ⟨images, sizes, regions⟩ groupOf)))
  | images
      {images : List Image} :
      Accomplishes groupOf key .images [.sent .listImages (.ok images)]
        (listing imageColumns (images.map Image.toPortable))
  | sizes
      {sizes : List Size} :
      Accomplishes groupOf key .sizes [.sent .listSizes (.ok sizes)]
        (listing sizeColumns sizes)
  | regions
      {regions : List Region} :
      Accomplishes groupOf key .regions [.sent .listRegions (.ok regions)]
        (listing regionColumns regions)
  | create
      {arguments : CreateArguments}
      {naming creation : List Step}
      {name : String}
      {created : CreatedNode}
      (names : Names arguments naming name)
      (creates : Creates name (arguments.template key) creation created) :
      Accomplishes groupOf key (.create arguments) (naming ++ creation)
        (line [created.id, created.node.name, created.node.ip])
  | destroy
      {id : String}
      {dropletId event : Int32}
      (named : Identifier.read? id = some dropletId) :
      Accomplishes groupOf key (.destroy id)
        [.sent (.dropletAction dropletId (.destroy true)) (.ok event)] ""
  | reboot
      {id : String}
      {done : List Step}
      (changes : Changes id .reboot done) :
      Accomplishes groupOf key (.reboot id) done ""
  | suspend
      {id : String}
      {done : List Step}
      (changes : Changes id .powerOff done) :
      Accomplishes groupOf key (.suspend id) done ""
  | resume
      {id : String}
      {done : List Step}
      (changes : Changes id .powerOn done) :
      Accomplishes groupOf key (.resume id) done ""
  | cloneImage
      {node name : String}
      {dropletId : Int32}
      {droplet : Droplet}
      {capture : List Step}
      {image : PortableImage}
      (named : Identifier.read? node = some dropletId)
      (captures : Captures name node capture image) :
      Accomplishes groupOf key (.cloneImage node name)
        (.sent (.getDroplet dropletId) (.ok (some droplet)) :: capture)
        (listing imageColumns [image])
  | deleteImage
      {id : String}
      {imageId : Int32}
      (named : Identifier.read? id = some imageId) :
      Accomplishes groupOf key (.deleteImage id)
        [.sent (.deleteImage imageId) (.ok ())] ""
  | defaultCredentials
      {done : List Step}
      {defaults : DefaultCredentials}
      (attempt : Provisioner.Attempt done (.ok defaults)) :
      Accomplishes groupOf key .defaultCredentials done
        (credentialsText defaults)

section Commands

variable {steps : List Step}
  {outcome : Option (Except Failure (Except Fault String))}

/-- What is printed of a value is printed if the value is given. -/
private theorem printed_iff
    {workflow : Workflow α}
    {course : Course α}
    {render : α → String}
    (succeeds : workflow.SucceedsBy course)
    (plays : (do return Except.ok (render (← workflow))).Plays steps outcome)
    (output : String) :
    outcome = some (.ok (.ok output)) ↔
      ∃ value, course (deeds steps) value ∧ render value = output := by
  have printed := succeeds.bind fun value =>
    SucceedsBy.of_pure (Except.ok (render value) : Except Fault String)
  rw [printed.succeeds_iff plays]
  generalize deeds steps = done
  constructor
  · rintro ⟨value, _, _, rfl, goes, rfl, same⟩
    cases same
    exact ⟨value, (List.append_nil _).symm ▸ goes, rfl⟩
  · rintro ⟨value, goes, rfl⟩
    exact ⟨value, done, [], (List.append_nil done).symm, goes, rfl, rfl⟩

theorem creationOutput_succeedsBy
    (compute : Compute)
    (arguments : CreateArguments)
    (key : Option String) :
    (creationOutput compute arguments key).SucceedsBy fun done output =>
      ∃ naming creation name created,
        done = naming ++ creation ∧
          Names arguments naming name ∧
          Creates name (arguments.template key) creation created ∧
          output = line [created.id, created.node.name, created.node.ip] := by
  have created (name : String) :=
    (createNode_succeedsBy compute name (arguments.template key)).bind
      fun created =>
        SucceedsBy.of_pure
          (line [created.id, created.node.name, created.node.ip])
  unfold creationOutput
  cases isGiven : arguments.name with
  | some name =>
      apply ((SucceedsBy.of_pure name).bind created).congr
      intro done output
      constructor
      · rintro ⟨_, _, _, rfl, ⟨rfl, rfl⟩, node, creation, _, rfl,
          creates, rfl, rfl⟩
        exact ⟨[], creation, name, node, by simp, .given isGiven, creates, rfl⟩
      · rintro ⟨_, creation, _, node, rfl, names, creates, rfl⟩
        cases names with
        | proposed noName => cases isGiven.symm.trans noName
        | given isName =>
            cases isGiven.symm.trans isName
            exact ⟨name, [], creation, rfl, ⟨rfl, rfl⟩, node, creation, [],
              by simp, creates, rfl, rfl⟩
  | none =>
      apply ((SucceedsBy.of_proposeName arguments.group).bind created).congr
      intro done output
      constructor
      · rintro ⟨name, _, _, rfl, rfl, node, creation, _, rfl, creates, rfl, rfl⟩
        exact ⟨_, creation, name, node, by simp, .proposed isGiven,
          creates, rfl⟩
      · rintro ⟨_, creation, name, node, rfl, names, creates, rfl⟩
        cases names with
        | given isName => cases isGiven.symm.trans isName
        | proposed =>
            exact ⟨name, _, creation, rfl, rfl, node, creation, [], by simp,
              creates, rfl, rfl⟩

/-- The default key is registered, and its private half is printed. -/
theorem credentialsOutput_succeedsBy :
    credentialsOutput.SucceedsBy fun done output =>
      ∃ defaults,
        Provisioner.Attempt done (.ok defaults) ∧
          output = credentialsText defaults := by
  apply ((Provisioner.provision_succeedsBy.bind fun defaults =>
    SucceedsBy.of_pure (defaults, (⟨some defaults⟩ : Provisioner))).bind
      fun provided => SucceedsBy.of_pure (credentialsText provided.1)).congr
  intro done output
  constructor
  · rintro ⟨_, _, _, rfl, ⟨defaults, _, _, rfl, attempt, rfl, rfl⟩, rfl, rfl⟩
    exact ⟨defaults, by simpa using attempt, rfl⟩
  · rintro ⟨defaults, attempt, rfl⟩
    exact ⟨_, done, [], by simp,
      ⟨defaults, done, [], by simp, attempt, rfl, rfl⟩, rfl, rfl⟩

/-- A change of a node prints nothing, if it succeeds. -/
private theorem changed_iff
    {compute : Compute}
    {id : String}
    {action : DropletAction}
    {kind : EventKind}
    (plays :
      (do
        compute.actAndWait id action kind
        return Except.ok "").Plays steps outcome)
    (output : String) :
    outcome = some (.ok (.ok output)) ↔
      Changes id action (deeds steps) ∧ output = "" := by
  rw [printed_iff (actAndWait_succeedsBy id action kind) plays]
  constructor
  · rintro ⟨_, changes, rfl⟩
    exact ⟨changes, rfl⟩
  · rintro ⟨changes, rfl⟩
    exact ⟨(), changes, rfl⟩

/-- Deleting an image gives an output only if the deletion is accepted. -/
theorem deletionOutput_iff
    {id : String}
    (plays : (deletionOutput id).Plays steps outcome)
    (output : String) :
    outcome = some (.ok (.ok output)) ↔
      ∃ imageId,
        Identifier.read? id = some imageId ∧
          deeds steps = [.sent (.deleteImage imageId) (.ok ())] ∧
          output = "" := by
  have afterDeletion (deleted : Bool) :
      (if deleted then pure (.ok "") else pure (.error (.imageNotDeleted id)) :
        Workflow (Except Fault String)).SucceedsBy fun done result =>
          done = [] ∧
            (if deleted then .ok "" else .error (.imageNotDeleted id)) =
              result := by
    cases deleted with
    | true => exact .of_pure _
    | false => exact .of_pure _
  rw [((deleteImage_succeedsBy id).bind afterDeletion).succeeds_iff plays]
  generalize deeds steps = done
  constructor
  · rintro ⟨_, _, _, rfl, ⟨-, rfl, rfl⟩ | ⟨imageId, reply, named, rfl, rfl⟩,
      rfl, same⟩
    · cases same
    · cases reply with
      | ok answer =>
          cases same
          exact ⟨imageId, named, rfl, rfl⟩
      | error failure => cases same
  · rintro ⟨imageId, named, rfl, rfl⟩
    exact ⟨true, _, [], rfl, .inr ⟨imageId, .ok (), named, rfl, rfl⟩, rfl, rfl⟩

/--
A command gives an output if and only if all of its steps succeed, and then it
is theirs.
-/
theorem workflow_iff
    {compute : Compute}
    {key : Option String}
    {command : Command}
    (plays : (command.workflow compute key).Plays steps outcome)
    (output : String) :
    outcome = some (.ok (.ok output)) ↔
      Accomplishes compute.groupOf key command (deeds steps) output := by
  cases command with
  | nodes =>
      rw [printed_iff describeNodes_succeedsBy plays]
      generalize deeds steps = done
      constructor
      · rintro ⟨_, ⟨droplets, images, sizes, regions, rfl, rfl⟩, rfl⟩
        exact .nodes
      · rintro ⟨⟩
        exact ⟨_, ⟨_, _, _, _, rfl, rfl⟩, rfl⟩
  | images =>
      rw [printed_iff (SucceedsBy.of_send .listImages) plays]
      generalize deeds steps = done
      constructor
      · rintro ⟨images, rfl, rfl⟩
        exact .images
      · rintro ⟨⟩
        exact ⟨_, rfl, rfl⟩
  | sizes =>
      rw [printed_iff (SucceedsBy.of_send .listSizes) plays]
      generalize deeds steps = done
      constructor
      · rintro ⟨sizes, rfl, rfl⟩
        exact .sizes
      · rintro ⟨⟩
        exact ⟨_, rfl, rfl⟩
  | regions =>
      rw [printed_iff (SucceedsBy.of_send .listRegions) plays]
      generalize deeds steps = done
      constructor
      · rintro ⟨regions, rfl, rfl⟩
        exact .regions
      · rintro ⟨⟩
        exact ⟨_, rfl, rfl⟩
  | create arguments =>
      rw [printed_iff (creationOutput_succeedsBy compute arguments key) plays]
      generalize deeds steps = done
      constructor
      · rintro ⟨_,
          ⟨naming, creation, name, created, rfl, names, creates, rfl⟩, rfl⟩
        exact .create names creates
      · intro accomplishes
        cases accomplishes with
        | create names creates =>
            exact ⟨_, ⟨_, _, _, _, rfl, names, creates, rfl⟩, rfl⟩
  | destroy id =>
      rw [printed_iff (destroyNode_succeedsBy id) plays]
      generalize deeds steps = done
      constructor
      · rintro ⟨_, ⟨dropletId, event, named, rfl⟩, rfl⟩
        exact .destroy named
      · intro accomplishes
        cases accomplishes with
        | destroy named => exact ⟨(), ⟨_, _, named, rfl⟩, rfl⟩
  | reboot id =>
      rw [changed_iff plays]
      constructor
      · rintro ⟨changes, rfl⟩
        exact .reboot changes
      · intro accomplishes
        cases accomplishes with
        | reboot changes => exact ⟨changes, rfl⟩
  | suspend id =>
      rw [changed_iff plays]
      constructor
      · rintro ⟨changes, rfl⟩
        exact .suspend changes
      · intro accomplishes
        cases accomplishes with
        | suspend changes => exact ⟨changes, rfl⟩
  | resume id =>
      rw [changed_iff plays]
      constructor
      · rintro ⟨changes, rfl⟩
        exact .resume changes
      · intro accomplishes
        cases accomplishes with
        | resume changes => exact ⟨changes, rfl⟩
  | cloneImage node name =>
      rw [printed_iff (createImageFromNode_succeedsBy name node) plays]
      generalize deeds steps = done
      constructor
      · rintro ⟨image, ⟨dropletId, droplet, capture, named, rfl, captures⟩, rfl⟩
        exact .cloneImage named captures
      · intro accomplishes
        cases accomplishes with
        | cloneImage named captures =>
            exact ⟨_, ⟨_, _, _, named, rfl, captures⟩, rfl⟩
  | deleteImage id =>
      rw [deletionOutput_iff plays]
      generalize deeds steps = done
      constructor
      · rintro ⟨imageId, named, rfl, rfl⟩
        exact .deleteImage named
      · intro accomplishes
        cases accomplishes with
        | deleteImage named => exact ⟨_, named, rfl, rfl⟩
  | defaultCredentials =>
      rw [printed_iff credentialsOutput_succeedsBy plays]
      constructor
      · rintro ⟨_, ⟨defaults, attempt, rfl⟩, rfl⟩
        exact .defaultCredentials attempt
      · intro accomplishes
        cases accomplishes with
        | defaultCredentials attempt => exact ⟨_, ⟨_, attempt, rfl⟩, rfl⟩

end Commands

end DropletClient.CommandLine
