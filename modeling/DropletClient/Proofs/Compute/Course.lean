import DropletClient.Compute.Imaging
import DropletClient.Proofs.Compute.Attempt
import DropletClient.Proofs.Workflow.Course

namespace DropletClient

/-!
# Courses of workflows on nodes

What is done when a wait, a change of a node, its creation or its capture
succeeds: every request is answered, what is started is found done, and what is
looked for is there.
-/

/--
The looks at an event, which is pending until the last look finds it done.
-/
inductive Awaits (event : Int32) : List Step → Prop where
  | done
      {seen : Event}
      (isDone : seen.status = .done) :
      Awaits event [.sent (.getEvent event) (.ok seen)]
  | pending
      {seen : Event}
      {later : List Step}
      (isPending : seen.status = .pending)
      (goesOn : Awaits event later) :
      Awaits event (.sent (.getEvent event) (.ok seen) :: later)

namespace Awaits

theorem ne_nil
    {event : Int32}
    {looks : List Step}
    (awaits : Awaits event looks) :
    looks ≠ [] := by
  cases awaits <;> simp

/-- No wait goes on where another one has ended. -/
theorem isUnambiguous
    (event : Int32) :
    Course.IsUnambiguous fun looks (_ : Unit) => Awaits event looks := by
  intro first second firstRest secondRest _ _ awaits other same
  refine ⟨?_, rfl⟩
  induction awaits generalizing second with
  | done isDone =>
      cases other with
      | done => cases same; rfl
      | pending isPending =>
          cases same
          cases isDone.symm.trans isPending
  | pending isPending _ inductionHypothesis =>
      cases other with
      | done isDone =>
          cases same
          cases isDone.symm.trans isPending
      | pending _ goesOn =>
          obtain ⟨sameLook, sameLater⟩ := List.cons.inj same
          rw [sameLook, inductionHypothesis goesOn sameLater]

end Awaits

namespace Workflow

/-- A pause does nothing but sleep. -/
theorem deeds_pause
    {kind : EventKind}
    {event : Int32}
    {deadline : Option Nat}
    {period : Nat}
    {steps : List Step}
    {outcome : Option (Except Failure Unit)}
    (plays : (pause kind event deadline period).Plays steps outcome) :
    deeds steps = [] := by
  cases deadline with
  | none =>
      obtain ⟨rfl, -⟩ := plays.of_sleep
      rfl
  | some limit =>
      obtain ⟨time, goesOn⟩ := Plays.of_readClock plays
      split at goesOn
      · obtain ⟨rfl, -⟩ := goesOn.of_finished
        rfl
      · obtain ⟨rfl, -⟩ := goesOn.of_sleep
        rfl

theorem poll_succeedsBy
    (policy : PollPolicy)
    (kind : EventKind)
    (event : Int32)
    (deadline : Option Nat)
    (looks period : Nat) :
    (poll policy kind event deadline looks period).SucceedsBy fun done _ =>
      Awaits event done := by
  induction looks generalizing period with
  | zero =>
      refine ⟨?_, ?_, Awaits.isUnambiguous event⟩
      · intro steps value plays
        cases plays.of_unfinished.2
      · intro steps outcome first rest value plays _ begins awaits
        obtain ⟨rfl, -⟩ := plays.of_unfinished
        obtain ⟨rfl, -⟩ := List.append_eq_nil_iff.mp begins.symm
        exact awaits.ne_nil rfl
  | succ looks inductionHypothesis =>
      -- what the rest of the wait does depends on what the look has found
      refine
        ((SucceedsBy.of_send (.getEvent event)).andThen
          (fun seen done _ =>
            seen.status = .done ∧ done = [] ∨
              seen.status = .pending ∧ Awaits event done)
          fun seen => ?_).congr ?_
      · cases seen.status with
        | done => exact (SucceedsBy.of_pure ()).congr fun done _ => by simp
        | error => exact (SucceedsBy.of_fail _).congr fun done _ => by simp
        | pending =>
            have goesOn :
                (do
                  pause kind event deadline period
                  poll policy kind event deadline looks
                    (policy.nextPeriod period)).SucceedsBy
                    fun done _ => Awaits event done :=
              .after_silence deeds_pause (inductionHypothesis _) fun _ awaits =>
                awaits.ne_nil rfl
            exact goesOn.congr fun done _ => by simp
      · intro done _
        constructor
        · rintro ⟨seen, _, later, rfl, rfl, ⟨isDone, rfl⟩ | ⟨isPending, awaits⟩⟩
          · exact .done isDone
          · exact .pending isPending awaits
        · rintro (isDone | ⟨isPending, awaits⟩)
          · exact ⟨_, _, [], rfl, rfl, .inl ⟨isDone, rfl⟩⟩
          · exact ⟨_, _, _, rfl, rfl, .inr ⟨isPending, awaits⟩⟩

/-- A wait succeeds by looks at its event, the last of which finds it done. -/
theorem waitFor_succeedsBy
    (policies : PollPolicies)
    (patience : Nat)
    (event : Int32)
    (kind : EventKind) :
    (waitFor policies patience event kind).SucceedsBy fun done _ =>
      Awaits event done :=
  .after_readClock fun _ => poll_succeedsBy ..

end Workflow

namespace Compute

open Workflow

variable {compute : Compute}

theorem requireDropletId_succeedsBy
    (id : String) :
    (requireDropletId id).SucceedsBy fun done dropletId =>
      done = [] ∧ Identifier.read? id = some dropletId := by
  unfold requireDropletId
  cases Identifier.read? id with
  | none => exact (SucceedsBy.of_fail _).congr fun done dropletId => by simp
  | some named =>
      exact (SucceedsBy.of_pure named).congr fun done dropletId => by simp

/-- What is started must be done before the rest. -/
theorem change_succeedsBy
    {request : Request}
    {eventOf : request.Answer → Int32}
    {kind : EventKind}
    {next : request.Answer → Workflow α}
    {course : request.Answer → Course α}
    (goesOn : ∀ answer, (next answer).SucceedsBy (course answer)) :
    (do
      let answer ← send request
      compute.waitFor (eventOf answer) kind
      next answer).SucceedsBy fun done result =>
        ∃ answer looks later,
          done = Step.sent request (.ok answer) :: (looks ++ later) ∧
            Awaits (eventOf answer) looks ∧ course answer later result := by
  have afterAnswer (answer : request.Answer) :
      (do
        compute.waitFor (eventOf answer) kind
        next answer).SucceedsBy
          (Course.andThen (fun looks _ => Awaits (eventOf answer) looks)
            fun _ => course answer) :=
    (waitFor_succeedsBy ..).bind fun _ => goesOn answer
  apply ((SucceedsBy.of_send request).bind afterAnswer).congr
  intro done result
  constructor
  · rintro ⟨answer, _, _, rfl, rfl, _, looks, later, rfl, awaits, goes⟩
    exact ⟨answer, looks, later, rfl, awaits, goes⟩
  · rintro ⟨answer, looks, later, rfl, awaits, goes⟩
    exact ⟨answer, _, _, rfl, rfl, (), looks, later, rfl, awaits, goes⟩

/-- A change of the droplet that a text names is started, and found done. -/
inductive Changes
    (id : String)
    (action : DropletAction) :
    List Step → Prop where
  | intro
      {dropletId event : Int32}
      {looks : List Step}
      (named : Identifier.read? id = some dropletId)
      (awaits : Awaits event looks) :
      Changes id action
        (.sent (.dropletAction dropletId action) (.ok event) :: looks)

theorem actAndWait_succeedsBy
    (id : String)
    (action : DropletAction)
    (kind : EventKind) :
    (compute.actAndWait id action kind).SucceedsBy fun done _ =>
      Changes id action done := by
  have changed (dropletId : Int32) :=
    (SucceedsBy.of_send (.dropletAction dropletId action)).bind fun event =>
      waitFor_succeedsBy compute.policies compute.patience event kind
  apply ((requireDropletId_succeedsBy id).bind changed).congr
  intro done _
  constructor
  · rintro ⟨dropletId, _, _, rfl, ⟨rfl, named⟩, event, _, looks, rfl,
      rfl, awaits⟩
    exact .intro named awaits
  · rintro ⟨named, awaits⟩
    exact ⟨_, [], _, rfl, ⟨rfl, named⟩, _, _, _, rfl, rfl, awaits⟩

/-- The destruction of the droplet that a text names is accepted. -/
theorem destroyNode_succeedsBy
    (id : String) :
    (destroyNode id).SucceedsBy fun done _ =>
      ∃ dropletId event,
        Identifier.read? id = some dropletId ∧
          done =
            [.sent (.dropletAction dropletId (.destroy true)) (.ok event)] := by
  have destroyed (dropletId : Int32) :=
    (SucceedsBy.of_send (.dropletAction dropletId (.destroy true))).bind
      fun _ => SucceedsBy.of_pure ()
  apply ((requireDropletId_succeedsBy id).bind destroyed).congr
  intro done _
  constructor
  · rintro ⟨dropletId, _, _, rfl, ⟨rfl, named⟩, event, _, _, rfl, rfl, rfl, _⟩
    exact ⟨dropletId, event, named, rfl⟩
  · rintro ⟨dropletId, event, named, rfl⟩
    exact ⟨dropletId, [], _, rfl, ⟨rfl, named⟩, event, _, [], rfl,
      rfl, rfl, rfl⟩

/--
The key of a template is registered, if it has one, and the key must be
readable.
-/
inductive Registers
    (name : String)
    (template : Template) :
    List Step → List Int32 → Prop where
  | nothing
      (noKey : templateKey? template = none) :
      Registers name template [] []
  | key
      {line : String}
      {publicKey : PublicKey}
      {key : SshKey}
      (given : templateKey? template = some line)
      (readable : PublicKey.ofLine line = .ok publicKey) :
      Registers name template [.sent (.createKey name line) (.ok key)] [key.id]

theorem registerTemplateKey_succeedsBy
    (name : String)
    (template : Template) :
    (registerTemplateKey name template).SucceedsBy
      (Registers name template) := by
  unfold registerTemplateKey
  cases given : templateKey? template with
  | none =>
      apply (SucceedsBy.of_pure []).congr
      intro done ids
      constructor
      · rintro ⟨rfl, rfl⟩
        exact .nothing given
      · intro registers
        cases registers with
        | nothing => exact ⟨rfl, rfl⟩
        | key isGiven => cases given.symm.trans isGiven
  | some line =>
      cases readable : PublicKey.ofLine line with
      | error fault =>
          simp only [readable]
          apply (SucceedsBy.of_fail _).congr
          intro done ids
          constructor
          · exact False.elim
          · intro registers
            cases registers with
            | nothing noKey => cases given.symm.trans noKey
            | key isGiven isReadable =>
                cases given.symm.trans isGiven
                cases readable.symm.trans isReadable
      | ok publicKey =>
          simp only [readable]
          apply ((SucceedsBy.of_send (.createKey name line)).bind fun key =>
            SucceedsBy.of_pure [key.id]).congr
          intro done ids
          constructor
          · rintro ⟨key, _, _, rfl, rfl, rfl, rfl⟩
            exact .key given readable
          · intro registers
            cases registers with
            | nothing noKey => cases given.symm.trans noKey
            | @key _ _ key isGiven =>
                cases given.symm.trans isGiven
                exact ⟨key, _, [], rfl, rfl, rfl, rfl⟩

/--
A droplet is ordered after its key was registered, found running, and read back.
-/
inductive Creates
    (name : String)
    (template : Template) :
    List Step → CreatedNode → Prop where
  | intro
      {registration looks : List Step}
      {ids : List Int32}
      {creation : DropletCreation}
      {droplet : Droplet}
      (registers : Registers name template registration ids)
      (awaits : Awaits creation.eventId looks) :
      Creates name template
        (registration ++
          .sent (.createDroplet (orderOf name template ids)) (.ok creation) ::
          (looks ++ [.sent (.getDroplet creation.id) (.ok (some droplet))]))
        ⟨Identifier.text droplet.id, droplet, none⟩

theorem readBack_succeedsBy
    (id : Int32) :
    (readBack id).SucceedsBy fun done droplet =>
      done = [.sent (.getDroplet id) (.ok (some droplet))] := by
  refine
    ((SucceedsBy.of_send (.getDroplet id)).andThen
      (fun answer done droplet => done = [] ∧ answer = some droplet)
      fun answer => ?_).congr ?_
  · cases answer with
    | none => exact (SucceedsBy.of_fail _).congr fun done droplet => by simp
    | some found =>
        exact (SucceedsBy.of_pure found).congr fun done droplet => by simp
  · intro done droplet
    constructor
    · rintro ⟨answer, _, _, rfl, rfl, rfl, rfl⟩
      rfl
    · rintro rfl
      exact ⟨some droplet, _, [], rfl, rfl, rfl, rfl⟩

theorem createNode_succeedsBy
    (compute : Compute)
    (name : String)
    (template : Template) :
    (compute.createNode name template).SucceedsBy (Creates name template) := by
  have afterOrder (creation : DropletCreation) :=
    (readBack_succeedsBy creation.id).bind fun droplet =>
      SucceedsBy.of_pure
        (⟨Identifier.text droplet.id, droplet, none⟩ : CreatedNode)
  apply ((registerTemplateKey_succeedsBy name template).bind fun ids =>
    change_succeedsBy afterOrder).congr
  intro done created
  constructor
  · rintro ⟨ids, registration, _, rfl, registers, creation, looks, _, rfl,
      awaits, droplet, _, _, rfl, rfl, rfl, rfl⟩
    exact .intro registers awaits
  · rintro ⟨registers, awaits⟩
    exact ⟨_, _, _, rfl, registers, _, _, _, rfl, awaits, _, _, [], rfl,
      rfl, rfl, rfl⟩

/--
A droplet is powered off and captured, and the image that results is found by
its name.
-/
inductive Captures (name id : String) : List Step → PortableImage → Prop where
  | intro
      {dropletId powerOff snapshot : Int32}
      {offLooks snapshotLooks : List Step}
      {images : List Image}
      {image : Image}
      (named : Identifier.read? id = some dropletId)
      (awaitsOff : Awaits powerOff offLooks)
      (awaitsSnapshot : Awaits snapshot snapshotLooks)
      (found : images.find? (fun image => image.name == name) = some image) :
      Captures name id
        (.sent (.dropletAction dropletId .powerOff) (.ok powerOff) ::
          (offLooks ++ .sent (.dropletAction dropletId (.snapshot (some name)))
            (.ok snapshot) ::
            (snapshotLooks ++ [.sent .listImages (.ok images)])))
        image.toPortable

theorem imageNamed_succeedsBy
    (name : String) :
    (imageNamed name).SucceedsBy fun done image =>
      ∃ images : List Image,
        done = [.sent .listImages (.ok images)] ∧
          images.find? (fun image => image.name == name) = some image := by
  refine
    ((SucceedsBy.of_send .listImages).andThen
      (fun images done image =>
        done = [] ∧
          images.find? (fun image => image.name == name) = some image)
      fun images => ?_).congr ?_
  · cases images.find? fun image => image.name == name with
    | none => exact (SucceedsBy.of_fail _).congr fun done image => by simp
    | some found =>
        exact (SucceedsBy.of_pure found).congr fun done image => by simp
  · intro done image
    constructor
    · rintro ⟨images, _, _, rfl, rfl, rfl, found⟩
      exact ⟨images, rfl, found⟩
    · rintro ⟨images, rfl, found⟩
      exact ⟨images, _, [], rfl, rfl, rfl, found⟩

theorem buildCloneTemplate_succeedsBy
    (name id : String) :
    (buildCloneTemplate name id).SucceedsBy fun done template =>
      ∃ dropletId droplet,
        Identifier.read? id = some dropletId ∧
          done = [.sent (.getDroplet dropletId) (.ok (some droplet))] ∧
          template = ⟨name, id⟩ := by
  refine
    ((requireDropletId_succeedsBy id).andThen
      (fun dropletId done template =>
        ∃ droplet,
          done = [.sent (.getDroplet dropletId) (.ok (some droplet))] ∧
            template = ⟨name, id⟩)
      fun dropletId => ?_).congr ?_
  · refine
      ((SucceedsBy.of_send (.getDroplet dropletId)).andThen
        (fun answer done template =>
          done = [] ∧ answer.isSome ∧ template = ⟨name, id⟩)
        fun answer => ?_).congr ?_
    · cases answer with
      | none => exact (SucceedsBy.of_fail _).congr fun done template => by simp
      | some found =>
          exact (SucceedsBy.of_pure _).congr fun done template => by
            simp [eq_comm]
    · intro done template
      constructor
      · rintro ⟨answer, _, _, rfl, rfl, rfl, isSome, rfl⟩
        obtain ⟨droplet, rfl⟩ := Option.isSome_iff_exists.mp isSome
        exact ⟨droplet, rfl, rfl⟩
      · rintro ⟨droplet, rfl, rfl⟩
        exact ⟨some droplet, _, [], rfl, rfl, rfl, rfl, rfl⟩
  · intro done template
    constructor
    · rintro ⟨dropletId, _, _, rfl, ⟨rfl, named⟩, droplet, rfl, rfl⟩
      exact ⟨dropletId, droplet, named, rfl, rfl⟩
    · rintro ⟨dropletId, droplet, named, rfl, rfl⟩
      exact ⟨dropletId, [], _, rfl, ⟨rfl, named⟩, droplet, rfl, rfl⟩

theorem createImage_succeedsBy
    (name id : String) :
    (compute.createImage ⟨name, id⟩).SucceedsBy (Captures name id) := by
  have afterSnapshot :=
    (imageNamed_succeedsBy name).bind fun image =>
      SucceedsBy.of_pure image.toPortable
  apply ((requireDropletId_succeedsBy id).bind fun dropletId =>
    change_succeedsBy fun _ => change_succeedsBy fun _ => afterSnapshot).congr
  intro done result
  constructor
  · rintro ⟨dropletId, _, _, rfl, ⟨rfl, named⟩, powerOff, offLooks, _, rfl,
      awaitsOff, snapshot, snapshotLooks, _, rfl, awaitsSnapshot, image, _, _,
      rfl, ⟨images, rfl, found⟩, rfl, rfl⟩
    exact .intro named awaitsOff awaitsSnapshot found
  · rintro ⟨named, awaitsOff, awaitsSnapshot, found⟩
    exact ⟨_, [], _, rfl, ⟨rfl, named⟩, _, _, _, rfl, awaitsOff, _, _, _, rfl,
      awaitsSnapshot, _, _, [], rfl, ⟨_, rfl, found⟩, rfl, rfl⟩

/-- A node that is captured by its id is found first. -/
theorem createImageFromNode_succeedsBy
    (name id : String) :
    (compute.createImageFromNode name id).SucceedsBy fun done image =>
      ∃ dropletId droplet later,
        Identifier.read? id = some dropletId ∧
          done = .sent (.getDroplet dropletId) (.ok (some droplet)) :: later ∧
          Captures name id later image := by
  have afterTemplate (template : CloneTemplate) :
      (compute.createImage template).SucceedsBy _ :=
    createImage_succeedsBy template.name template.sourceNodeId
  apply ((buildCloneTemplate_succeedsBy name id).bind afterTemplate).congr
  intro done image
  constructor
  · rintro ⟨_, _, later, rfl, ⟨dropletId, droplet, named, rfl, rfl⟩, captures⟩
    exact ⟨dropletId, droplet, later, named, rfl, captures⟩
  · rintro ⟨dropletId, droplet, later, named, rfl, captures⟩
    exact ⟨⟨name, id⟩, _, later, rfl,
      ⟨dropletId, droplet, named, rfl, rfl⟩, captures⟩

/--
The deletion of the image that a text names is tried, and it is told how
that went.
-/
theorem deleteImage_succeedsBy
    (id : String) :
    (deleteImage id).SucceedsBy fun done deleted =>
      (Identifier.read? id = none ∧ done = [] ∧ deleted = false) ∨
        ∃ imageId reply,
          Identifier.read? id = some imageId ∧
            done = [.sent (.deleteImage imageId) reply] ∧
            deleted = reply.isOk := by
  unfold deleteImage
  cases named : Identifier.read? id with
  | none =>
      exact (SucceedsBy.of_pure false).congr fun done deleted => by
        simp [eq_comm]
  | some imageId =>
      refine
        ((SucceedsBy.of_attempt (.deleteImage imageId)).andThen
          (fun reply done deleted => done = [] ∧ reply.isOk = deleted)
          fun reply => ?_).congr ?_
      · cases reply with
        | ok answer => exact .of_pure true
        | error failure => exact .of_pure false
      · intro done deleted
        constructor
        · rintro ⟨reply, _, _, rfl, rfl, rfl, rfl⟩
          exact .inr ⟨imageId, reply, rfl, rfl, rfl⟩
        · rintro (⟨⟨⟩, -⟩ | ⟨_, reply, ⟨⟩, rfl, rfl⟩)
          exact ⟨reply, _, [], rfl, rfl, rfl, rfl⟩

/-- The four lists are asked for and given. -/
theorem describeNodes_succeedsBy :
    compute.describeNodes.SucceedsBy fun done nodes =>
      ∃ (droplets : List Droplet)
          (images : List Image)
          (sizes : List Size)
          (regions : List Region),
        done =
            [.sent .listDroplets (.ok droplets), .sent .listImages (.ok images),
              .sent .listSizes (.ok sizes), .sent .listRegions (.ok regions)] ∧
          nodes = droplets.map
            (Catalog.toNode ⟨images, sizes, regions⟩ compute.groupOf) := by
  have described
      (droplets : Except Failure (List Droplet))
      (images : Except Failure (List Image))
      (sizes : Except Failure (List Size))
      (regions : Except Failure (List Region)) :=
    (SucceedsBy.of_finished droplets).bind fun droplets =>
      (SucceedsBy.of_finished images).bind fun images =>
        (SucceedsBy.of_finished sizes).bind fun sizes =>
          (SucceedsBy.of_finished regions).bind fun regions =>
            SucceedsBy.of_pure
              (droplets.map
                (Catalog.toNode ⟨images, sizes, regions⟩ compute.groupOf))
  apply ((SucceedsBy.of_attempt .listDroplets).bind fun droplets =>
    (SucceedsBy.of_attempt .listImages).bind fun images =>
      (SucceedsBy.of_attempt .listSizes).bind fun sizes =>
        (SucceedsBy.of_attempt .listRegions).bind fun regions =>
          described droplets images sizes regions).congr
  intro done nodes
  constructor
  · rintro ⟨_, _, _, rfl, rfl, _, _, _, rfl, rfl, _, _, _, rfl, rfl, _, _, _,
      rfl, rfl, droplets, _, _, rfl, ⟨rfl, rfl⟩, images, _, _, rfl, ⟨rfl, rfl⟩,
      sizes, _, _, rfl, ⟨rfl, rfl⟩, regions, _, _, rfl, ⟨rfl, rfl⟩, rfl, rfl⟩
    exact ⟨droplets, images, sizes, regions, rfl, rfl⟩
  · rintro ⟨droplets, images, sizes, regions, rfl, rfl⟩
    exact ⟨_, _, _, rfl, rfl, _, _, _, rfl, rfl, _, _, _, rfl, rfl, _, _, [],
      rfl, rfl, droplets, [], [], rfl, ⟨rfl, rfl⟩, images, [], [], rfl,
      ⟨rfl, rfl⟩, sizes, [], [], rfl, ⟨rfl, rfl⟩, regions, [], [], rfl,
      ⟨rfl, rfl⟩, rfl, rfl⟩

end Compute

namespace Provisioner

open Workflow

/-- Candidates are proposed until one is not taken. -/
theorem unusedName_succeedsBy
    (taken : List String)
    (attempts : Nat) :
    (unusedName taken attempts).SucceedsBy fun done name =>
      Tries taken attempts done (.ok name) := by
  induction attempts with
  | zero =>
      apply (SucceedsBy.of_fail _).congr
      intro done name
      exact ⟨False.elim, nofun⟩
  | succ attempts inductionHypothesis =>
      have afterCandidate (candidate : String) :
          (if taken.contains candidate then unusedName taken attempts
            else pure candidate).SucceedsBy fun done name =>
            candidate ∈ taken ∧ Tries taken attempts done (.ok name) ∨
              candidate ∉ taken ∧ done = [] ∧ candidate = name := by
        by_cases occupied : candidate ∈ taken
        · rw [if_pos (List.contains_iff_mem.mpr occupied)]
          exact inductionHypothesis.congr fun done name => by simp [occupied]
        · rw [if_neg (mt List.contains_iff_mem.mp occupied)]
          exact (SucceedsBy.of_pure candidate).congr fun done name => by
            simp [occupied]
      apply
        ((SucceedsBy.of_proposeName credentialsGroup).bind afterCandidate).congr
      intro done name
      constructor
      · rintro ⟨candidate, _, _, rfl, rfl, ⟨occupied, tries⟩ | ⟨free, rfl, rfl⟩⟩
        · exact .used occupied tries
        · exact .unused free
      · rintro (_ | free | ⟨occupied, tries⟩)
        · exact ⟨name, _, [], rfl, rfl, .inr ⟨free, rfl, rfl⟩⟩
        · exact ⟨_, _, _, rfl, rfl, .inl ⟨occupied, tries⟩⟩

/-- Provisioning succeeds by an attempt that does. -/
theorem provision_succeedsBy :
    provision.SucceedsBy fun done credentials =>
      Attempt done (.ok credentials) := by
  have registered (pair : KeyPair) (name : String) :=
    (SucceedsBy.of_send (.createKey name pair.publicKey)).bind fun key =>
      SucceedsBy.of_pure
        (⟨key, ⟨defaultUser, some pair.privateKey⟩⟩ : DefaultCredentials)
  apply (SucceedsBy.of_generateKeys.bind fun pair =>
    (SucceedsBy.of_send .listKeys).bind fun keys =>
      (unusedName_succeedsBy (keys.map SshKey.name) nameAttempts).bind
        fun name => registered pair name).congr
  intro done credentials
  constructor
  · rintro ⟨pair, _, _, rfl, rfl, keys, _, _, rfl, rfl, name, proposals, _, rfl,
      tries, key, _, _, rfl, rfl, rfl, rfl⟩
    exact .registered tries
  · rintro (_ | _ | _ | _ | tries)
    exact ⟨_, _, _, rfl, rfl, _, _, _, rfl, rfl, _, _, _, rfl, tries, _, _, [],
      rfl, rfl, rfl, rfl⟩

end Provisioner

end DropletClient
