import DropletClient.Compute.Imaging
import DropletClient.Proofs.Workflow.Discipline

namespace DropletClient

/-!
# Workflows wait for what they start

`Workflow.waitFor` looks at one event until the wait is over, and the
workflows that create, reboot, resume, suspend and capture nodes keep the
discipline of waiting.
-/

/--
Looks at one event, all but the last of which find it pending, and how they end.
-/
def Watched
    (event : Int32)
    (kind : EventKind)
    (looks : List Exchange)
    (outcome : Option (Except Failure Unit)) : Prop :=
  ∃ waiting last,
    looks = waiting ++ [last] ∧
      (∀ look ∈ waiting, look.Finds event .pending) ∧
      (last.Finds event .done ∧ outcome = some (.ok ()) ∨
        Stops event kind last outcome)

theorem Watched.cons
    {event : Int32}
    {kind : EventKind}
    {look : Exchange}
    {looks : List Exchange}
    {outcome : Option (Except Failure Unit)}
    (finds : look.Finds event .pending)
    (watched : Watched event kind looks outcome) :
    Watched event kind (look :: looks) outcome := by
  obtain ⟨waiting, last, rfl, pending, ending⟩ := watched
  refine ⟨look :: waiting, last, rfl, ?_, ending⟩
  intro other member
  rcases List.mem_cons.mp member with rfl | inWaiting
  · exact finds
  · exact pending other inWaiting

namespace Workflow

/-- A pause exchanges nothing, and ends with a timeout if no time is left. -/
theorem pause_plays
    {kind : EventKind}
    {event : Int32}
    {deadline : Option Nat}
    {period : Nat}
    {steps : List Step}
    {outcome : Option (Except Failure Unit)}
    (plays : (pause kind event deadline period).Plays steps outcome) :
    exchanges steps = [] ∧
      (outcome = some (.ok ()) ∨
        outcome = some (.error (.timeout kind event))) := by
  cases deadline with
  | none =>
      obtain ⟨rfl, rfl⟩ := plays.of_sleep
      exact ⟨rfl, .inl rfl⟩
  | some limit =>
      obtain ⟨time, goesOn⟩ := Plays.of_readClock plays
      split at goesOn
      · obtain ⟨rfl, rfl⟩ := goesOn.of_finished
        exact ⟨rfl, .inr rfl⟩
      · obtain ⟨rfl, rfl⟩ := goesOn.of_sleep
        exact ⟨rfl, .inl rfl⟩

/--
What one look leads to: the end of the wait, or a pause and the looks
that follow.
-/
theorem poll_succ_plays
    {policy : PollPolicy}
    {kind : EventKind}
    {event : Int32}
    {deadline : Option Nat}
    {looks period : Nat}
    {steps : List Step}
    {outcome : Option (Except Failure Unit)}
    (plays : (poll policy kind event deadline (looks + 1) period).Plays steps
      outcome) :
    (∃ last,
        exchanges steps = [last] ∧
          (last.Finds event .done ∧ outcome = some (.ok ()) ∨
            Stops event kind last outcome)) ∨
      ∃ look later,
        look.Finds event .pending ∧
          exchanges steps = look :: exchanges later ∧
          (poll policy kind event deadline looks
            (policy.nextPeriod period)).Plays later outcome := by
  rw [poll] at plays
  rcases plays.of_bind_send with
    ⟨seen, later, rfl, goesOn⟩ | ⟨failure, rfl, rfl⟩
  · have finds : Exchange.Finds ⟨.getEvent event, .ok seen⟩ event seen.status :=
      ⟨seen, rfl, rfl⟩
    rw [exchanges_sent]
    cases status : seen.status with
    | done =>
        rw [status] at goesOn finds
        obtain ⟨rfl, rfl⟩ := goesOn.of_finished
        exact .inl ⟨_, rfl, .inl ⟨finds, rfl⟩⟩
    | error =>
        rw [status] at goesOn finds
        obtain ⟨rfl, rfl⟩ := goesOn.of_finished
        exact .inl ⟨_, rfl, .inr (.failed finds)⟩
    | pending =>
        rw [status] at goesOn finds
        rcases goesOn.of_bind with
            ⟨_, paused, rest, pauses, follows, rfl⟩ | ⟨failure, pauses, rfl⟩
              | ⟨pauses, rfl⟩
        · rw [exchanges_append, (pause_plays pauses).1]
          exact .inr ⟨_, rest, finds, rfl, follows⟩
        · obtain ⟨quiet, succeeds | fails⟩ := pause_plays pauses
          · cases succeeds
          · cases fails
            rw [quiet]
            exact .inl ⟨_, rfl, .inr (.timedOut finds)⟩
        · obtain ⟨_, succeeds | fails⟩ := pause_plays pauses
          · cases succeeds
          · cases fails
  · exact .inl ⟨_, rfl, .inr (.lost rfl)⟩

/--
At least one look is taken at an event, and none after it is known how the
wait ends.
-/
theorem poll_plays
    {policy : PollPolicy}
    {kind : EventKind}
    {event : Int32}
    {deadline : Option Nat}
    {looks period : Nat}
    {steps : List Step}
    {outcome : Option (Except Failure Unit)}
    (plays : (poll policy kind event deadline (looks + 1) period).Plays steps
      outcome) :
    Watched event kind (exchanges steps) outcome := by
  induction looks generalizing period steps with
  | zero =>
      rcases poll_succ_plays plays with
        ⟨last, shape, ending⟩ | ⟨look, later, finds, shape, goesOn⟩
      · exact ⟨[], last, shape, by simp, ending⟩
      · obtain ⟨rfl, rfl⟩ := goesOn.of_unfinished
        exact ⟨[], look, shape, by simp, .inr (.cutOff finds)⟩
  | succ looks inductionHypothesis =>
      rcases poll_succ_plays plays with
        ⟨last, shape, ending⟩ | ⟨look, later, finds, shape, goesOn⟩
      · exact ⟨[], last, shape, by simp, ending⟩
      · rw [shape]
        exact (inductionHypothesis goesOn).cons finds

/-- A wait is a sequence of looks, of which there is one at least. -/
theorem waitFor_plays
    {policies : PollPolicies}
    {patience : Nat}
    {event : Int32}
    {kind : EventKind}
    {steps : List Step}
    {outcome : Option (Except Failure Unit)}
    (plays : (waitFor policies patience event kind).Plays steps outcome) :
    Watched event kind (exchanges steps) outcome := by
  obtain ⟨start, goesOn⟩ := Plays.of_readClock plays
  exact poll_plays goesOn

end Workflow

namespace Compute

/-- A workflow whose exchanges are orderly in every play. -/
def KeepsOrder (undertaking : Undertaking) (workflow : Workflow α) : Prop :=
  ∀ steps outcome,
    workflow.Plays steps outcome → Orderly undertaking (exchanges steps) outcome

section Parts

variable {undertaking : Undertaking}

theorem keepsOrder_pure
    (value : α) :
    KeepsOrder undertaking (pure value : Workflow α) := by
  intro steps outcome plays
  obtain ⟨rfl, rfl⟩ := plays.of_finished
  exact .returned value

/-- Orderly parts make an orderly whole. -/
theorem keepsOrder_bind
    {workflow : Workflow α}
    {next : α → Workflow β}
    (first : KeepsOrder undertaking workflow)
    (second : ∀ value, KeepsOrder undertaking (next value)) :
    KeepsOrder undertaking (workflow >>= next) := by
  intro steps outcome plays
  rcases plays.of_bind with
      ⟨value, before, after, firstPlays, secondPlays, rfl⟩ |
      ⟨failure, firstPlays, rfl⟩ | ⟨firstPlays, rfl⟩
  · rw [exchanges_append]
    exact (first _ _ firstPlays).append (second value _ _ secondPlays)
  · exact (first _ _ firstPlays).failure
  · exact (first _ _ firstPlays).unfinished

/--
A request that starts nothing and looks at no event is orderly if no answer to
it is a miss.
-/
theorem keepsOrder_send
    {request : Request}
    (startsNothing : ∀ reply, Exchange.started? ⟨request, reply⟩ = none)
    (looksAtNothing : ∀ reply, Exchange.lookedAt? ⟨request, reply⟩ = none)
    (misses : ∀ answer, undertaking.missing? ⟨request, .ok answer⟩ = none) :
    KeepsOrder undertaking (Workflow.send request) := by
  intro steps outcome plays
  obtain ⟨reply, rfl, rfl⟩ := plays.of_send
  cases reply with
  | ok answer =>
      exact .passed (startsNothing _) (looksAtNothing _) (misses answer)
        (.returned answer)
  | error failure =>
      exact .stopped (startsNothing _) (looksAtNothing _) rfl

/-- A change is orderly together with the wait for the event that it starts. -/
theorem keepsOrder_change
    {compute : Compute}
    {request : Request}
    {eventOf : request.Answer → Int32}
    {kind : EventKind}
    {next : request.Answer → Workflow α}
    (starts :
      ∀ answer,
        Exchange.started? ⟨request, .ok answer⟩ = some (eventOf answer, kind))
    (startsNothing :
      ∀ failure, Exchange.started? ⟨request, .error failure⟩ = none)
    (looksAtNothing : ∀ reply, Exchange.lookedAt? ⟨request, reply⟩ = none)
    (second : ∀ answer, KeepsOrder undertaking (next answer)) :
    KeepsOrder undertaking (do
      let answer ← Workflow.send request
      compute.waitFor (eventOf answer) kind
      next answer) := by
  intro steps outcome plays
  rcases plays.of_bind_send with
    ⟨answer, later, rfl, goesOn⟩ | ⟨failure, rfl, rfl⟩
  · rw [exchanges_sent]
    rcases goesOn.of_bind with
        ⟨_, looks, rest, waits, follows, rfl⟩ | ⟨failure, waits, rfl⟩
          | ⟨waits, rfl⟩
    · obtain ⟨waiting, last, shape, pending, ⟨done, _⟩ | stops⟩ :=
        Workflow.waitFor_plays waits
      · rw [exchanges_append, shape, List.append_assoc]
        exact .awaited (starts answer) pending done (second answer _ _ follows)
      · cases stops
    · obtain ⟨waiting, last, shape, pending, ⟨_, succeeds⟩ | stops⟩ :=
        Workflow.waitFor_plays waits
      · cases succeeds
      · rw [shape]
        exact .abandoned (starts answer) pending stops.failure
    · obtain ⟨waiting, last, shape, pending, ⟨_, succeeds⟩ | stops⟩ :=
        Workflow.waitFor_plays waits
      · cases succeeds
      · rw [shape]
        exact .abandoned (starts answer) pending stops.unfinished
  · exact .stopped (startsNothing failure) (looksAtNothing _) rfl

/-- A lookup of a droplet is orderly if a miss leads to its failure. -/
theorem keepsOrder_getDroplet
    {id : Int32}
    {failure : Failure}
    {next : Option Droplet → Workflow α}
    (missed : undertaking.missing? ⟨.getDroplet id, .ok none⟩ = some failure)
    (fails : next none = .fail failure)
    (second : ∀ droplet, KeepsOrder undertaking (next (some droplet))) :
    KeepsOrder undertaking (Workflow.send (.getDroplet id) >>= next) := by
  intro steps outcome plays
  rcases plays.of_bind_send with
    ⟨answer, later, rfl, goesOn⟩ | ⟨failure, rfl, rfl⟩
  · cases answer with
    | some droplet => exact .passed rfl rfl rfl (second droplet _ _ goesOn)
    | none =>
        rw [fails] at goesOn
        obtain ⟨rfl, rfl⟩ := goesOn.of_finished
        exact .stopped rfl rfl missed
  · exact .stopped rfl rfl rfl

/--
The search for an image with a name is orderly if its failure is the one
for a miss.
-/
theorem keepsOrder_imageNamed
    {name : String}
    (sought : undertaking.imageName = some name) :
    KeepsOrder undertaking (imageNamed name) := by
  intro steps outcome plays
  rcases plays.of_bind_send with
    ⟨images, later, rfl, goesOn⟩ | ⟨failure, rfl, rfl⟩
  · cases found : images.find? fun image => image.name == name with
    | some image =>
        rw [found] at goesOn
        obtain ⟨rfl, rfl⟩ := goesOn.of_finished
        have listed :
            undertaking.missing? ⟨.listImages, .ok images⟩ = none := by
          simp only [Undertaking.missing?, sought, found, Option.filter,
            Option.isNone_some]
          rfl
        exact .passed rfl rfl listed (.returned image)
    | none =>
        rw [found] at goesOn
        obtain ⟨rfl, rfl⟩ := goesOn.of_finished
        have unlisted :
            undertaking.missing? ⟨.listImages, .ok images⟩ =
              some (.noSuchElement (.image name)) := by
          simp only [Undertaking.missing?, sought, found, Option.filter,
            Option.isNone_none]
          rfl
        exact .stopped rfl rfl unlisted
  · exact .stopped rfl rfl rfl

end Parts

/--
A workflow that keeps the discipline of waiting, whatever it is replied to.
-/
def KeepsDiscipline
    (undertaking : Undertaking)
    (workflow : Workflow α) : Prop :=
  workflow.Obeys fun steps outcome =>
    WaitDiscipline undertaking (exchanges steps) outcome

theorem keepsDiscipline_of_order
    {undertaking : Undertaking}
    {workflow : Workflow α}
    (accepted : undertaking.refusal = none)
    (order : KeepsOrder undertaking workflow) :
    KeepsDiscipline undertaking workflow :=
  .of_plays fun plays => (order _ _ plays).discipline accepted

/-- Failing at once with the refusal is discipline. -/
theorem keepsDiscipline_of_refusal
    {undertaking : Undertaking}
    {failure : Failure}
    (refuses : undertaking.refusal = some failure) :
    KeepsDiscipline undertaking (.fail failure : Workflow α) :=
  .of_plays fun plays => by
    obtain ⟨rfl, rfl⟩ := plays.of_finished
    exact .of_refusal refuses

/--
A template is refused if its key cannot be read; a droplet is called by its id.
-/
def creating (template : Template) : Undertaking where
  refusal :=
    match (templateKey? template).map PublicKey.ofLine with
    | some (.error fault) => some (.keyFormat fault)
    | _ => none
  dropletText := Identifier.text
  imageName := none

/--
A text that names no droplet is refused; a droplet is called by the text that
names it.
-/
def changing (id : String) : Undertaking where
  refusal :=
  if (Identifier.read? id).isNone then some (missingDroplet id) else none
  dropletText := fun _ => id
  imageName := none

/-- Capturing a node is a change of it that ends with a search for the image. -/
def capturing (name id : String) : Undertaking :=
  { changing id with imageName := some name }

/-- The droplet that a text names, if it names one, is known without asking. -/
theorem requireDropletId_of_read?
    {id : String}
    {dropletId : Int32}
    (named : Identifier.read? id = some dropletId) :
    requireDropletId id = pure dropletId := by
  simp only [requireDropletId, named]

/--
What is done to a droplet that a text names is disciplined if it is orderly
for its id.
-/
theorem keepsDiscipline_requireDropletId
    {undertaking : Undertaking}
    {id : String}
    {next : Int32 → Workflow α}
    (refusal : undertaking.refusal = (changing id).refusal)
    (order :
      ∀ dropletId,
        Identifier.read? id = some dropletId →
          KeepsOrder undertaking (next dropletId)) :
    KeepsDiscipline undertaking (requireDropletId id >>= next) := by
  cases named : Identifier.read? id with
  | none =>
      have same :
          (requireDropletId id >>= next) = .fail (missingDroplet id) := by
        simp only [requireDropletId, named]
        rfl
      rw [same]
      exact keepsDiscipline_of_refusal (by simp [refusal, changing, named])
  | some dropletId =>
      rw [requireDropletId_of_read? named, pure_bind]
      exact keepsDiscipline_of_order (by simp [refusal, changing, named])
        (order dropletId named)

section Workflows

variable (compute : Compute)

/-- What is done to a droplet is waited for. -/
theorem keepsDiscipline_actAndWait
    (id : String)
    (action : DropletAction) :
    KeepsDiscipline (changing id)
      (compute.actAndWait id action action.awaitedKind) := by
  refine keepsDiscipline_requireDropletId rfl fun dropletId _ => ?_
  have lastPart :
      (do
        let event ← Workflow.send (.dropletAction dropletId action)
        compute.waitFor event action.awaitedKind) =
      (do
        let event ← Workflow.send (.dropletAction dropletId action)
        compute.waitFor event action.awaitedKind
        pure ()) := by
    simp only [bind_pure_unit]
  rw [lastPart]
  exact keepsOrder_change (fun _ => rfl) (fun _ => rfl) (fun _ => rfl) fun _ =>
    keepsOrder_pure ()

/-- The key of a template is registered without anything to wait for. -/
theorem keepsOrder_registerTemplateKey
    (undertaking : Undertaking)
    (name : String)
    {template : Template}
    (accepted : (creating template).refusal = none) :
    KeepsOrder undertaking (registerTemplateKey name template) := by
  unfold registerTemplateKey
  simp only [creating] at accepted
  cases given : templateKey? template with
  | none => exact keepsOrder_pure []
  | some line =>
      cases readable : PublicKey.ofLine line with
      | error fault => simp [given, readable] at accepted
      | ok key =>
          simp only [readable]
          refine keepsOrder_bind ?_ fun registered => keepsOrder_pure _
          exact keepsOrder_send (fun _ => rfl) (fun _ => rfl) (fun _ => rfl)

/-- The droplet that is created is waited for before it is read back. -/
theorem keepsDiscipline_createNode
    (name : String)
    (template : Template) :
    KeepsDiscipline (creating template) (compute.createNode name template) := by
  cases refusal : (creating template).refusal with
  | none =>
      refine keepsDiscipline_of_order refusal ?_
      refine keepsOrder_bind (keepsOrder_registerTemplateKey _ name refusal)
        fun registered => ?_
      refine keepsOrder_change (fun _ => rfl) (fun _ => rfl) (fun _ => rfl)
        fun creation => ?_
      refine keepsOrder_bind ?_ fun droplet => keepsOrder_pure _
      exact keepsOrder_getDroplet rfl rfl keepsOrder_pure
  | some failure =>
      have same : compute.createNode name template = .fail failure := by
        simp only [creating] at refusal
        cases given : templateKey? template with
        | none => simp [given] at refusal
        | some line =>
            cases readable : PublicKey.ofLine line with
            | ok key => simp [given, readable] at refusal
            | error fault =>
                simp only [given, Option.map_some, readable, Option.some.injEq]
                  at refusal
                simp only [createNode, registerTemplateKey, given,
                  readable, refusal]
                rfl
      rw [same]
      exact keepsDiscipline_of_refusal refusal

/--
Powering off, capturing, and finding the image are orderly for a droplet that
is named.
-/
theorem keepsOrder_createImage
    (name : String)
    {id : String}
    {dropletId : Int32}
    (named : Identifier.read? id = some dropletId) :
    KeepsOrder (capturing name id) (compute.createImage ⟨name, id⟩) := by
  unfold createImage
  rw [requireDropletId_of_read? named, pure_bind]
  refine keepsOrder_change (fun _ => rfl) (fun _ => rfl) (fun _ => rfl)
    fun powerOff => ?_
  refine keepsOrder_change (fun _ => rfl) (fun _ => rfl) (fun _ => rfl)
    fun snapshot => ?_
  exact keepsOrder_bind (keepsOrder_imageNamed rfl) fun image =>
    keepsOrder_pure _

/--
A node is captured after it is off, and its image is looked for after it is
available.
-/
theorem keepsDiscipline_createImage
    (template : CloneTemplate) :
    KeepsDiscipline (capturing template.name template.sourceNodeId)
      (compute.createImage template) := by
  refine keepsDiscipline_requireDropletId rfl fun dropletId named => ?_
  have order := keepsOrder_createImage compute template.name named
  unfold createImage at order
  rwa [requireDropletId_of_read? named, pure_bind] at order

/-- A node that is captured by its id is looked up first. -/
theorem keepsDiscipline_createImageFromNode
    (name id : String) :
    KeepsDiscipline (capturing name id)
      (compute.createImageFromNode name id) := by
  unfold createImageFromNode buildCloneTemplate
  rw [bind_assoc]
  refine keepsDiscipline_requireDropletId rfl fun dropletId named => ?_
  rw [bind_assoc]
  exact keepsOrder_getDroplet rfl rfl fun _ =>
    keepsOrder_createImage compute name named

end Workflows

/--
Every workflow that starts something waits for it: whatever the provider replies
and whenever, a change is directly followed by looks at its event, nothing else
is done before it is done, and the first failure ends the workflow with just
that failure.
-/
theorem changes_are_awaited (compute : Compute) :
    (∀ name template,
        KeepsDiscipline (creating template)
          (compute.createNode name template)) ∧
      (∀ id, KeepsDiscipline (changing id) (compute.rebootNode id)) ∧
      (∀ id, KeepsDiscipline (changing id) (compute.resumeNode id)) ∧
      (∀ id, KeepsDiscipline (changing id) (compute.suspendNode id)) ∧
      (∀ template : CloneTemplate,
        KeepsDiscipline (capturing template.name template.sourceNodeId)
          (compute.createImage template)) ∧
      ∀ name id, KeepsDiscipline (capturing name id)
        (compute.createImageFromNode name id) :=
  ⟨keepsDiscipline_createNode compute,
    fun id => keepsDiscipline_actAndWait compute id .reboot,
    fun id => keepsDiscipline_actAndWait compute id .powerOn,
    fun id => keepsDiscipline_actAndWait compute id .powerOff,
    keepsDiscipline_createImage compute,
    keepsDiscipline_createImageFromNode compute⟩

end Compute

end DropletClient
