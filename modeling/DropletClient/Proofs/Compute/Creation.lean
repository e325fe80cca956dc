import DropletClient.Proofs.Compute.Course
import DropletClient.Proofs.Compute.Waiting

namespace DropletClient

/-!
# Created nodes

To create a node is to register the key of its template, to order a
droplet, to look at the event of the order until it is over, and to read
the droplet back. The first of these that fails is the last that is done.
`nodes_are_created_by_plan` says what is called, what is ordered, and
what results.
-/

/-- Keys are added behind the others, each of them where it first occurs. -/
theorem CreateOptions.sshKeyIds_addSshKeyIds
    (options : CreateOptions)
    (ids : List Int32) :
    (options.addSshKeyIds ids).sshKeyIds =
      options.sshKeyIds ++ (ids.removeAll options.sshKeyIds).eraseDups := by
  induction ids generalizing options with
  | nil => simp [addSshKeyIds]
  | cons id ids inductionHypothesis =>
      change ((options.addSshKeyId id).addSshKeyIds ids).sshKeyIds = _
      rw [inductionHypothesis, addSshKeyId]
      cases present : options.sshKeyIds.contains id with
      | true =>
          rw [if_pos rfl, List.cons_removeAll, present]
          rfl
      | false =>
          have later :
              ids.removeAll (options.sshKeyIds ++ [id]) =
                (ids.removeAll options.sshKeyIds).filter fun other =>
                  !other == id := by
            rw [List.removeAll, List.removeAll, List.filter_filter]
            refine List.filter_congr fun other _ => ?_
            by_cases same : other = id <;> simp [same]
          rw [if_neg Bool.false_ne_true, List.cons_removeAll, present,
            if_pos rfl, later, List.eraseDups_cons, List.append_assoc]
          rfl

namespace Compute

open Workflow

/-- The call that registers the key of a template, if it has one. -/
def keyRequests (name : String) (template : Template) : List Request :=
  ((templateKey? template).map (.createKey name)).toList

/-- The order for a node after some keys were registered for it. -/
def plannedOrder
    (name : String)
    (template : Template)
    (registered : List Int32) :
    NewDroplet where
  name := name
  imageId := template.imageId
  sizeId := template.hardwareId
  regionId := template.locationId
  options := {
    sshKeyIds := (registered ++ template.sshKeyIds).eraseDups
    privateNetworking := template.privateNetworking
    backupsEnabled := template.backupsEnabled
  }

theorem orderOf_eq
    (name : String)
    (template : Template)
    (registered : List Int32) :
    orderOf name template registered =
      plannedOrder name template registered := by
  have listed :=
    CreateOptions.none.sshKeyIds_addSshKeyIds (registered ++ template.sshKeyIds)
  have fromNone : CreateOptions.none.sshKeyIds = [] := rfl
  rw [fromNone, List.nil_append, List.removeAll_nil] at listed
  rw [plannedOrder, ← listed]
  rfl

/--
The calls from an order on, if the event of the order is looked at some times.
-/
def orderRequests
    (order : NewDroplet)
    (creation : DropletCreation)
    (looks : Nat) :
    List Request :=
  .createDroplet order ::
    (List.replicate looks (.getEvent creation.eventId) ++
      [.getDroplet creation.id])

/-- The ids of the keys that were registered by some calls. -/
def registeredIds (calls : List Exchange) : List Int32 :=
  calls.filterMap fun
    | ⟨.createKey _ _, .ok key⟩ => some key.id
    | _ => none

/--
The calls from an accepted order on: looks at its event, and what is read
behind them.
-/
def acceptedCalls
    (order : NewDroplet)
    (creation : DropletCreation)
    (looks reads : List Exchange) :
    List Exchange :=
  ⟨.createDroplet order, .ok creation⟩ :: (looks ++ reads)

/-- What is called from an order on, and how it ends. -/
inductive Ordered (order : NewDroplet) :
    List Exchange → Option (Except Failure CreatedNode) → Prop where
  | refused
      {failure : Failure} :
      Ordered order [⟨.createDroplet order, .error failure⟩]
        (some (.error failure))
  | failed
      {creation : DropletCreation}
      {looks : List Exchange}
      {failure : Failure}
      (watched :
        Watched creation.eventId .nodeRunning looks (some (.error failure))) :
      Ordered order (acceptedCalls order creation looks [])
        (some (.error failure))
  | unfinished
      {creation : DropletCreation}
      {looks : List Exchange}
      (watched : Watched creation.eventId .nodeRunning looks none) :
      Ordered order (acceptedCalls order creation looks []) none
  | unread
      {creation : DropletCreation}
      {looks : List Exchange}
      {failure : Failure}
      (watched : Watched creation.eventId .nodeRunning looks (some (.ok ()))) :
      Ordered order
        (acceptedCalls order creation looks
          [⟨.getDroplet creation.id, .error failure⟩])
        (some (.error failure))
  | missing
      {creation : DropletCreation}
      {looks : List Exchange}
      (watched : Watched creation.eventId .nodeRunning looks (some (.ok ()))) :
      Ordered order
        (acceptedCalls order creation looks
          [⟨.getDroplet creation.id, .ok none⟩])
        (some (.error (missingDroplet (Identifier.text creation.id))))
  | created
      {creation : DropletCreation}
      {looks : List Exchange}
      {droplet : Droplet}
      (watched : Watched creation.eventId .nodeRunning looks (some (.ok ()))) :
      Ordered order
        (acceptedCalls order creation looks
          [⟨.getDroplet creation.id, .ok (some droplet)⟩])
        (some (.ok ⟨Identifier.text droplet.id, droplet, none⟩))

/-- The ways in which the creation of a node can go. -/
inductive Creation (name : String) (template : Template) :
    List Exchange → Option (Except Failure CreatedNode) → Prop where
  | unreadable
      {line : String}
      {fault : Key.Fault}
      (given : templateKey? template = some line)
      (unreadable : PublicKey.ofLine line = .error fault) :
      Creation name template [] (some (.error (.keyFormat fault)))
  | unregistered
      {line : String}
      {publicKey : PublicKey}
      {failure : Failure}
      (given : templateKey? template = some line)
      (readable : PublicKey.ofLine line = .ok publicKey) :
      Creation name template [⟨.createKey name line, .error failure⟩]
        (some (.error failure))
  | ordered
      {registration : List Step}
      {ids : List Int32}
      {calls : List Exchange}
      {outcome : Option (Except Failure CreatedNode)}
      (registers : Registers name template registration ids)
      (goesOn : Ordered (plannedOrder name template ids) calls outcome) :
      Creation name template (exchanges registration ++ calls) outcome

section Ways

variable
  {compute : Compute}
  {name : String}
  {template : Template}
  {steps : List Step}
  {outcome : Option (Except Failure CreatedNode)}

/--
The key of a template is registered, unless it cannot be read or the
registration fails.
-/
theorem registerTemplateKey_plays
    {result : Option (Except Failure (List Int32))}
    (plays : (registerTemplateKey name template).Plays steps result) :
    (∃ ids, Registers name template steps ids ∧ result = some (.ok ids)) ∨
      (∃ line fault,
        templateKey? template = some line ∧
          PublicKey.ofLine line = .error fault ∧
          steps = [] ∧ result = some (.error (.keyFormat fault))) ∨
      ∃ line publicKey failure,
        templateKey? template = some line ∧
          PublicKey.ofLine line = .ok publicKey ∧
          steps = [.sent (.createKey name line) (.error failure)] ∧
          result = some (.error failure) := by
  unfold registerTemplateKey at plays
  cases given : templateKey? template with
  | none =>
      rw [given] at plays
      obtain ⟨rfl, rfl⟩ := plays.of_finished
      exact .inl ⟨[], .nothing given, rfl⟩
  | some line =>
      simp only [given] at plays
      cases readable : PublicKey.ofLine line with
      | error fault =>
          simp only [readable] at plays
          obtain ⟨rfl, rfl⟩ := plays.of_finished
          exact .inr (.inl ⟨line, fault, rfl, readable, rfl, rfl⟩)
      | ok publicKey =>
          simp only [readable] at plays
          rcases plays.of_bind_send with
            ⟨key, later, rfl, goesOn⟩ | ⟨failure, rfl, rfl⟩
          · obtain ⟨rfl, rfl⟩ := goesOn.of_finished
            exact .inl ⟨[key.id], .key given readable, rfl⟩
          · exact .inr
              (.inr ⟨line, publicKey, failure, rfl, readable, rfl, rfl⟩)

/-- What is done once the key of a template is registered. -/
def orderNode
    (compute : Compute)
    (order : NewDroplet) :
    Workflow CreatedNode := do
  let creation ← send (.createDroplet order)
  compute.waitFor creation.eventId .nodeRunning
  let droplet ← readBack creation.id
  return {
    id := Identifier.text droplet.id, node := droplet, credentials := none }

theorem createNode_eq
    (compute : Compute)
    (name : String)
    (template : Template) :
    compute.createNode name template =
      registerTemplateKey name template >>= fun registered =>
        compute.orderNode (plannedOrder name template registered) := by
  simp only [← orderOf_eq]
  rfl

/--
An order is followed by a wait for it, and the wait by a look at the droplet.
-/
theorem orderNode_plays
    {order : NewDroplet}
    (plays : (compute.orderNode order).Plays steps outcome) :
    Ordered order (exchanges steps) outcome := by
  rcases plays.of_bind_send with
    ⟨creation, _, rfl, goesOn⟩ | ⟨failure, rfl, rfl⟩
  · rcases goesOn.of_bind with
        ⟨_, wait, later, waits, reads, rfl⟩ | ⟨failure, waits, rfl⟩
          | ⟨waits, rfl⟩
    · rw [readBack, bind_assoc] at reads
      rw [exchanges_sent, exchanges_append]
      rcases reads.of_bind_send with ⟨found, _, rfl, ends⟩ | ⟨failure, rfl, rfl⟩
      · cases found with
        | none =>
            obtain ⟨rfl, rfl⟩ := ends.of_finished
            exact .missing (waitFor_plays waits)
        | some droplet =>
            obtain ⟨rfl, rfl⟩ := ends.of_finished
            exact .created (waitFor_plays waits)
      · exact .unread (waitFor_plays waits)
    · rw [exchanges_sent, ← List.append_nil (exchanges _)]
      exact .failed (waitFor_plays waits)
    · rw [exchanges_sent, ← List.append_nil (exchanges _)]
      exact .unfinished (waitFor_plays waits)
  · exact .refused

theorem createNode_plays
    (plays : (compute.createNode name template).Plays steps outcome) :
    Creation name template (exchanges steps) outcome := by
  rw [createNode_eq] at plays
  rcases plays.of_bind with
      ⟨ids, registration, rest, registers, orders, rfl⟩
        | ⟨failure, registers, rfl⟩ |
      ⟨registers, _⟩
  · rcases registerTemplateKey_plays registers with
        ⟨_, registered, same⟩ | ⟨_, _, _, _, _, fails⟩
          | ⟨_, _, _, _, _, _, fails⟩
    · cases same
      rw [exchanges_append]
      exact .ordered registered (orderNode_plays orders)
    · cases fails
    · cases fails
  · rcases registerTemplateKey_plays registers with
        ⟨_, _, succeeds⟩ | ⟨line, fault, given, unreadable, rfl, fails⟩ |
        ⟨line, publicKey, _, given, readable, rfl, fails⟩
    · cases succeeds
    · cases fails
      exact .unreadable given unreadable
    · cases fails
      exact .unregistered given readable
  · rcases registerTemplateKey_plays registers with
        ⟨_, _, cut⟩ | ⟨_, _, _, _, _, cut⟩ | ⟨_, _, _, _, _, _, cut⟩
    · cases cut
    · cases cut
    · cases cut

end Ways

section Calls

variable {name : String} {template : Template}

theorem registeredIds_append
    (first second : List Exchange) :
    registeredIds (first ++ second) =
      registeredIds first ++ registeredIds second :=
  List.filterMap_append

theorem Registers.requests
    {registration : List Step}
    {ids : List Int32}
    (registers : Registers name template registration ids) :
    (exchanges registration).map Exchange.request = keyRequests name template ∧
      registeredIds (exchanges registration) = ids := by
  cases registers with
  | nothing noKey => exact ⟨by rw [keyRequests, noKey]; rfl, rfl⟩
  | key given => exact ⟨by rw [keyRequests, given]; rfl, rfl⟩

theorem Registers.request_of_mem
    {registration : List Step}
    {ids : List Int32}
    (registers : Registers name template registration ids) :
    ∀ call ∈ exchanges registration,
      ∃ line, call.request = .createKey name line := by
  intro call member
  cases registers with
  | nothing => cases member
  | @key line publicKey key =>
      cases List.mem_singleton.mp member
      exact ⟨line, rfl⟩

variable
  {event : Int32}
  {kind : EventKind}
  {looks : List Exchange}
  {ending : Option (Except Failure Unit)}

theorem request_of_watched
    (watched : Watched event kind looks ending) :
    ∀ look ∈ looks, look.request = .getEvent event := by
  have request_of_lookedAt?
      {look : Exchange}
      (seen : look.lookedAt? = some event) :
      look.request = .getEvent event := by
    obtain ⟨request, reply⟩ := look
    cases request with
    | getEvent id =>
        cases seen
        rfl
    | _ => cases seen
  obtain ⟨waiting, last, rfl, pending, stop⟩ := watched
  have ends : last.lookedAt? = some event := by
    rcases stop with ⟨done, _⟩ | stops
    · exact done.lookedAt?
    · exact stops.lookedAt?
  intro look member
  rcases List.mem_append.mp member with inWaiting | isLast
  · exact request_of_lookedAt? (pending look inWaiting).lookedAt?
  · obtain rfl := List.mem_singleton.mp isLast
    exact request_of_lookedAt? ends

variable
  {order : NewDroplet}
  {creation : DropletCreation}
  {calls : List Exchange}
  {outcome : Option (Except Failure CreatedNode)}

/--
What is called behind an accepted order is a look at its event, or one of
the reads.
-/
theorem mem_acceptedCalls
    {reads : List Exchange}
    {call : Exchange}
    (watched : Watched creation.eventId kind looks ending)
    (member : call ∈ acceptedCalls order creation looks reads) :
    call = ⟨.createDroplet order, .ok creation⟩ ∨
      call.request = .getEvent creation.eventId ∨ call ∈ reads := by
  rcases List.mem_cons.mp member with isOrder | behind
  · exact .inl isOrder
  · rcases List.mem_append.mp behind with inLooks | inReads
    · exact .inr (.inl (request_of_watched watched call inLooks))
    · exact .inr (.inr inReads)

/-- An accepted order, and what is called behind it, is as planned. -/
theorem acceptedCalls_planned
    (order : NewDroplet)
    {reads : List Exchange}
    (watched : Watched creation.eventId kind looks ending)
    (isRead : reads.map Exchange.request <+: [.getDroplet creation.id]) :
    (acceptedCalls order creation looks reads).map Exchange.request <+:
        orderRequests order creation looks.length ∧
      ∀ other answered,
        ⟨.createDroplet other, .ok answered⟩ ∈
            acceptedCalls order creation looks reads →
          answered = creation := by
  have seen :
      looks.map Exchange.request =
        List.replicate looks.length (.getEvent creation.eventId) := by
    rw [List.eq_replicate_iff, List.length_map]
    exact ⟨rfl, List.forall_mem_map.mpr (request_of_watched watched)⟩
  constructor
  · rw [acceptedCalls, List.map_cons, List.map_append, seen, orderRequests,
      List.cons_prefix_cons]
    exact ⟨rfl, (List.prefix_append_right_inj _).mpr isRead⟩
  · intro other answered member
    rcases mem_acceptedCalls watched member with isOrder | looksAt | inReads
    · cases isOrder
      rfl
    · cases looksAt
    · cases List.mem_singleton.mp (isRead.mem (List.mem_map_of_mem inReads))

theorem Ordered.planned
    (goes : Ordered order calls outcome) :
    ∃ creation looks,
      calls.map Exchange.request <+: orderRequests order creation looks ∧
        ∀ other answered,
          ⟨.createDroplet other, .ok answered⟩ ∈ calls →
            answered = creation := by
  cases goes with
  | refused =>
      refine ⟨⟨0, 0⟩, 0, List.cons_prefix_cons.mpr ⟨rfl, List.nil_prefix⟩, ?_⟩
      intro other answered member
      cases List.mem_singleton.mp member
  | failed watched =>
      exact ⟨_, _, acceptedCalls_planned order watched List.nil_prefix⟩
  | unfinished watched =>
      exact ⟨_, _, acceptedCalls_planned order watched List.nil_prefix⟩
  | unread watched =>
      exact ⟨_, _, acceptedCalls_planned order watched (List.prefix_refl _)⟩
  | missing watched =>
      exact ⟨_, _, acceptedCalls_planned order watched (List.prefix_refl _)⟩
  | created watched =>
      exact ⟨_, _, acceptedCalls_planned order watched (List.prefix_refl _)⟩

/-- Only a read shows a droplet. -/
theorem mem_reads_of_getDroplet
    {reads : List Exchange}
    {id : Int32}
    {reply : Except Failure (Option Droplet)}
    (watched : Watched creation.eventId kind looks ending)
    (member :
      ⟨.getDroplet id, reply⟩ ∈ acceptedCalls order creation looks reads) :
    ⟨.getDroplet id, reply⟩ ∈ reads := by
  rcases mem_acceptedCalls watched member with isOrder | looksAt | inReads
  · cases isOrder
  · cases looksAt
  · exact inReads

/-- A droplet that is not there is missed by its id. -/
theorem Ordered.misses
    {id : Int32}
    (goes : Ordered order calls outcome)
    (missed : ⟨.getDroplet id, .ok none⟩ ∈ calls) :
    outcome = some (.error (missingDroplet (Identifier.text id))) := by
  cases goes with
  | refused => cases List.mem_singleton.mp missed
  | failed watched => cases mem_reads_of_getDroplet watched missed
  | unfinished watched => cases mem_reads_of_getDroplet watched missed
  | unread watched =>
      cases List.mem_singleton.mp (mem_reads_of_getDroplet watched missed)
  | missing watched =>
      cases List.mem_singleton.mp (mem_reads_of_getDroplet watched missed)
      rfl
  | created watched =>
      cases List.mem_singleton.mp (mem_reads_of_getDroplet watched missed)

/-- No key is registered from an order on. -/
theorem registeredIds_of_planned
    {looks : Nat}
    (planned :
      calls.map Exchange.request <+: orderRequests order creation looks) :
    registeredIds calls = [] := by
  refine List.filterMap_eq_nil_iff.mpr fun call member => ?_
  have inPlan := planned.mem (List.mem_map_of_mem member)
  obtain ⟨request, reply⟩ := call
  cases request with
  | createKey name line => simp [orderRequests] at inPlan
  | _ => rfl

/-- The calls of a creation are the first ones of its plan. -/
theorem Creation.planned
    (goes : Creation name template calls outcome) :
    ∃ creation looks,
      calls.map Exchange.request <+:
          keyRequests name template ++
            orderRequests (plannedOrder name template (registeredIds calls))
              creation looks ∧
        ∀ order answered,
          ⟨.createDroplet order, .ok answered⟩ ∈ calls →
            answered = creation := by
  cases goes with
  | unreadable =>
      exact ⟨⟨0, 0⟩, 0, List.nil_prefix, fun _ _ member => nomatch member⟩
  | @unregistered line publicKey failure given =>
      refine ⟨⟨0, 0⟩, 0, ?_, ?_⟩
      · rw [keyRequests, given]
        exact List.prefix_append ..
      · intro order answered member
        cases List.mem_singleton.mp member
  | @ordered registration ids calls _ registers goesOn =>
      obtain ⟨keyCalls, registered⟩ := registers.requests
      obtain ⟨creation, looks, planned, answers⟩ := goesOn.planned
      have allRegistered :
          registeredIds (exchanges registration ++ calls) = ids := by
        rw [registeredIds_append, registered, registeredIds_of_planned planned,
          List.append_nil]
      refine ⟨creation, looks, ?_, ?_⟩
      · rw [List.map_append, keyCalls, allRegistered]
        exact (List.prefix_append_right_inj _).mpr planned
      · intro order answered member
        rcases List.mem_append.mp member with inKeys | inCalls
        · obtain ⟨_, isKey⟩ := registers.request_of_mem _ inKeys
          cases isKey
        · exact answers order answered inCalls

theorem Creation.misses
    {id : Int32}
    (goes : Creation name template calls outcome)
    (missed : ⟨.getDroplet id, .ok none⟩ ∈ calls) :
    outcome = some (.error (missingDroplet (Identifier.text id))) := by
  cases goes with
  | unreadable => cases missed
  | unregistered => cases List.mem_singleton.mp missed
  | ordered registers goesOn =>
      rcases List.mem_append.mp missed with inKeys | inCalls
      · obtain ⟨_, isKey⟩ := registers.request_of_mem _ inKeys
        cases isKey
      · exact goesOn.misses inCalls

end Calls

/-- What holds of the creation of a node, whatever its calls are replied to. -/
structure FollowsPlan
    (name : String)
    (template : Template)
    (steps : List Step)
    (outcome : Option (Except Failure CreatedNode)) : Prop where
  /--
  What is called and how it ends is one of the ways in which the
  creation can go.
  -/
  goes : Creation name template (exchanges steps) outcome
  /--
  The calls are the first ones of a plan, with the order for the keys that were
  registered.
  -/
  calls :
    ∃ creation looks,
      (exchanges steps).map Exchange.request <+:
          keyRequests name template ++
            orderRequests (plannedOrder name template
              (registeredIds (exchanges steps))) creation looks ∧
        ∀ order answered,
          ⟨.createDroplet order, .ok answered⟩ ∈ exchanges steps →
            answered = creation
  /-- Nothing is done if the key of the template cannot be read. -/
  refuses :
    ∀ line fault,
      templateKey? template = some line →
      PublicKey.ofLine line = .error fault →
        steps = [] ∧ outcome = some (.error (.keyFormat fault))
  /-- A node results if and only if everything has succeeded. -/
  succeeds :
    ∀ created,
      outcome = some (.ok created) ↔ Creates name template (deeds steps) created
  /-- A droplet that is not there is missed by its id. -/
  misses :
    ∀ id,
      ⟨.getDroplet id, .ok none⟩ ∈ exchanges steps →
        outcome = some (.error (missingDroplet (Identifier.text id)))

theorem createNode_of_unreadable
    {template : Template}
    {line : String}
    {fault : Key.Fault}
    (given : templateKey? template = some line)
    (unreadable : PublicKey.ofLine line = .error fault)
    (compute : Compute)
    (name : String) :
    compute.createNode name template = .fail (.keyFormat fault) := by
  simp only [createNode, registerTemplateKey, given, unreadable]
  rfl

/--
Whatever the provider replies and whenever, the creation of a node follows
its plan. With a key that cannot be read it fails at once, and the world
stays as it was.
-/
theorem nodes_are_created_by_plan
    (compute : Compute)
    (name : String)
    (template : Template) :
    (compute.createNode name template).Obeys (FollowsPlan name template) ∧
      ∀ {σ : Type}
        (world : World σ)
        (session : Session σ)
        (line : String)
        (fault : Key.Fault),
        templateKey? template = some line →
        PublicKey.ofLine line = .error fault →
          (compute.createNode name template).run world session =
            (some (.error (.keyFormat fault)), session) := by
  constructor
  · refine .of_plays fun {steps outcome} plays => ?_
    have goes := createNode_plays plays
    refine ⟨goes, goes.planned, ?_, ?_, fun id missed => goes.misses missed⟩
    · intro line fault given unreadable
      rw [createNode_of_unreadable given unreadable] at plays
      exact plays.of_finished
    · exact (createNode_succeedsBy compute name template).succeeds_iff plays
  · intro σ world session line fault given unreadable
    rw [createNode_of_unreadable given unreadable]
    rfl

end Compute

end DropletClient
