import DropletClient.Proofs.Workflow.Play

namespace DropletClient

/-!
# Exchanges with the provider

What is left of the steps of a workflow if only the calls to the provider count.
Some calls start something that takes a while and is then known by the id of an
event, and some look at an event.
-/

/-- A request and the reply to it. -/
structure Exchange where
  request : Request
  reply : Except Failure request.Answer

/-- The exchange that a step is, if it is one. -/
def Step.exchange? : Step → Option Exchange
  | .sent request reply => some ⟨request, reply⟩
  | .slept _ => none
  | .generated _ => none
  | .proposed _ _ => none

/-- The exchanges among some steps. -/
def exchanges (steps : List Step) : List Exchange :=
  steps.filterMap Step.exchange?

@[simp] theorem exchanges_sent
    (request : Request)
    (reply : Except Failure request.Answer)
    (later : List Step) :
    exchanges (.sent request reply :: later) =
      ⟨request, reply⟩ :: exchanges later :=
  rfl

@[simp] theorem exchanges_append
    (first second : List Step) :
    exchanges (first ++ second) = exchanges first ++ exchanges second :=
  List.filterMap_append

@[simp] theorem exchanges_reverse
    (steps : List Step) :
    exchanges steps.reverse = (exchanges steps).reverse :=
  List.filterMap_reverse

/-- The kind of operation that the event of an action is waited for as. -/
def DropletAction.awaitedKind : DropletAction → EventKind
  | .powerOff => .nodeSuspended
  | .snapshot _ => .imageAvailable
  | _ => .nodeRunning

namespace Exchange

/-- The failure that a request was replied to with. -/
def failure? (exchange : Exchange) : Option Failure :=
  match exchange.reply with
  | .error failure => some failure
  | .ok _ => none

/-- The event that an exchange started, and what the event is waited for as. -/
def started? : Exchange → Option (Int32 × EventKind)
  | ⟨.createDroplet _, .ok creation⟩ => some (creation.eventId, .nodeRunning)
  | ⟨.dropletAction _ action, .ok event⟩ => some (event, action.awaitedKind)
  | _ => none

/-- The event that an exchange looked at, or tried to. -/
def lookedAt? : Exchange → Option Int32
  | ⟨.getEvent event, _⟩ => some event
  | _ => none

/-- A look at an event that found it in a state. -/
def Finds (exchange : Exchange) (event : Int32) (status : EventStatus) : Prop :=
  ∃ seen : Event, exchange = ⟨.getEvent event, .ok seen⟩ ∧ seen.status = status

/-- A look that failed. -/
def Loses (exchange : Exchange) (event : Int32) (failure : Failure) : Prop :=
  exchange = ⟨.getEvent event, .error failure⟩

/-- What starts something is no look. -/
theorem lookedAt?_of_started?
    {exchange : Exchange}
    {started : Int32 × EventKind}
    (starts : exchange.started? = some started) :
    exchange.lookedAt? = none := by
  obtain ⟨request, reply⟩ := exchange
  cases request <;> first | rfl | simp [started?] at starts

/-- What starts something did not fail. -/
theorem failure?_of_started?
    {exchange : Exchange}
    {started : Int32 × EventKind}
    (starts : exchange.started? = some started) :
    exchange.failure? = none := by
  obtain ⟨request, reply⟩ := exchange
  cases reply with
  | ok answer => rfl
  | error failure => cases request <;> simp [started?] at starts

namespace Finds

variable {exchange : Exchange} {event : Int32} {status : EventStatus}

theorem lookedAt? (finds : exchange.Finds event status) :
    exchange.lookedAt? = some event := by
  obtain ⟨seen, rfl, _⟩ := finds
  rfl

end Finds

namespace Loses

variable {exchange : Exchange} {event : Int32} {failure : Failure}

theorem lookedAt? (loses : exchange.Loses event failure) :
    exchange.lookedAt? = some event := by
  rw [loses]
  rfl

end Loses

end Exchange

end DropletClient
