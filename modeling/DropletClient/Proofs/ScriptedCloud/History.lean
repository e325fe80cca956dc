import DropletClient.Proofs.Poll.Repetition

namespace DropletClient

/-!
# Histories of the scripted provider

A history is all that happens to the scripted provider, one after the other: it
is seeded, something is prepared, and callers ask. What is prepared for actions,
and for orders, is a supply: what is pushed goes to its end, what is given out
comes from its front, and nothing else touches it
(`Supply.IsKept.given_append_waiting`).
-/

namespace ScriptedCloud

/-- What can happen to the scripted provider. -/
inductive Occurrence where
  | seeds (entry : CatalogEntry)
  | meets (interference : Interference)

namespace Occurrence

/-- The scripted provider afterwards. -/
def apply (cloud : ScriptedCloud) : Occurrence → ScriptedCloud
  | seeds entry => cloud.seed entry
  | meets interference => interference.apply cloud

/-- What is asked for, if something is. -/
def request? : Occurrence → Option Request
  | meets (.asks request) => some request
  | _ => none

/-- The event id that is prepared for an action or a transfer. -/
def actionEvent? : Occurrence → Option Int32
  | meets (.pushesActionEvent event) => some event
  | _ => none

/-- The answer that is prepared for an order. -/
def creation? : Occurrence → Option DropletCreation
  | meets (.pushesCreation creation) => some creation
  | _ => none

/-- What is asked for and replied. -/
def exchange?
    (cloud : ScriptedCloud)
    (occurrence : Occurrence) :
    Option Exchange :=
  occurrence.request?.map fun request => ⟨request, (cloud.answer request).1⟩

/-- The states of an event are not prepared anew. -/
def LeavesScript (event : Int32) : Occurrence → Prop
  | seeds _ => True
  | meets interference => interference.LeavesScript event

end Occurrence

/-- The scripted provider after a history. -/
def after (cloud : ScriptedCloud) (history : List Occurrence) : ScriptedCloud :=
  history.foldl Occurrence.apply cloud

/-- What is asked for and replied in a history. -/
def exchanged (cloud : ScriptedCloud) : List Occurrence → List Exchange
  | [] => []
  | occurrence :: later =>
      (occurrence.exchange? cloud).toList ++
        exchanged (occurrence.apply cloud) later

theorem after_append
    (cloud : ScriptedCloud)
    (first second : List Occurrence) :
    cloud.after (first ++ second) = (cloud.after first).after second :=
  List.foldl_append

theorem exchanged_append
    (cloud : ScriptedCloud)
    (first second : List Occurrence) :
    cloud.exchanged (first ++ second) =
      cloud.exchanged first ++ (cloud.after first).exchanged second := by
  induction first generalizing cloud with
  | nil => rfl
  | cons occurrence later inductionHypothesis =>
      rw [List.cons_append, exchanged, exchanged, inductionHypothesis,
        List.append_assoc]
      rfl

theorem seed_keeps
    (cloud : ScriptedCloud)
    (entry : CatalogEntry) :
    (cloud.seed entry).log = cloud.log ∧
      (cloud.seed entry).scripts = cloud.scripts ∧
      (cloud.seed entry).actionEvents = cloud.actionEvents ∧
      (cloud.seed entry).creations = cloud.creations := by
  cases entry <;> exact ⟨rfl, rfl, rfl, rfl⟩

theorem filterMap_cons_eq_append
    (item? : α → Option β)
    (first : α)
    (rest : List α) :
    (first :: rest).filterMap item? =
      (item? first).toList ++ rest.filterMap item? := by
  cases given : item? first with
  | none =>
      rw [List.filterMap_cons_none given, Option.toList_none, List.nil_append]
  | some item =>
      rw [List.filterMap_cons_some given, Option.toList_some,
        List.singleton_append]

/-- What happens is logged if it is a request. -/
theorem log_apply
    (cloud : ScriptedCloud)
    (occurrence : Occurrence) :
    (occurrence.apply cloud).log = occurrence.request?.toList ++ cloud.log := by
  cases occurrence with
  | seeds entry => exact (seed_keeps cloud entry).1
  | meets interference =>
      cases interference with
      | asks request => exact log_answer cloud request
      | scriptsEvent | pushesCreation | pushesActionEvent => rfl
      | refusesImageDeletion | skipsSnapshotRegistration => rfl

/-- The log is all that was asked for, the newest first. -/
theorem log_after
    (cloud : ScriptedCloud)
    (history : List Occurrence) :
    (cloud.after history).log =
      (history.filterMap Occurrence.request?).reverse ++ cloud.log := by
  induction history generalizing cloud with
  | nil => rfl
  | cons occurrence later inductionHypothesis =>
      change ((occurrence.apply cloud).after later).log = _
      rw [inductionHypothesis, log_apply]
      rw [filterMap_cons_eq_append, List.reverse_append, List.append_assoc]
      cases occurrence.request? <;> rfl

/--
One kind of answers that are prepared: those that wait, how they come in, and
how they leave.
-/
structure Supply (α : Type) where
  waiting : ScriptedCloud → List α
  pushed? : Occurrence → Option α
  given? : Exchange → Option α

namespace Supply

/-- The event ids for actions and transfers. -/
def actionEvents : Supply Int32 :=
  ⟨ScriptedCloud.actionEvents, Occurrence.actionEvent?, Exchange.actionEvent?⟩

/-- The answers to orders. -/
def creations : Supply DropletCreation :=
  ⟨ScriptedCloud.creations, Occurrence.creation?, Exchange.creation?⟩

/-- All that is pushed in a history. -/
def pushed (supply : Supply α) (history : List Occurrence) : List α :=
  history.filterMap supply.pushed?

/-- All that is given out in a history. -/
def given
    (supply : Supply α)
    (cloud : ScriptedCloud)
    (history : List Occurrence) :
    List α :=
  (cloud.exchanged history).filterMap supply.given?

/--
Whatever happens, only the front is given out, and what is pushed goes
to the end.
-/
def IsKept (supply : Supply α) : Prop :=
  ∀ (cloud : ScriptedCloud) (occurrence : Occurrence),
    ((occurrence.exchange? cloud).bind supply.given?).toList ++
        supply.waiting (occurrence.apply cloud) =
      supply.waiting cloud ++ (supply.pushed? occurrence).toList

/--
Each supply is changed by what is given out of it, and by what is pushed to it.
-/
private theorem supplies_apply
    (cloud : ScriptedCloud)
    (occurrence : Occurrence) :
    ((occurrence.exchange? cloud).bind Exchange.actionEvent?).toList ++
          (occurrence.apply cloud).actionEvents =
        cloud.actionEvents ++ occurrence.actionEvent?.toList ∧
      ((occurrence.exchange? cloud).bind Exchange.creation?).toList ++
          (occurrence.apply cloud).creations =
        cloud.creations ++ occurrence.creation?.toList := by
  have notPushed {β : Type} {waiting later : List β} (same : later = waiting) :
      later = waiting ++ [] :=
    same.trans (List.append_nil _).symm
  cases occurrence with
  | seeds entry =>
      obtain ⟨-, -, sameEvents, sameCreations⟩ := seed_keeps cloud entry
      exact ⟨notPushed sameEvents, notPushed sameCreations⟩
  | meets interference =>
      cases interference with
      | asks request =>
          have passes := passes_carryOut (cloud.logging request) request
          exact ⟨notPushed passes.actionEvents, notPushed passes.creations⟩
      | pushesActionEvent event => exact ⟨rfl, notPushed rfl⟩
      | pushesCreation creation => exact ⟨notPushed rfl, rfl⟩
      | scriptsEvent | refusesImageDeletion | skipsSnapshotRegistration =>
          exact ⟨notPushed rfl, notPushed rfl⟩

theorem isKept_actionEvents :
    actionEvents.IsKept :=
  fun cloud occurrence => (supplies_apply cloud occurrence).1

theorem isKept_creations :
    creations.IsKept :=
  fun cloud occurrence => (supplies_apply cloud occurrence).2

namespace IsKept

variable {supply : Supply α}

/--
What is given out in a history and what waits after it is what waited and what
is pushed.
-/
theorem given_append_waiting
    (keeps : supply.IsKept)
    (cloud : ScriptedCloud)
    (history : List Occurrence) :
    supply.given cloud history ++ supply.waiting (cloud.after history) =
      supply.waiting cloud ++ supply.pushed history := by
  induction history generalizing cloud with
  | nil => exact (List.append_nil _).symm
  | cons occurrence later inductionHypothesis =>
      have givenFirst :
          supply.given cloud (occurrence :: later) =
            ((occurrence.exchange? cloud).bind supply.given?).toList ++
              supply.given (occurrence.apply cloud) later := by
        unfold given
        rw [exchanged, List.filterMap_append]
        cases occurrence.exchange? cloud <;> rfl
      calc supply.given cloud (occurrence :: later) ++
            supply.waiting (cloud.after (occurrence :: later))
          = ((occurrence.exchange? cloud).bind supply.given?).toList ++
              (supply.waiting (occurrence.apply cloud) ++
                supply.pushed later) := by
            rw [givenFirst, List.append_assoc]
            exact congrArg _ (inductionHypothesis (occurrence.apply cloud))
        _ = supply.waiting cloud ++ ((supply.pushed? occurrence).toList ++
              supply.pushed later) := by
            rw [← List.append_assoc, keeps cloud occurrence, List.append_assoc]
        _ = supply.waiting cloud ++ supply.pushed (occurrence :: later) := by
            rw [pushed, pushed, filterMap_cons_eq_append]

end IsKept

end Supply

end ScriptedCloud

end DropletClient
