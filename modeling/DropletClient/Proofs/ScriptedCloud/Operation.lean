import DropletClient.Proofs.Workflow.Exchange
import DropletClient.ScriptedCloud

namespace DropletClient

/-!
# What single operations of the scripted provider do

There is one law for each operation, with all the ways in which it can go.
From them follows what every request leaves as it was: the log, the scripts
unless an event is looked at, and of what was prepared all but the front that
is given out.
-/

namespace Exchange

/-- The event id that was given for an action or a transfer. -/
def actionEvent? : Exchange → Option Int32
  | ⟨.dropletAction _ _, .ok event⟩ => some event
  | ⟨.transferImage _ _, .ok event⟩ => some event
  | _ => none

/-- The answer that was given to an order. -/
def creation? : Exchange → Option DropletCreation
  | ⟨.createDroplet _, .ok creation⟩ => some creation
  | _ => none

end Exchange

namespace ScriptedCloud

variable {id : Int32} {name line what : String}

theorem nextActionEvent_cases
    (cloud : ScriptedCloud)
    (what : String) :
    (cloud.actionEvents = [] ∧
        cloud.nextActionEvent what = (.error (noEventId what), cloud)) ∨
      ∃ event rest,
        cloud.actionEvents = event :: rest ∧
          cloud.nextActionEvent what =
            (.ok event, { cloud with actionEvents := rest }) := by
  unfold nextActionEvent
  cases waiting : cloud.actionEvents with
  | nil => exact .inl ⟨rfl, rfl⟩
  | cons event rest => exact .inr ⟨event, rest, rfl, rfl⟩

theorem nextCreation_cases
    (cloud : ScriptedCloud) :
    (cloud.creations = [] ∧
        cloud.nextCreation =
          (.error (.provider "no scripted creation"), cloud)) ∨
      ∃ creation rest,
        cloud.creations = creation :: rest ∧
          cloud.nextCreation =
            (.ok creation, { cloud with creations := rest }) := by
  unfold nextCreation
  cases waiting : cloud.creations with
  | nil => exact .inl ⟨rfl, rfl⟩
  | cons creation rest => exact .inr ⟨creation, rest, rfl, rfl⟩

theorem nextStatus_cases
    (cloud : ScriptedCloud)
    (event : Int32) :
    (cloud.scripts.statuses event = [] ∧
        cloud.nextStatus event = (.error (unknownEvent event), cloud)) ∨
      (∃ last,
        cloud.scripts.statuses event = [last] ∧
          cloud.nextStatus event = (.ok last, cloud)) ∨
      ∃ status next rest,
        cloud.scripts.statuses event = status :: next :: rest ∧
          cloud.nextStatus event =
            (.ok status,
              { cloud with
                scripts := cloud.scripts.set event (next :: rest) }) := by
  unfold nextStatus
  rcases cloud.scripts.statuses event with _ | ⟨status, _ | ⟨next, rest⟩⟩
  · exact .inl ⟨rfl, rfl⟩
  · exact .inr (.inl ⟨status, rfl, rfl⟩)
  · exact .inr (.inr ⟨status, next, rest, rfl, rfl⟩)

/-- Where an id is unknown, nothing is removed for it. -/
theorem filter_of_unknown
    {items : List α}
    {idOf : α → Int32}
    (unknown : ∀ item ∈ items, idOf item ≠ id) :
    (items.filter fun item => idOf item != id) = items :=
  List.filter_eq_self.mpr fun item member =>
    bne_iff_ne.mpr (unknown item member)

/-- Where an id is known, something is removed for it. -/
theorem length_filter_of_known
    {items : List α}
    {idOf : α → Int32}
    (known : ¬ ∀ item ∈ items, idOf item ≠ id) :
    (items.filter fun item => idOf item != id).length ≠ items.length := by
  intro allStay
  refine known fun item member => ?_
  exact bne_iff_ne.mp (List.length_filter_eq_length_iff.mp allStay item member)

theorem removeImages_cases
    (cloud : ScriptedCloud)
    (id : Int32) :
    (cloud.refusesImageDeletion = true ∧
        cloud.removeImages id = (.error (.provider "image is in use"), cloud)) ∨
      (cloud.refusesImageDeletion = false ∧
        (∀ image ∈ cloud.images, image.id ≠ id) ∧
        cloud.removeImages id = (.error (unknownImage id), cloud)) ∨
      cloud.refusesImageDeletion = false ∧
        (¬ ∀ image ∈ cloud.images, image.id ≠ id) ∧
        cloud.removeImages id =
          (.ok (),
            { cloud with
              images := cloud.images.filter fun image => image.id != id }) := by
  by_cases refuses : cloud.refusesImageDeletion = true
  · exact .inl ⟨refuses, by rw [removeImages, if_pos refuses]⟩
  · rw [removeImages, if_neg refuses]
    have accepts := Bool.eq_false_iff.mpr refuses
    by_cases unknown : ∀ image ∈ cloud.images, image.id ≠ id
    · refine .inr (.inl ⟨accepts, unknown, ?_⟩)
      dsimp only
      rw [filter_of_unknown unknown]
      exact if_pos rfl
    · exact .inr
        (.inr ⟨accepts, unknown, if_neg (length_filter_of_known unknown)⟩)

theorem removeKeys_cases
    (cloud : ScriptedCloud)
    (id : Int32) :
    ((∀ key ∈ cloud.keys, key.id ≠ id) ∧
        cloud.removeKeys id = (.error (unknownKey id), cloud)) ∨
      (¬ ∀ key ∈ cloud.keys, key.id ≠ id) ∧
        cloud.removeKeys id =
          (.ok (),
            { cloud with
              keys := cloud.keys.filter fun key => key.id != id }) := by
  unfold removeKeys
  by_cases unknown : ∀ key ∈ cloud.keys, key.id ≠ id
  · refine .inl ⟨unknown, ?_⟩
    dsimp only
    rw [filter_of_unknown unknown]
    exact if_pos rfl
  · exact .inr ⟨unknown, if_neg (length_filter_of_known unknown)⟩

theorem registerKey_cases
    (cloud : ScriptedCloud)
    (name line : String) :
    (∃ fault,
        PublicKey.ofLine line = .error fault ∧
          cloud.registerKey name line = (.error (.keyFormat fault), cloud)) ∨
      ∃ publicKey,
        PublicKey.ofLine line = .ok publicKey ∧
          cloud.registerKey name line =
            (.ok ⟨cloud.nextKeyId, name, some publicKey⟩,
              { cloud with
                keys := cloud.keys ++ [⟨cloud.nextKeyId, name, some publicKey⟩]
                nextKeyId := successor cloud.nextKeyId }) := by
  unfold registerKey
  cases PublicKey.ofLine line with
  | error fault => exact .inl ⟨fault, rfl, rfl⟩
  | ok publicKey => exact .inr ⟨publicKey, rfl, rfl⟩

/-- A key is replaced unless its id is unknown. -/
theorem replaceKey_eq_none_iff
    {publicKey : PublicKey}
    {keys : List SshKey} :
    replaceKey id publicKey keys = none ↔ ∀ key ∈ keys, key.id ≠ id := by
  induction keys with
  | nil => exact iff_of_true rfl (List.forall_mem_nil _)
  | cons key rest inductionHypothesis =>
      rw [List.forall_mem_cons, replaceKey]
      by_cases same : key.id = id
      · simp [same]
      · simp [same, inductionHypothesis]

theorem changeKey_cases
    (cloud : ScriptedCloud)
    (id : Int32)
    (line : String) :
    (∃ fault,
        PublicKey.ofLine line = .error fault ∧
          cloud.changeKey id line = (.error (.keyFormat fault), cloud)) ∨
      (∃ publicKey,
        PublicKey.ofLine line = .ok publicKey ∧
          (∀ key ∈ cloud.keys, key.id ≠ id) ∧
          cloud.changeKey id line = (.error (unknownKey id), cloud)) ∨
      ∃ publicKey key keys,
        PublicKey.ofLine line = .ok publicKey ∧
          (¬ ∀ key ∈ cloud.keys, key.id ≠ id) ∧
          cloud.changeKey id line = (.ok key, { cloud with keys }) := by
  unfold changeKey
  cases PublicKey.ofLine line with
  | error fault => exact .inl ⟨fault, rfl, rfl⟩
  | ok publicKey =>
      cases replaced : replaceKey id publicKey cloud.keys with
      | none =>
          exact .inr (.inl ⟨publicKey, rfl, replaceKey_eq_none_iff.mp replaced,
            by simp [replaced]⟩)
      | some result =>
          obtain ⟨key, keys⟩ := result
          have known : ¬ ∀ key ∈ cloud.keys, key.id ≠ id := by
            rw [← replaceKey_eq_none_iff, replaced]
            exact Option.some_ne_none _
          exact .inr
            (.inr ⟨publicKey, key, keys, rfl, known, by simp [replaced]⟩)

/-- A snapshot changes images at most. -/
theorem registerSnapshot_keeps
    (cloud : ScriptedCloud)
    (action : DropletAction) :
    ∃ images nextImageId,
      cloud.registerSnapshot action = { cloud with images, nextImageId } := by
  unfold registerSnapshot
  split
  · split
    · exact ⟨_, _, rfl⟩
    · exact ⟨_, _, rfl⟩
  · exact ⟨_, _, rfl⟩

/-- A look at an event leaves the state that taking its next state leaves. -/
theorem carryOut_getEvent_snd
    (cloud : ScriptedCloud)
    (event : Int32) :
    (cloud.carryOut (.getEvent event)).2 = (cloud.nextStatus event).2 := by
  rw [carryOut]
  split
  · next taken => rw [taken]
  · next taken => rw [taken]

/-- The state in which a request is carried out: only the log differs. -/
def logging (cloud : ScriptedCloud) (request : Request) : ScriptedCloud :=
  { cloud with log := request :: cloud.log }

theorem answer_eq_carryOut
    (cloud : ScriptedCloud)
    (request : Request) :
    cloud.answer request = (cloud.logging request).carryOut request :=
  rfl

/--
What every request leaves as it was, but for the front of what was prepared.
-/
structure Passes
    (cloud : ScriptedCloud)
    (exchange : Exchange)
    (later : ScriptedCloud) : Prop where
  log : later.log = cloud.log
  scripts : (∀ event, exchange.request ≠ .getEvent event) →
    later.scripts = cloud.scripts
  actionEvents :
    exchange.actionEvent?.toList ++ later.actionEvents = cloud.actionEvents
  creations : exchange.creation?.toList ++ later.creations = cloud.creations

theorem passes_carryOut
    (cloud : ScriptedCloud)
    (request : Request) :
    cloud.Passes ⟨request, (cloud.carryOut request).1⟩
      (cloud.carryOut request).2 := by
  cases request with
  | listDroplets | listImages | listSizes | listRegions | listKeys =>
      exact ⟨rfl, fun _ => rfl, rfl, rfl⟩
  | getDroplet id | getImage id | getKey id =>
      exact ⟨rfl, fun _ => rfl, rfl, rfl⟩
  | createDroplet order =>
      rcases cloud.nextCreation_cases with
        ⟨_, carried⟩ | ⟨creation, rest, front, carried⟩
      · rw [show cloud.carryOut (.createDroplet order) = _ from carried]
        exact ⟨rfl, fun _ => rfl, rfl, rfl⟩
      · rw [show cloud.carryOut (.createDroplet order) = _ from carried]
        exact ⟨rfl, fun _ => rfl, rfl, front.symm⟩
  | dropletAction id action =>
      rw [carryOut]
      rcases cloud.nextActionEvent_cases action.segment with
          ⟨_, carried⟩ | ⟨event, rest, front, carried⟩
      · rw [carried]
        exact ⟨rfl, fun _ => rfl, rfl, rfl⟩
      · obtain ⟨images, nextImageId, registers⟩ :=
          registerSnapshot_keeps { cloud with actionEvents := rest } action
        rw [carried]
        dsimp only
        rw [registers]
        exact ⟨rfl, fun _ => rfl, front.symm, rfl⟩
  | transferImage id regionId =>
      rcases cloud.nextActionEvent_cases "transfer" with
          ⟨_, carried⟩ | ⟨event, rest, front, carried⟩
      · rw [show cloud.carryOut (.transferImage id regionId) = _ from carried]
        exact ⟨rfl, fun _ => rfl, rfl, rfl⟩
      · rw [show cloud.carryOut (.transferImage id regionId) = _ from carried]
        exact ⟨rfl, fun _ => rfl, front.symm, rfl⟩
  | deleteImage id =>
      rcases cloud.removeImages_cases id with
          ⟨_, carried⟩ | ⟨_, _, carried⟩ | ⟨_, _, carried⟩
      all_goals
        rw [show cloud.carryOut (.deleteImage id) = _ from carried]
        exact ⟨rfl, fun _ => rfl, rfl, rfl⟩
  | createKey name line =>
      rcases cloud.registerKey_cases name line with
        ⟨_, _, carried⟩ | ⟨_, _, carried⟩
      all_goals
        rw [show cloud.carryOut (.createKey name line) = _ from carried]
        exact ⟨rfl, fun _ => rfl, rfl, rfl⟩
  | editKey id line =>
      rcases cloud.changeKey_cases id line with
          ⟨_, _, carried⟩ | ⟨_, _, _, carried⟩ | ⟨_, _, _, _, _, carried⟩
      all_goals
        rw [show cloud.carryOut (.editKey id line) = _ from carried]
        exact ⟨rfl, fun _ => rfl, rfl, rfl⟩
  | deleteKey id =>
      rcases cloud.removeKeys_cases id with ⟨_, carried⟩ | ⟨_, carried⟩
      all_goals
        rw [show cloud.carryOut (.deleteKey id) = _ from carried]
        exact ⟨rfl, fun _ => rfl, rfl, rfl⟩
  | getEvent event =>
      rw [carryOut]
      rcases cloud.nextStatus_cases event with
          ⟨_, carried⟩ | ⟨_, _, carried⟩ | ⟨_, _, _, _, carried⟩
      all_goals
        rw [carried]
        exact ⟨rfl,
          fun looksAtNothing => absurd rfl (looksAtNothing event), rfl, rfl⟩

end ScriptedCloud

end DropletClient
