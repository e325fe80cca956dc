import DropletClient.Proofs.ScriptedCloud.Operation

namespace DropletClient

/-!
# Requests that the scripted provider refuses

`ScriptedCloud.Refuses` tells which requests fail in a state, and with which
failure. A request that fails is logged, and changes nothing else
(`failed_requests_change_nothing`), although the changes that an operation makes
before it fails are never taken back.
-/

namespace ScriptedCloud

/--
A request fails in a state: something is missing for it, or it cannot be
understood.
-/
inductive Refuses (cloud : ScriptedCloud) : Request → Failure → Prop where
  | noCreation
      {order : NewDroplet}
      (nothing : cloud.creations = []) :
      Refuses cloud (.createDroplet order) (.provider "no scripted creation")
  | noActionEvent
      {id : Int32}
      {action : DropletAction}
      (nothing : cloud.actionEvents = []) :
      Refuses cloud (.dropletAction id action) (noEventId action.segment)
  | noTransferEvent
      {id regionId : Int32}
      (nothing : cloud.actionEvents = []) :
      Refuses cloud (.transferImage id regionId) (noEventId "transfer")
  | imagesInUse
      {id : Int32}
      (inUse : cloud.refusesImageDeletion = true) :
      Refuses cloud (.deleteImage id) (.provider "image is in use")
  | unknownImage
      {id : Int32}
      (unused : cloud.refusesImageDeletion = false)
      (unknown : ∀ image ∈ cloud.images, image.id ≠ id) :
      Refuses cloud (.deleteImage id) (ScriptedCloud.unknownImage id)
  | unreadNewKey
      {name line : String}
      {fault : Key.Fault}
      (unread : PublicKey.ofLine line = .error fault) :
      Refuses cloud (.createKey name line) (.keyFormat fault)
  | unreadKey
      {id : Int32}
      {line : String}
      {fault : Key.Fault}
      (unread : PublicKey.ofLine line = .error fault) :
      Refuses cloud (.editKey id line) (.keyFormat fault)
  | unknownChangedKey
      {id : Int32}
      {line : String}
      {publicKey : PublicKey}
      (read : PublicKey.ofLine line = .ok publicKey)
      (unknown : ∀ key ∈ cloud.keys, key.id ≠ id) :
      Refuses cloud (.editKey id line) (unknownKey id)
  | unknownRemovedKey
      {id : Int32}
      (unknown : ∀ key ∈ cloud.keys, key.id ≠ id) :
      Refuses cloud (.deleteKey id) (unknownKey id)
  | unscripted
      {event : Int32}
      (nothing : cloud.scripts.statuses event = []) :
      Refuses cloud (.getEvent event) (unknownEvent event)

variable {cloud later : ScriptedCloud} {request : Request} {failure : Failure}

/-- A request is refused with one failure at most. -/
theorem Refuses.unique
    {other : Failure}
    (refuses : cloud.Refuses request failure)
    (refusesToo : cloud.Refuses request other) :
    failure = other := by
  cases refuses with
  | noCreation | noActionEvent | noTransferEvent | unknownRemovedKey
        | unscripted =>
      cases refusesToo
      rfl
  | imagesInUse inUse =>
      cases refusesToo with
      | imagesInUse => rfl
      | unknownImage unused => cases inUse.symm.trans unused
  | unknownImage unused =>
      cases refusesToo with
      | imagesInUse inUse => cases inUse.symm.trans unused
      | unknownImage => rfl
  | unreadNewKey unread =>
      cases refusesToo with
      | unreadNewKey unreadToo =>
          cases unread.symm.trans unreadToo
          rfl
  | unreadKey unread =>
      cases refusesToo with
      | unreadKey unreadToo =>
          cases unread.symm.trans unreadToo
          rfl
      | unknownChangedKey read => cases unread.symm.trans read
  | unknownChangedKey read =>
      cases refusesToo with
      | unreadKey unread => cases unread.symm.trans read
      | unknownChangedKey => rfl

/-- A request is refused, and the state is left as it was, or it is answered. -/
theorem carryOut_cases
    (cloud : ScriptedCloud)
    (request : Request) :
    (∃ failure,
        cloud.Refuses request failure ∧
          cloud.carryOut request = (.error failure, cloud)) ∨
      (∀ failure, ¬ cloud.Refuses request failure) ∧
        ∃ reply later, cloud.carryOut request = (.ok reply, later) := by
  cases request with
  | listDroplets | listImages | listSizes | listRegions | listKeys =>
      refine .inr ⟨?_, _, _, rfl⟩
      rintro _ ⟨⟩
  | getDroplet id | getImage id | getKey id =>
      refine .inr ⟨?_, _, _, rfl⟩
      rintro _ ⟨⟩
  | createDroplet order =>
      rcases cloud.nextCreation_cases with
        ⟨nothing, carried⟩ | ⟨_, _, front, carried⟩
      · exact .inl ⟨_, .noCreation nothing, carried⟩
      · refine .inr ⟨?_, _, _, carried⟩
        intro _ refuses
        cases refuses with
        | noCreation nothing => cases front.symm.trans nothing
  | dropletAction id action =>
      rw [carryOut]
      rcases cloud.nextActionEvent_cases action.segment with
          ⟨nothing, carried⟩ | ⟨_, _, front, carried⟩
      · rw [carried]
        exact .inl ⟨_, .noActionEvent nothing, rfl⟩
      · rw [carried]
        refine .inr ⟨?_, _, _, rfl⟩
        intro _ refuses
        cases refuses with
        | noActionEvent nothing => cases front.symm.trans nothing
  | transferImage id regionId =>
      rcases cloud.nextActionEvent_cases "transfer" with
          ⟨nothing, carried⟩ | ⟨_, _, front, carried⟩
      · exact .inl ⟨_, .noTransferEvent nothing, carried⟩
      · refine .inr ⟨?_, _, _, carried⟩
        intro _ refuses
        cases refuses with
        | noTransferEvent nothing => cases front.symm.trans nothing
  | deleteImage id =>
      rcases cloud.removeImages_cases id with
          ⟨inUse, carried⟩ | ⟨unused, unknown, carried⟩
            | ⟨unused, known, carried⟩
      · exact .inl ⟨_, .imagesInUse inUse, carried⟩
      · exact .inl ⟨_, .unknownImage unused unknown, carried⟩
      · refine .inr ⟨?_, _, _, carried⟩
        intro _ refuses
        cases refuses with
        | imagesInUse inUse => cases unused.symm.trans inUse
        | unknownImage _ unknown => exact known unknown
  | createKey name line =>
      rcases cloud.registerKey_cases name line with
        ⟨_, unread, carried⟩ | ⟨_, read, carried⟩
      · exact .inl ⟨_, .unreadNewKey unread, carried⟩
      · refine .inr ⟨?_, _, _, carried⟩
        intro _ refuses
        cases refuses with
        | unreadNewKey unread => cases read.symm.trans unread
  | editKey id line =>
      rcases cloud.changeKey_cases id line with
          ⟨_, unread, carried⟩ | ⟨_, read, unknown, carried⟩
            | ⟨_, _, _, read, known, carried⟩
      · exact .inl ⟨_, .unreadKey unread, carried⟩
      · exact .inl ⟨_, .unknownChangedKey read unknown, carried⟩
      · refine .inr ⟨?_, _, _, carried⟩
        intro _ refuses
        cases refuses with
        | unreadKey unread => cases read.symm.trans unread
        | unknownChangedKey _ unknown => exact known unknown
  | deleteKey id =>
      rcases cloud.removeKeys_cases id with
        ⟨unknown, carried⟩ | ⟨known, carried⟩
      · exact .inl ⟨_, .unknownRemovedKey unknown, carried⟩
      · refine .inr ⟨?_, _, _, carried⟩
        intro _ refuses
        cases refuses with
        | unknownRemovedKey unknown => exact known unknown
  | getEvent event =>
      rw [carryOut]
      rcases cloud.nextStatus_cases event with
          ⟨nothing, carried⟩ | ⟨_, scripted, carried⟩
            | ⟨_, _, _, scripted, carried⟩
      · rw [carried]
        exact .inl ⟨_, .unscripted nothing, rfl⟩
      all_goals
        rw [carried]
        refine .inr ⟨?_, _, _, rfl⟩
        intro _ refuses
        cases refuses with
        | unscripted nothing => cases scripted.symm.trans nothing

/-- Requests that are logged are refused as if they were not. -/
theorem refuses_logging
    {logged : Request} :
    (cloud.logging logged).Refuses request failure ↔
      cloud.Refuses request failure := by
  constructor
  all_goals
    intro refuses
    cases refuses
    all_goals constructor
    all_goals assumption

/--
A request is answered with a failure if it is refused, and then it is logged
and no more.
-/
theorem answer_eq_error_iff :
    cloud.answer request = (.error failure, later) ↔
      cloud.Refuses request failure ∧ later = cloud.logging request := by
  rw [answer_eq_carryOut]
  rcases (cloud.logging request).carryOut_cases request with
      ⟨given, refuses, carried⟩ | ⟨accepts, reply, middle, carried⟩
  · rw [carried]
    constructor
    · rintro ⟨⟩
      exact ⟨refuses_logging.mp refuses, rfl⟩
    · rintro ⟨refusesToo, rfl⟩
      rw [refuses.unique (refuses_logging.mpr refusesToo)]
  · rw [carried]
    refine iff_of_false nofun ?_
    rintro ⟨refuses, -⟩
    exact accepts failure (refuses_logging.mpr refuses)

/-- A request fails in a state, and a part of the state stays as it was. -/
def FailsKeeping
    (cloud : ScriptedCloud)
    (part : ScriptedCloud → α)
    (request : Request) : Prop :=
  ∃ failure later,
    cloud.answer request = (.error failure, later) ∧ part later = part cloud

/--
Whatever a log does not matter for stays as it was when a request is refused.
-/
theorem Refuses.failsKeeping
    {part : ScriptedCloud → α}
    (refuses : cloud.Refuses request failure)
    (unlogged : part (cloud.logging request) = part cloud) :
    cloud.FailsKeeping part request :=
  ⟨failure, cloud.logging request,
    answer_eq_error_iff.mpr ⟨refuses, rfl⟩, unlogged⟩

/-- The images of a state and the id of the next one. -/
def imageStore (cloud : ScriptedCloud) : List Image × Int32 :=
  (cloud.images, cloud.nextImageId)

/-- The registered keys of a state and the id of the next one. -/
def keyStore (cloud : ScriptedCloud) : List SshKey × Int32 :=
  (cloud.keys, cloud.nextKeyId)

/--
Failures in a state have their reasons, and no effect but that the request
is logged.
-/
structure FailsCleanly (cloud : ScriptedCloud) : Prop where
  onlyLogged (request : Request) (failure : Failure) (later : ScriptedCloud) :
    cloud.answer request = (.error failure, later) ↔
      cloud.Refuses request failure ∧
        later = { cloud with log := request :: cloud.log }
  snapshot (id : Int32) (name : String) :
    cloud.actionEvents = [] →
      cloud.FailsKeeping imageStore (.dropletAction id (.snapshot (some name)))
  unreadKey (id : Int32) (name line : String) (fault : Key.Fault) :
    PublicKey.ofLine line = .error fault →
      cloud.FailsKeeping keyStore (.createKey name line) ∧
        cloud.FailsKeeping keyStore (.editKey id line)
  unknownKey (id : Int32) (line : String) :
    (∀ key ∈ cloud.keys, key.id ≠ id) →
      cloud.FailsKeeping keyStore (.editKey id line) ∧
        cloud.FailsKeeping keyStore (.deleteKey id)

/--
In every state, a request that fails is logged and changes nothing else. So a
snapshot without a prepared event id adds no image, and neither a key that
cannot be read nor an unknown id changes a key or uses up an id.
-/
theorem failed_requests_change_nothing
    (cloud : ScriptedCloud) :
    cloud.FailsCleanly where
  onlyLogged _ _ _ := answer_eq_error_iff
  snapshot _ _ nothing := (Refuses.noActionEvent nothing).failsKeeping rfl
  unreadKey _ _ _ _ unread :=
    ⟨(Refuses.unreadNewKey unread).failsKeeping rfl,
      (Refuses.unreadKey unread).failsKeeping rfl⟩
  unknownKey id line unknown := by
    refine ⟨?_, (Refuses.unknownRemovedKey unknown).failsKeeping rfl⟩
    cases read : PublicKey.ofLine line with
    | error fault => exact (Refuses.unreadKey read).failsKeeping rfl
    | ok publicKey =>
        exact (Refuses.unknownChangedKey read unknown).failsKeeping rfl

end ScriptedCloud

end DropletClient
