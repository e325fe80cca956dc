import DropletClient.Proofs.Compute.Attempt
import DropletClient.Proofs.Poll.Undisturbed

namespace DropletClient

/-!
# Fresh key names

The name under which credentials are registered is the first candidate that no
listed key has, among a bounded number of candidates; no more candidates are
drawn than are looked at. Names of keys that were distinct before an attempt are
therefore distinct after it: `key_names_are_first_fit`.
-/

/--
The registered keys of a world are listed, and only registrations add to them.
-/
structure World.KeepsKeys
    (world : World σ)
    (keys : σ → List SshKey) : Prop where
  generating : ∀ state, keys (world.generate state).2 = keys state
  proposing : ∀ state group, keys (world.propose state group).2 = keys state
  listing : ∀ state, keys (world.answer state .listKeys).2 = keys state
  listed :
    ∀ {state listed},
      (world.answer state .listKeys).1 = .ok listed → listed = keys state
  registered :
    ∀ {state name line key},
      (world.answer state (.createKey name line)).1 = .ok key →
        key.name = name ∧
          (keys (world.answer state (.createKey name line)).2).Perm
            (key :: keys state)
  refused :
    ∀ {state name line failure},
      (world.answer state (.createKey name line)).1 = .error failure →
        keys (world.answer state (.createKey name line)).2 = keys state

namespace Provisioner

/-- A session in which some candidates for a name were drawn. -/
def draw (world : World σ) (opened : Session σ) : (count : Nat) → Session σ
  | 0 => opened
  | count + 1 =>
      (world.perform (draw world opened count)
        (.proposeName credentialsGroup)).2

/-- The candidates for a name, in the order in which they are drawn. -/
def candidate (world : World σ) (opened : Session σ) (index : Nat) : String :=
  (world.perform (draw world opened index) (.proposeName credentialsGroup)).1

/-- The steps in which the first candidates of a stream are drawn. -/
def draws (candidates : Nat → String) (count : Nat) : List Step :=
  (List.range count).map fun index =>
    .proposed credentialsGroup (candidates index)

/-- The candidate at an index is the first one that is not taken. -/
structure IsFirstUnused
    (taken : List String)
    (candidates : Nat → String)
    (index : Nat) : Prop where
  unused : candidates index ∉ taken
  earlier : ∀ before < index, candidates before ∈ taken

/-- The credentials that a registered key of a pair grants. -/
def granted (pair : KeyPair) (key : SshKey) : DefaultCredentials :=
  ⟨key, ⟨defaultUser, some pair.privateKey⟩⟩

/--
The ways in which a public key is registered under a name, given what is taken.
-/
inductive Names
    (pair : KeyPair)
    (taken : List String)
    (candidates : Nat → String) :
    List Step → Except Failure DefaultCredentials → Prop where
  | registered
      {index : Nat}
      {key : SshKey}
      (inBounds : index < nameAttempts)
      (first : IsFirstUnused taken candidates index)
      (named : key.name = candidates index) :
      Names pair taken candidates
        (draws candidates (index + 1) ++
          [.sent (.createKey (candidates index) pair.publicKey) (.ok key)])
        (.ok (granted pair key))
  | refused
      {index : Nat}
      {failure : Failure}
      (inBounds : index < nameAttempts)
      (first : IsFirstUnused taken candidates index) :
      Names pair taken candidates
        (draws candidates (index + 1) ++
          [.sent (.createKey (candidates index) pair.publicKey)
            (.error failure)])
        (.error failure)
  | exhausted
      (allTaken : ∀ index < nameAttempts, candidates index ∈ taken) :
      Names pair taken candidates (draws candidates nameAttempts)
        (.error (.configuration .noUnusedName))

/-- What an attempt does before it looks for a name. -/
def prepare : Workflow (KeyPair × List SshKey) := do
  let pair ← Workflow.generateKeys
  let keys ← Workflow.send .listKeys
  return (pair, keys)

/-- What an attempt does once it has found a name. -/
def enroll (pair : KeyPair) (name : String) : Workflow DefaultCredentials := do
  let key ← Workflow.send (.createKey name pair.publicKey)
  return granted pair key

theorem provision_eq :
    provision =
      prepare >>= fun (pair, keys) =>
        unusedName (keys.map SshKey.name) nameAttempts >>= enroll pair := by
  simp only [provision, prepare, bind_assoc, pure_bind]
  rfl

variable
  {world : World σ}
  {opened : Session σ}
  {taken : List String}

/-- Drawing candidates leaves a step for each of them, in order. -/
theorem draw_reaches
    (world : World σ)
    (opened : Session σ)
    (count : Nat) :
    opened.Reaches (draws (candidate world opened) count)
      (draw world opened count) := by
  induction count with
  | zero => exact .refl opened
  | succ count inductionHypothesis =>
      have oneMore :
          draws (candidate world opened) (count + 1) =
            draws (candidate world opened) count ++
              [.proposed credentialsGroup (candidate world opened count)] := by
        simp [draws, List.range_succ]
      rw [oneMore]
      exact inductionHypothesis.trans
        (Workflow.perform_reaches world _ (.proposeName _))

/--
One round of the search: a candidate is drawn, and it is the name unless it
is taken.
-/
theorem run_unusedName_succ
    (attempts count : Nat) :
    (unusedName taken (attempts + 1)).run world (draw world opened count) =
      if candidate world opened count ∈ taken then
        (unusedName taken attempts).run world (draw world opened (count + 1))
      else
        (some (.ok (candidate world opened count)),
          draw world opened (count + 1)) := by
  rw [unusedName, Workflow.run_bind]
  change (if taken.contains (candidate world opened count) then _ else _ :
    Workflow String).run world (draw world opened (count + 1)) = _
  by_cases occupied : candidate world opened count ∈ taken
  · rw [if_pos (List.contains_iff_mem.mpr occupied), if_pos occupied]
  · rw [if_neg (mt List.contains_iff_mem.mp occupied), if_neg occupied]
    rfl

/--
A search that has passed over taken candidates only gives the first one that is
not taken.
-/
theorem run_unusedName
    (world : World σ)
    (opened : Session σ)
    (taken : List String)
    (attempts : Nat)
    {count : Nat}
    (passed : ∀ index < count, candidate world opened index ∈ taken) :
    (∃ index < count + attempts,
        IsFirstUnused taken (candidate world opened) index ∧
          (unusedName taken attempts).run world (draw world opened count) =
            (some (.ok (candidate world opened index)),
              draw world opened (index + 1))) ∨
      (∀ index < count + attempts, candidate world opened index ∈ taken) ∧
        (unusedName taken attempts).run world (draw world opened count) =
          (some (.error (.configuration .noUnusedName)),
            draw world opened (count + attempts)) := by
  -- each round keeps that all candidates which were passed over are taken
  induction attempts generalizing count with
  | zero => exact .inr ⟨passed, rfl⟩
  | succ attempts inductionHypothesis =>
      rw [run_unusedName_succ]
      by_cases occupied : candidate world opened count ∈ taken
      · have passedOneMore : ∀ index < count + 1,
            candidate world opened index ∈ taken := by
          intro index bound
          rcases Nat.lt_succ_iff_lt_or_eq.mp bound with earlier | rfl
          · exact passed index earlier
          · exact occupied
        rw [if_pos occupied, ← Nat.add_assoc, Nat.add_right_comm]
        exact inductionHypothesis passedOneMore
      · rw [if_neg occupied]
        exact .inl
          ⟨count, Nat.lt_add_of_pos_right attempts.succ_pos,
            ⟨occupied, passed⟩, rfl⟩

/--
What becomes of the registered keys: one more with a fresh name if all went
well, or nothing.
-/
def Adds (before after : List SshKey) : Except Failure DefaultCredentials → Prop
  | .ok credentials =>
      after.Perm (credentials.key :: before) ∧
        credentials.key.name ∉ before.map SshKey.name
  | .error _ => after = before

/-- Distinct names stay distinct. -/
theorem Adds.nodup
    {before after : List SshKey}
    {result : Except Failure DefaultCredentials}
    (adds : Adds before after result)
    (distinct : (before.map SshKey.name).Nodup) :
    (after.map SshKey.name).Nodup := by
  cases result with
  | error failure =>
      obtain rfl : after = before := adds
      exact distinct
  | ok credentials =>
      obtain ⟨oneMore, fresh⟩ := adds
      exact (oneMore.map SshKey.name).nodup_iff.mpr
        (List.nodup_cons.mpr ⟨fresh, distinct⟩)

variable {keys : σ → List SshKey}

/--
From a session in which the keys are as listed, a name is found, and a key with
it added.
-/
def Settles
    (world : World σ)
    (keys : σ → List SshKey)
    (pair : KeyPair)
    (opened : Session σ)
    (final : Option (Except Failure DefaultCredentials) × Session σ) : Prop :=
  ∃ steps result,
    opened.Reaches steps final.2 ∧
      final.1 = some result ∧
      Names pair ((keys opened.state).map SshKey.name) (candidate world opened)
        steps result ∧
      Adds (keys opened.state) (keys final.2.state) result

theorem keys_draw
    (keeps : world.KeepsKeys keys)
    (opened : Session σ)
    (count : Nat) :
    keys (draw world opened count).state = keys opened.state := by
  induction count with
  | zero => rfl
  | succ count inductionHypothesis =>
      exact (keeps.proposing ..).trans inductionHypothesis

theorem run_enroll
    (world : World σ)
    (pair : KeyPair)
    (name : String)
    (session : Session σ) :
    (enroll pair name).run world session =
      (some
          ((world.answer session.state (.createKey name pair.publicKey)).1.map
            (granted pair)),
        (world.perform session
          (.send (.createKey name pair.publicKey))).2) := by
  rw [enroll, Workflow.run_bind, Workflow.run_send]
  cases (world.answer session.state (.createKey name pair.publicKey)).1 <;> rfl

/--
Under a name that is not taken the key is registered, or the provider
refuses to.
-/
theorem run_enroll_first
    (keeps : world.KeepsKeys keys)
    (pair : KeyPair)
    {index : Nat}
    (inBounds : index < nameAttempts)
    (first :
      IsFirstUnused ((keys opened.state).map SshKey.name)
        (candidate world opened) index) :
    Settles world keys pair opened
      ((enroll pair (candidate world opened index)).run world
        (draw world opened (index + 1))) := by
  let chosen := draw world opened (index + 1)
  let request : Request :=
    .createKey (candidate world opened index) pair.publicKey
  have reaches :=
    (draw_reaches world opened (index + 1)).trans
      (Workflow.perform_reaches world chosen (.send request))
  have unchanged : keys chosen.state = keys opened.state :=
    keys_draw keeps opened (index + 1)
  rw [run_enroll]
  refine ⟨_, _, reaches, rfl, ?_⟩
  change
    Names _ _ _ (_ ++ [.sent request (world.answer chosen.state request).1])
        ((world.answer chosen.state request).1.map (granted pair)) ∧
      Adds _ (keys (world.answer chosen.state request).2)
        ((world.answer chosen.state request).1.map (granted pair))
  cases reply : (world.answer chosen.state request).1 with
  | ok key =>
      obtain ⟨named, oneMore⟩ := keeps.registered reply
      rw [unchanged] at oneMore
      refine ⟨.registered inBounds first named, oneMore, ?_⟩
      rw [granted, named]
      exact first.unused
  | error failure =>
      exact ⟨.refused inBounds first, (keeps.refused reply).trans unchanged⟩

/--
The key is registered under the first candidate that is not taken, if there is
one in bounds.
-/
theorem run_search
    (keeps : world.KeepsKeys keys)
    (opened : Session σ)
    (pair : KeyPair) :
    let taken := (keys opened.state).map SshKey.name
    Settles world keys pair opened
      ((unusedName taken nameAttempts >>= enroll pair).run world opened) := by
  intro taken
  have nothingPassed : ∀ index < 0, candidate world opened index ∈ taken :=
    fun index impossible => absurd impossible index.not_lt_zero
  have search := run_unusedName world opened taken nameAttempts nothingPassed
  have searches :=
    Workflow.run_bind world (unusedName taken nameAttempts) (enroll pair) opened
  rw [Nat.zero_add] at search
  rcases search with ⟨index, inBounds, first, found⟩ | ⟨allTaken, failed⟩
  · change (unusedName taken nameAttempts).run world opened = _ at found
    rw [found] at searches
    rw [searches]
    exact run_enroll_first keeps pair inBounds first
  · change (unusedName taken nameAttempts).run world opened = _ at failed
    rw [failed] at searches
    rw [searches]
    exact ⟨_, _, draw_reaches world opened nameAttempts, rfl,
      .exhausted allTaken, keys_draw keeps opened nameAttempts⟩

/--
Before a name is looked for, the keys are listed, unless there is a failure.
-/
theorem prepare_cases
    (keeps : world.KeepsKeys keys)
    (session : Session σ) :
    ∃ opened : Session σ,
      keys opened.state = keys session.state ∧
        ((∃ failure,
            prepare.run world session = (some (.error failure), opened)) ∨
          ∃ pair, prepare.run world session =
            (some (.ok (pair, keys session.state)), opened)) := by
  let generated := (world.perform session .generateKeys).2
  let opened := (world.perform generated (.send .listKeys)).2
  have sameKeys : keys generated.state = keys session.state :=
    keeps.generating session.state
  have generates :
      Workflow.generateKeys.run world session =
        (some (world.generate session.state).1, generated) := rfl
  have begins : prepare.run world session = _ :=
    Workflow.run_bind world Workflow.generateKeys _ _
  rw [generates] at begins
  cases given : (world.generate session.state).1 with
  | error failure =>
      rw [given] at begins
      exact ⟨generated, sameKeys, .inl ⟨failure, begins⟩⟩
  | ok pair =>
      rw [given] at begins
      have goesOn :=
        begins.trans
          (Workflow.run_bind world (Workflow.send .listKeys) _ generated)
      rw [Workflow.run_send] at goesOn
      refine ⟨opened, (keeps.listing generated.state).trans sameKeys, ?_⟩
      cases told : (world.answer generated.state .listKeys).1 with
      | error failure =>
          rw [told] at goesOn
          exact .inl ⟨failure, goesOn⟩
      | ok listed =>
          rw [told, keeps.listed told, sameKeys] at goesOn
          exact .inr ⟨pair, goesOn⟩

/--
The name of a new key is the first candidate of a bounded number that no listed
key has, and no further ones are drawn. If there is none, nothing is registered.
So distinct names stay distinct.
-/
theorem key_names_are_first_fit
    (world : World σ)
    (keys : σ → List SshKey)
    (keeps : world.KeepsKeys keys)
    (session : Session σ) :
    let final := provision.run world session
    (∀ pair listed opened,
        prepare.run world session = (some (.ok (pair, listed)), opened) →
          listed = keys session.state ∧
            ∃ steps result,
              opened.Reaches steps final.2 ∧
                final.1 = some result ∧
                Names pair (listed.map SshKey.name) (candidate world opened)
                  steps result) ∧
      (∃ result,
        final.1 = some result ∧
          Adds (keys session.state) (keys final.2.state) result) ∧
      (((keys session.state).map SshKey.name).Nodup →
        ((keys final.2.state).map SshKey.name).Nodup) := by
  intro final
  have attempts :=
    (congrArg (fun workflow => workflow.run world session) provision_eq).trans
      (Workflow.run_bind world prepare _ session)
  change final = _ at attempts
  obtain ⟨opened, sameKeys, ⟨failure, fails⟩ | ⟨pair, succeeds⟩⟩ :=
    prepare_cases keeps session
  · rw [fails] at attempts
    have adds :
        Adds (keys session.state) (keys final.2.state) (.error failure) := by
      rw [attempts]
      exact sameKeys
    refine ⟨?_, ⟨_, congrArg Prod.fst attempts, adds⟩, adds.nodup⟩
    intro pair listed other prepares
    cases fails.symm.trans prepares
  · rw [succeeds] at attempts
    have searches := run_search keeps opened pair
    rw [sameKeys] at searches
    obtain ⟨steps, result, reaches, ends, names, adds⟩ := searches
    rw [sameKeys] at names adds
    rw [attempts]
    refine ⟨?_, ⟨result, ends, adds⟩, adds.nodup⟩
    intro otherPair listed other prepares
    cases succeeds.symm.trans prepares
    exact ⟨rfl, steps, result, reaches, ends, names⟩

end Provisioner

namespace ScriptedCloud

/--
A registration adds a key with the name that is asked for, or it adds nothing.
-/
theorem answer_createKey
    (cloud : ScriptedCloud)
    (name line : String) :
    (∃ key : SshKey,
        (cloud.answer (.createKey name line)).1 = .ok key ∧
          key.name = name ∧
          (cloud.answer (.createKey name line)).2.keys = cloud.keys ++ [key]) ∨
      ∃ failure,
        (cloud.answer (.createKey name line)).1 = .error failure ∧
          (cloud.answer (.createKey name line)).2.keys = cloud.keys := by
  rw [answer_eq_carryOut, carryOut]
  rcases (cloud.logging (.createKey name line)).registerKey_cases name line with
      ⟨_, _, registers⟩ | ⟨_, _, registers⟩
  · rw [registers]
    exact .inr ⟨_, rfl, rfl⟩
  · rw [registers]
    exact .inl ⟨_, rfl, rfl, rfl⟩

/--
The scripted provider keeps its keys, wherever key pairs and candidates
come from.
-/
theorem keepsKeys_sharedWorld
    (generate : τ → Except Failure KeyPair × τ)
    (propose : τ → String → String × τ) :
    (sharedWorld generate propose).KeepsKeys fun state => state.1.keys where
  generating _ := rfl
  proposing _ _ := rfl
  listing _ := rfl
  listed same := (Except.ok.inj same).symm
  registered {state name line key} accepted := by
    simp only [sharedWorld_answer] at accepted ⊢
    rcases answer_createKey state.1 name line with
      ⟨given, gives, named, added⟩ | ⟨_, fails, _⟩
    · obtain rfl := Except.ok.inj (gives.symm.trans accepted)
      rw [added]
      exact ⟨named, List.perm_append_singleton ..⟩
    · rw [fails] at accepted
      cases accepted
  refused {state name line failure} fails := by
    simp only [sharedWorld_answer] at fails ⊢
    rcases answer_createKey state.1 name line with
      ⟨given, gives, _⟩ | ⟨_, _, unchanged⟩
    · rw [gives] at fails
      cases fails
    · exact unchanged

end ScriptedCloud

/-- A taken candidate is passed over, and the one behind it becomes the name. -/
theorem Provisioner.key_names_are_first_fit_behind_taken_name :
    let pair : KeyPair :=
      ⟨"ssh-rsa AAAAB3NzaC1yc2EAAAADAQABAAAAAwDFAQ== user@host", "private"⟩
    let world := ScriptedCloud.sharedWorld
      (fun names : List String => (.ok pair, names))
      (fun names _ => (names.headD "", names.tail))
    let keys := fun state : ScriptedCloud × List String => state.1.keys
    let taken : SshKey := ⟨7, "credentials-a", none⟩
    let cloud := { ScriptedCloud.empty with keys := [taken] }
    let session := Session.start (cloud, ["credentials-a", "credentials-b"])
    world.KeepsKeys keys ∧
      (∃ opened steps result,
        prepare.run world session = (some (.ok (pair, [taken])), opened) ∧
          opened.Reaches steps (provision.run world session).2 ∧
          Names pair ["credentials-a"] (candidate world opened) steps result ∧
          candidate world opened 1 = "credentials-b" ∧
          IsFirstUnused ["credentials-a"] (candidate world opened) 1) ∧
      ((keys (provision.run world session).2.state).map SshKey.name).Nodup := by
  intro pair world keys taken cloud session
  have keeps : world.KeepsKeys keys := ScriptedCloud.keepsKeys_sharedWorld ..
  obtain ⟨fits, _, distinct⟩ := key_names_are_first_fit world keys keeps session
  let opened := (prepare.run world session).2
  have prepares :
      prepare.run world session = (some (.ok (pair, [taken])), opened) :=
    rfl
  obtain ⟨_, steps, result, reaches, _, names⟩ :=
    fits pair [taken] opened prepares
  have second : IsFirstUnused ["credentials-a"] (candidate world opened) 1 := by
    refine ⟨by decide, fun before bound => ?_⟩
    obtain rfl : before = 0 := Nat.lt_one_iff.mp bound
    exact List.mem_singleton.mpr rfl
  exact ⟨keeps, ⟨opened, steps, result, prepares, reaches, names, rfl, second⟩,
    distinct (by decide)⟩

end DropletClient
