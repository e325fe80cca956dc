import DropletClient.Compute.Credentials
import DropletClient.Proofs.Workflow.Play

namespace DropletClient.Provisioner

/-!
# Attempts to provision credentials

An attempt generates one key pair, looks once at the keys that are registered,
tries candidates for a name, and registers the public half once; it ends at the
first of these that fails. It succeeds only with the registration, and then it
pairs the private half with the key that was registered.
-/

/--
Candidates for a name are tried until one is not taken, or until there were
enough of them.
-/
inductive Tries (taken : List String) :
    (attempts : Nat) → List Step → Except Failure String → Prop where
  | exhausted :
      Tries taken 0 [] (.error (.configuration .noUnusedName))
  | unused
      {attempts : Nat}
      {name : String}
      (free : name ∉ taken) :
      Tries taken (attempts + 1) [.proposed credentialsGroup name] (.ok name)
  | used
      {attempts : Nat}
      {name : String}
      {later : List Step}
      {outcome : Except Failure String}
      (occupied : name ∈ taken)
      (goesOn : Tries taken attempts later outcome) :
      Tries taken (attempts + 1)
        (.proposed credentialsGroup name :: later) outcome

/-- The ways in which an attempt can go. -/
inductive Attempt : List Step → Except Failure DefaultCredentials → Prop where
  | noPair {failure : Failure} :
      Attempt [.generated (.error failure)] (.error failure)
  | noKeys
      {pair : KeyPair}
      {failure : Failure} :
      Attempt [.generated (.ok pair), .sent .listKeys (.error failure)]
        (.error failure)
  | noName
      {pair : KeyPair}
      {keys : List SshKey}
      {proposals : List Step}
      {failure : Failure}
      (tries :
        Tries (keys.map SshKey.name) nameAttempts proposals (.error failure)) :
      Attempt (.generated (.ok pair) :: .sent .listKeys (.ok keys) :: proposals)
        (.error failure)
  | refused
      {pair : KeyPair}
      {keys : List SshKey}
      {proposals : List Step}
      {name : String}
      {failure : Failure}
      (tries : Tries (keys.map SshKey.name) nameAttempts proposals (.ok name)) :
      Attempt
        (.generated (.ok pair) :: .sent .listKeys (.ok keys) ::
          (proposals ++
            [.sent (.createKey name pair.publicKey) (.error failure)]))
        (.error failure)
  | registered
      {pair : KeyPair}
      {keys : List SshKey}
      {proposals : List Step}
      {name : String}
      {key : SshKey}
      (tries : Tries (keys.map SshKey.name) nameAttempts proposals (.ok name)) :
      Attempt
        (.generated (.ok pair) :: .sent .listKeys (.ok keys) ::
          (proposals ++ [.sent (.createKey name pair.publicKey) (.ok key)]))
        (.ok ⟨key, ⟨defaultUser, some pair.privateKey⟩⟩)

/-- A key was registered. -/
def isRegistration : Step → Bool
  | .sent (.createKey _ _) (.ok _) => true
  | _ => false

variable {steps : List Step}

theorem Tries.countP_isRegistration
    {taken : List String}
    {attempts : Nat}
    {outcome : Except Failure String}
    (tries : Tries taken attempts steps outcome) :
    steps.countP isRegistration = 0 := by
  induction tries with
  | exhausted => rfl
  | unused => rfl
  | used _ _ inductionHypothesis =>
      rw [List.countP_cons, inductionHypothesis]
      rfl

namespace Attempt

/-- A failed attempt registered no key. -/
theorem countP_of_error
    {failure : Failure}
    (attempt : Attempt steps (.error failure)) :
    steps.countP isRegistration = 0 := by
  cases attempt with
  | noPair => rfl
  | noKeys => rfl
  | noName tries =>
      simp only [List.countP_cons, tries.countP_isRegistration]
      rfl
  | refused tries =>
      simp only [List.countP_cons, List.countP_append,
        tries.countP_isRegistration]
      rfl

/-- An attempt that succeeds registered one key. -/
theorem countP_of_ok
    {credentials : DefaultCredentials}
    (attempt : Attempt steps (.ok credentials)) :
    steps.countP isRegistration = 1 := by
  cases attempt with
  | registered tries =>
      simp only [List.countP_cons, List.countP_append,
        tries.countP_isRegistration]
      rfl

theorem countP_le_one
    {outcome : Except Failure DefaultCredentials}
    (attempt : Attempt steps outcome) :
    steps.countP isRegistration ≤ 1 := by
  cases outcome with
  | ok credentials => exact Nat.le_of_eq attempt.countP_of_ok
  | error failure =>
      rw [attempt.countP_of_error]
      exact Nat.zero_le 1

/--
An attempt that succeeds pairs the private half with the key for the
public half.
-/
theorem exists_pair
    {credentials : DefaultCredentials}
    (attempt : Attempt steps (.ok credentials)) :
    ∃ pair name,
      .generated (.ok pair) ∈ steps ∧
        .sent (.createKey name pair.publicKey) (.ok credentials.key) ∈ steps ∧
        credentials.credentials = ⟨defaultUser, some pair.privateKey⟩ := by
  cases attempt with
  | @registered pair keys proposals name key tries =>
      exact ⟨pair, name, List.mem_cons_self .., by simp, rfl⟩

end Attempt

/-- A search for a name tries candidates, and gives a name or fails. -/
theorem tries_of_plays
    {taken : List String}
    {attempts : Nat}
    {outcome : Option (Except Failure String)}
    (plays : (unusedName taken attempts).Plays steps outcome) :
    ∃ result, outcome = some result ∧ Tries taken attempts steps result := by
  induction attempts generalizing steps with
  | zero =>
      obtain ⟨rfl, rfl⟩ := plays.of_finished
      exact ⟨_, rfl, .exhausted⟩
  | succ attempts inductionHypothesis =>
      obtain ⟨name, later, rfl, goesOn⟩ := plays.of_bind_proposeName
      split at goesOn
      · next occupied =>
          obtain ⟨result, rfl, tries⟩ := inductionHypothesis goesOn
          exact ⟨result, rfl, .used (List.contains_iff_mem.mp occupied) tries⟩
      · next free =>
          obtain ⟨rfl, rfl⟩ := goesOn.of_finished
          exact ⟨_, rfl, .unused (mt List.contains_iff_mem.mpr free)⟩

/-- Provisioning is one attempt, whatever the replies are. -/
theorem attempt_of_plays
    {outcome : Option (Except Failure DefaultCredentials)}
    (plays : provision.Plays steps outcome) :
    ∃ result, outcome = some result ∧ Attempt steps result := by
  rcases plays.of_bind_generateKeys with
    ⟨pair, afterPair, rfl, looks⟩ | ⟨failure, rfl, rfl⟩
  · rcases looks.of_bind_send with
      ⟨keys, afterKeys, rfl, searches⟩ | ⟨failure, rfl, rfl⟩
    · rcases searches.of_bind with
          ⟨name, proposals, registration, names, registers, rfl⟩
            | ⟨failure, names, rfl⟩ |
          ⟨names, _⟩
      · obtain ⟨_, found, tries⟩ := tries_of_plays names
        cases found
        rcases registers.of_bind_send with
          ⟨key, rest, rfl, ends⟩ | ⟨failure, rfl, rfl⟩
        · obtain ⟨rfl, rfl⟩ := ends.of_finished
          exact ⟨_, rfl, .registered tries⟩
        · exact ⟨_, rfl, .refused tries⟩
      · obtain ⟨_, failed, tries⟩ := tries_of_plays names
        cases failed
        exact ⟨_, rfl, .noName tries⟩
      · obtain ⟨_, cut, _⟩ := tries_of_plays names
        cases cut
    · exact ⟨_, rfl, .noKeys⟩
  · exact ⟨_, rfl, .noPair⟩

end DropletClient.Provisioner
