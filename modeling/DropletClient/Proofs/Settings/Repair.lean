import DropletClient.Proofs.Settings.Advice

namespace DropletClient.Settings

/-!
# Following the advice

A fault is repaired by a change of the one setting that its message points to,
and the repair keeps what the checks before it ask. So whoever follows the
messages gets further with every change, and has settings without a fault after
as many changes as there are checks, at most.
-/

/-- The value of a setting, as a source gives it. -/
def valueOf (settings : Settings) : Setting → SourceValue
  | .clientId => .text settings.clientId
  | .apiKey => .text settings.apiKey
  | .endpoint => .text settings.endpoint
  | .httpTimeout => .integer settings.httpTimeout
  | .nodeRunningTimeout => .integer settings.nodeRunningTimeout
  | .nodeSuspendedTimeout => .integer settings.nodeSuspendedTimeout
  | .nodeTerminatedTimeout => .integer settings.nodeTerminatedTimeout
  | .imageAvailableTimeout => .integer settings.imageAvailableTimeout
  | .pollInitialPeriod => .integer settings.pollInitialPeriod
  | .pollMaxPeriod => .integer settings.pollMaxPeriod

/-- All settings but one are the same. -/
def DiffersOnlyAt (setting : Setting) (settings changed : Settings) : Prop :=
  ∀ other : Setting,
    other ≠ setting → changed.valueOf other = settings.valueOf other

/-- All numbers are ones that a source can give. -/
def Fits (settings : Settings) : Prop :=
  ∀ (setting : Setting) (number : Nat),
    settings.valueOf setting = .integer number →
      number < SourceValue.numberLimit

/-- What is asked of a setting by itself depends on its value only. -/
theorem admits_congr
    {settings changed : Settings}
    {setting : Setting}
    (same : changed.valueOf setting = settings.valueOf setting) :
    changed.Admits setting ↔ settings.Admits setting := by
  cases setting <;> simp only [valueOf, SourceValue.text.injEq,
    SourceValue.integer.injEq, Int.natCast_inj] at same <;>
    simp only [Admits, same]

/-- The settings with one of them taken from others. -/
def taking (settings : Settings) (source : Settings) : Setting → Settings
  | .clientId => { settings with clientId := source.clientId }
  | .apiKey => { settings with apiKey := source.apiKey }
  | .endpoint => { settings with endpoint := source.endpoint }
  | .httpTimeout => { settings with httpTimeout := source.httpTimeout }
  | .nodeRunningTimeout =>
      { settings with nodeRunningTimeout := source.nodeRunningTimeout }
  | .nodeSuspendedTimeout =>
      { settings with nodeSuspendedTimeout := source.nodeSuspendedTimeout }
  | .nodeTerminatedTimeout =>
      { settings with nodeTerminatedTimeout := source.nodeTerminatedTimeout }
  | .imageAvailableTimeout =>
      { settings with imageAvailableTimeout := source.imageAvailableTimeout }
  | .pollInitialPeriod =>
      { settings with pollInitialPeriod := source.pollInitialPeriod }
  | .pollMaxPeriod => { settings with pollMaxPeriod := source.pollMaxPeriod }

theorem valueOf_taking
    (settings source : Settings)
    (setting : Setting) :
    (settings.taking source setting).valueOf setting =
      source.valueOf setting := by
  cases setting <;> rfl

theorem differsOnlyAt_taking
    (settings source : Settings)
    (setting : Setting) :
    DiffersOnlyAt setting settings (settings.taking source setting) := by
  intro other isOther
  cases setting <;> cases other <;> first | rfl | exact absurd rfl isOther

/-- Settings that no check finds fault with: the defaults, with credentials. -/
def sound : Settings :=
  withCredentials "client" "key"

/-- Where the value that repairs a violation of a check is taken from. -/
def remedy (settings : Settings) : Check → Settings
  | .alone _ => sound
  | .order => { settings with pollMaxPeriod := settings.pollInitialPeriod }

/--
The settings with a new value for the setting that a check tells to change.
-/
def repair (settings : Settings) (check : Check) : Settings :=
  settings.taking (settings.remedy check) check.setting

theorem admits_sound
    (setting : Setting) :
    sound.Admits setting := by
  cases setting with
  | clientId => exact ⟨'c', by decide, by decide⟩
  | apiKey => exact ⟨'k', by decide, by decide⟩
  | endpoint => exact ⟨'h', by decide, by decide⟩
  | _ => simp [Admits, sound, withCredentials]

theorem fits_sound : sound.Fits := by
  intro setting number value
  have limit : SourceValue.numberLimit = 18446744073709551616 := by decide
  cases setting <;> simp [valueOf, sound, withCredentials] at value <;> omega

theorem fits_taking
    {settings source : Settings}
    (fits : settings.Fits)
    {setting : Setting}
    (fitsSource :
      ∀ number : Nat, source.valueOf setting = .integer number →
        number < SourceValue.numberLimit) :
    (settings.taking source setting).Fits := by
  intro other number value
  by_cases isSame : other = setting
  · subst isSame
    exact fitsSource number
      ((valueOf_taking settings source other).symm.trans value)
  · exact fits other number
      ((differsOnlyAt_taking settings source setting other isSame).symm.trans
        value)

/-- A repair takes numbers that a source can give. -/
theorem fits_repair
    {settings : Settings}
    (fits : settings.Fits)
    (check : Check) :
    (settings.repair check).Fits := by
  cases check with
  | alone setting => exact fits_taking fits (fits_sound setting)
  | order =>
      exact fits_taking fits fun number value =>
        fits .pollInitialPeriod number value

/-- A repaired setting is as its check asks. -/
theorem holds_repair
    (settings : Settings)
    (check : Check) :
    check.Holds (settings.repair check) := by
  cases check with
  | alone setting =>
      exact (admits_congr (valueOf_taking settings sound setting)).mpr
        (admits_sound setting)
  | order => exact Nat.le_refl settings.pollInitialPeriod

/--
A repair keeps what the checks before it ask. The greatest period is changed
once more after it was looked at by itself, but it becomes the first period,
which is known to be positive by then.
-/
theorem holds_repair_of_earlier
    {settings : Settings}
    {check : Check}
    (earlierHold : ∀ earlier : Check,
      earlier.place < check.place → earlier.Holds settings)
    {earlier : Check}
    (isEarlier : earlier.place < check.place) :
    earlier.Holds (settings.repair check) := by
  cases earlier with
  | order =>
      have notLast : check.place < 11 := Check.place_lt check
      have last : Check.order.place = 10 := by decide
      omega
  | alone other =>
      by_cases changed : other = check.setting
      · cases check with
        | alone setting =>
            rw [show other = setting from changed] at isEarlier
            exact absurd isEarlier (Nat.lt_irrefl _)
        | order =>
            rw [show other = .pollMaxPeriod from changed]
            exact earlierHold (.alone .pollInitialPeriod) (by decide)
      · exact (admits_congr
          (differsOnlyAt_taking settings _ check.setting other changed)).mpr
          (earlierHold (.alone other) isEarlier)

/--
The change that a message asks for: of its setting alone, so that checking
gets further.
-/
structure Follows (check : Check) (settings changed : Settings) : Prop where
  only : DiffersOnlyAt check.setting settings changed
  fits : settings.Fits → changed.Fits
  further :
    changed.validate = .ok () ∨
      ∃ later : Check, changed.IsFirstViolated later ∧ check.place < later.place

/-- Only later checks are violated first after the change. -/
theorem Follows.place_lt
    {check later : Check}
    {settings changed : Settings}
    (follows : Follows check settings changed)
    (isLater : changed.IsFirstViolated later) :
    check.place < later.place := by
  rcases follows.further with accepted | ⟨other, isOther, further⟩
  · exact absurd (validate_eq_ok_iff.mp accepted later) isLater.violated
  · exact isLater.unique isOther ▸ further

theorem follows_repair
    {settings : Settings}
    {check : Check}
    (isFirst : settings.IsFirstViolated check) :
    Follows check settings (settings.repair check) where
  only := differsOnlyAt_taking settings (settings.remedy check) check.setting
  fits fits := fits_repair fits check
  further := by
    cases outcome : (settings.repair check).validate with
    | ok _ => exact .inl rfl
    | error fault =>
        obtain ⟨later, isLater, _⟩ := validate_eq_error_iff.mp outcome
        refine .inr
          ⟨later, isLater, Nat.lt_of_not_le fun notLater => isLater.violated ?_⟩
        rcases Nat.lt_or_eq_of_le notLater with isEarlier | samePlace
        · exact holds_repair_of_earlier isFirst.earlier isEarlier
        · rw [Check.eq_of_place_eq samePlace]
          exact holds_repair settings check

/-- What following the messages a number of times makes of settings. -/
inductive Reaches (settings : Settings) : (count : Nat) → Settings → Prop where
  | stay : Reaches settings 0 settings
  | follow
      {count : Nat}
      {check : Check}
      {reached changed : Settings}
      (reaches : Reaches settings count reached)
      (isFirst : reached.IsFirstViolated check)
      (follows : Follows check reached changed) :
      Reaches settings (count + 1) changed

/-- After a number of changes, as many checks are passed. -/
theorem Reaches.count_le_place
    {settings reached : Settings}
    {count : Nat}
    (reaches : settings.Reaches count reached)
    {check : Check}
    (isFirst : reached.IsFirstViolated check) :
    count ≤ check.place := by
  -- The place of the first violated check goes up with every change.
  induction reaches generalizing check with
  | stay => exact Nat.zero_le _
  | follow reaches isFirstBefore follows inductionHypothesis =>
      have passed := inductionHypothesis isFirstBefore
      have further := follows.place_lt isFirst
      omega

/-- Messages can be followed as often as there are checks, at most. -/
theorem Reaches.count_le
    {settings reached : Settings}
    {count : Nat}
    (reaches : settings.Reaches count reached) :
    count ≤ 11 := by
  cases reaches with
  | stay => exact Nat.zero_le _
  | @follow _ check _ _ reaches isFirst _ =>
      have passed := reaches.count_le_place isFirst
      have place := check.place_lt
      omega

/-- Settings that are reached are accepted, or there is a message to follow. -/
theorem Reaches.accepted_or_follow
    {settings reached : Settings}
    {count : Nat}
    (reaches : settings.Reaches count reached) :
    reached.validate = .ok () ∨ ∃ changed :
      Settings, settings.Reaches (count + 1) changed := by
  cases outcome : reached.validate with
  | ok _ => exact .inl rfl
  | error fault =>
      obtain ⟨check, isFirst, _⟩ := validate_eq_error_iff.mp outcome
      exact .inr
        ⟨reached.repair check, .follow reaches isFirst (follows_repair isFirst)⟩

/--
Whoever goes on following the messages comes to settings that are accepted.
-/
theorem Reaches.exists_accepted
    {settings reached : Settings}
    {count : Nat}
    (reaches : settings.Reaches count reached) :
    ∃ (total : Nat) (last : Settings),
      settings.Reaches total last ∧ last.validate = .ok () := by
  rcases reaches.accepted_or_follow with accepted | ⟨changed, reachesChanged⟩
  · exact ⟨count, reached, reaches, accepted⟩
  · exact reachesChanged.exists_accepted
  termination_by 11 - count
  decreasing_by
    have bound := reachesChanged.count_le
    omega

/-- What is promised of checking settings and of following the messages. -/
structure LeadsOut (settings : Settings) : Prop where
  /-- The check accepts what is valid, and nothing else. -/
  accepts : settings.validate = .ok () ↔ settings.IsValid
  /--
  What it reports otherwise is the first violation in the order of the checks.
  -/
  first :
    ∀ fault : Fault, settings.validate = .error fault ↔
      ∃ check : Check,
        settings.IsFirstViolated check ∧ fault = check.fault settings
  /-- The message names the variable and the key of one setting. -/
  points : ∀ check : Check,
    PointsTo (check.fault settings).message check.setting
  /-- The variable that is named makes this setting, and no other one. -/
  read :
    ∀ (check : Check)
      (environment : Environment)
      (entries : File.Entries)
      (other : Setting)
      (value : String),
      sourceValue? (environment ++ [(check.setting.environmentName, value)])
          entries other =
        if other = check.setting then some (Variable.typed value)
        else sourceValue? environment entries other
  /-- There is a value for this setting with which checking gets further. -/
  repairable :
    ∀ check : Check, settings.IsFirstViolated check →
      ∃ changed : Settings, Follows check settings changed
  /-- Messages can be followed as often as there are checks, at most. -/
  brief : ∀ (count : Nat) (reached : Settings),
    settings.Reaches count reached → count ≤ 11
  /-- As long as there is no valid result, there is a message to follow. -/
  onward :
    ∀ (count : Nat) (reached : Settings), settings.Reaches count reached →
      reached.validate = .ok () ∨ ∃ changed :
        Settings, settings.Reaches (count + 1) changed
  /-- So following the messages ends, with settings that are accepted. -/
  arrives :
    ∃ (count : Nat) (reached : Settings),
      settings.Reaches count reached ∧ reached.validate = .ok ()

/-- The messages of the check of settings lead to settings that are accepted. -/
theorem messages_lead_to_valid_settings
    (settings : Settings) :
    LeadsOut settings where
  accepts := validate_eq_ok_iff_isValid
  first _ := validate_eq_error_iff
  points := pointsTo_message settings
  read check environment entries other value :=
    sourceValue?_append environment entries check.setting other value
  repairable check isFirst := ⟨settings.repair check, follows_repair isFirst⟩
  brief _ _ reaches := reaches.count_le
  onward _ _ reaches := reaches.accepted_or_follow
  arrives := Reaches.stay.exists_accepted

end DropletClient.Settings
