import DropletClient.Settings.Validate

namespace DropletClient.Settings

/-!
# The checks of settings

Every check asks one thing of settings: ten of them of one setting each, the
last one of both periods. The check of settings goes through them in order and
reports the first one that is violated: `validate_eq_ok_iff` and
`validate_eq_error_iff`.
-/

/-- A text holds a character that is not white space. -/
def HasVisible (text : String) : Prop :=
  ∃ character ∈ text.toList, Text.isBlank character = false

/-- What is asked of a setting by itself. -/
def Admits (settings : Settings) : Setting → Prop
  | .clientId => HasVisible settings.clientId
  | .apiKey => HasVisible settings.apiKey
  | .endpoint => HasVisible settings.endpoint
  | .httpTimeout => 0 < settings.httpTimeout
  | .nodeRunningTimeout => settings.nodeRunningTimeout ≤ 604800
  | .nodeSuspendedTimeout => settings.nodeSuspendedTimeout ≤ 604800
  | .nodeTerminatedTimeout => settings.nodeTerminatedTimeout ≤ 604800
  | .imageAvailableTimeout => settings.imageAvailableTimeout ≤ 604800
  | .pollInitialPeriod => 0 < settings.pollInitialPeriod
  | .pollMaxPeriod => 0 < settings.pollMaxPeriod

/--
A check of one setting by itself, or the check of the order of both periods.
-/
inductive Check where
  | alone (setting : Setting)
  | order
  deriving Repr, DecidableEq

namespace Check

/-- All checks in their order. -/
def all : List Check :=
  Setting.all.map .alone ++ [.order]

/-- How many checks are made before a check. -/
def place (check : Check) : Nat :=
  all.idxOf check

/-- The setting that a check tells to change. -/
def setting : Check → Setting
  | .alone setting => setting
  | .order => .pollMaxPeriod

/-- What a check asks. -/
def Holds (settings : Settings) : Check → Prop
  | .alone setting => settings.Admits setting
  | .order => settings.pollInitialPeriod ≤ settings.pollMaxPeriod

/-- The fault of settings that violate a check. -/
def fault (settings : Settings) : Check → Fault
  | .alone .clientId => .blank .clientId
  | .alone .apiKey => .blank .apiKey
  | .alone .endpoint => .blank .endpoint
  | .alone .httpTimeout => .notPositive .httpTimeout
  | .alone .nodeRunningTimeout =>
      .waitTooLong .nodeRunningTimeout settings.nodeRunningTimeout
  | .alone .nodeSuspendedTimeout =>
      .waitTooLong .nodeSuspendedTimeout settings.nodeSuspendedTimeout
  | .alone .nodeTerminatedTimeout =>
      .waitTooLong .nodeTerminatedTimeout settings.nodeTerminatedTimeout
  | .alone .imageAvailableTimeout =>
      .waitTooLong .imageAvailableTimeout settings.imageAvailableTimeout
  | .alone .pollInitialPeriod => .notPositive .pollInitialPeriod
  | .alone .pollMaxPeriod => .notPositive .pollMaxPeriod
  | .order => .periodsInverted settings.pollInitialPeriod settings.pollMaxPeriod

theorem mem_all
    (check : Check) :
    check ∈ all := by
  cases check with
  | alone setting => cases setting <;> decide
  | order => decide

theorem nodup_all : all.Nodup := by
  decide

theorem place_lt
    (check : Check) :
    check.place < 11 :=
  List.idxOf_lt_length_of_mem (mem_all check)

theorem getElem?_place
    (check : Check) :
    all[check.place]? = some check := by
  have inside : check.place < all.length := place_lt check
  have found : (all[check.place] == check) = true :=
    List.findIdx_getElem (w := inside)
  rw [List.getElem?_eq_getElem inside, beq_iff_eq.mp found]

/-- No two checks have the same place. -/
theorem eq_of_place_eq
    {first second : Check}
    (samePlace : first.place = second.place) :
    first = second := by
  have same := getElem?_place first
  rw [samePlace, getElem?_place second] at same
  exact (Option.some.inj same).symm

/--
What stands before a check in the list of all checks are the checks made
before it.
-/
theorem mem_before_of_place_lt
    {check earlier : Check}
    {before after : List Check}
    (shape : all = before ++ check :: after)
    (isEarlier : earlier.place < check.place) :
    earlier ∈ before := by
  have notBefore : check ∉ before := by
    have distinct := nodup_all
    rw [shape, List.nodup_append] at distinct
    exact fun member => distinct.2.2 check member check List.mem_cons_self rfl
  have placed : check.place = before.length := by
    rw [place, shape, List.idxOf_append, if_neg notBefore, List.idxOf_cons_self,
      Nat.zero_add]
  by_cases member : earlier ∈ before
  · exact member
  · rw [placed, place, shape, List.idxOf_append, if_neg member] at isEarlier
    omega

end Check

/-- What a check gives: nothing if its condition holds, else the fault. -/
structure Finds
    (finding : Option Fault)
    (condition : Prop)
    (fault : Fault) : Prop where
  nothing : condition → finding = none
  fault : ¬ condition → finding = some fault

/-- A check of a test that decides against its condition. -/
theorem finds_ite
    {bad : Prop}
    [Decidable bad]
    {condition : Prop}
    (decides : bad ↔ ¬ condition)
    (fault : Fault) :
    Finds (if bad then some fault else none) condition fault where
  nothing holds := if_neg fun isBad => decides.mp isBad holds
  fault violated := if_pos (decides.mpr violated)

theorem isBlankString_iff
    (text : String) :
    Text.isBlankString text = true ↔ ¬ HasVisible text := by
  simp [Text.isBlankString, Text.allBlank, HasVisible]

theorem finds_checkText
    (setting : Setting)
    (value : String) :
    Finds (checkText setting value) (HasVisible value) (.blank setting) :=
  finds_ite (isBlankString_iff value) _

theorem finds_checkPositive
    (setting : Setting)
    (value : Nat) :
    Finds (checkPositive setting value) (0 < value) (.notPositive setting) :=
  finds_ite (by omega) _

theorem finds_checkWait
    (settings : Settings)
    (kind : EventKind) :
    Finds (settings.checkWait kind) (settings.wait kind ≤ 604800)
      (.waitTooLong (waitSetting kind) (settings.wait kind)) :=
  finds_ite (by simp only [longestWait]; omega) _

theorem finds_checkOrder
    (settings : Settings) :
    Finds settings.checkOrder
      (settings.pollInitialPeriod ≤ settings.pollMaxPeriod)
      (.periodsInverted settings.pollInitialPeriod settings.pollMaxPeriod) :=
  finds_ite (by omega) _

/-- What a check finds in settings. -/
def finding (settings : Settings) : Check → Option Fault
  | .alone .clientId => checkText .clientId settings.clientId
  | .alone .apiKey => checkText .apiKey settings.apiKey
  | .alone .endpoint => checkText .endpoint settings.endpoint
  | .alone .httpTimeout => checkPositive .httpTimeout settings.httpTimeout
  | .alone .nodeRunningTimeout => settings.checkWait .nodeRunning
  | .alone .nodeSuspendedTimeout => settings.checkWait .nodeSuspended
  | .alone .nodeTerminatedTimeout => settings.checkWait .nodeTerminated
  | .alone .imageAvailableTimeout => settings.checkWait .imageAvailable
  | .alone .pollInitialPeriod =>
      checkPositive .pollInitialPeriod settings.pollInitialPeriod
  | .alone .pollMaxPeriod => checkPositive .pollMaxPeriod settings.pollMaxPeriod
  | .order => settings.checkOrder

theorem findings_eq
    (settings : Settings) :
    settings.findings = Check.all.map settings.finding :=
  rfl

theorem finds_finding
    (settings : Settings)
    (check : Check) :
    Finds (settings.finding check) (check.Holds settings)
      (check.fault settings) := by
  cases check with
  | alone setting =>
      cases setting with
      | clientId => exact finds_checkText .clientId settings.clientId
      | apiKey => exact finds_checkText .apiKey settings.apiKey
      | endpoint => exact finds_checkText .endpoint settings.endpoint
      | httpTimeout =>
          exact finds_checkPositive .httpTimeout settings.httpTimeout
      | nodeRunningTimeout => exact finds_checkWait settings .nodeRunning
      | nodeSuspendedTimeout => exact finds_checkWait settings .nodeSuspended
      | nodeTerminatedTimeout => exact finds_checkWait settings .nodeTerminated
      | imageAvailableTimeout => exact finds_checkWait settings .imageAvailable
      | pollInitialPeriod =>
          exact finds_checkPositive .pollInitialPeriod
            settings.pollInitialPeriod
      | pollMaxPeriod =>
          exact finds_checkPositive .pollMaxPeriod settings.pollMaxPeriod
  | order => exact finds_checkOrder settings

theorem finding_eq_none_iff
    {settings : Settings}
    {check : Check} :
    settings.finding check = none ↔ check.Holds settings := by
  refine ⟨fun nothing => ?_, (finds_finding settings check).nothing⟩
  refine Classical.byContradiction fun violated => ?_
  cases nothing.symm.trans ((finds_finding settings check).fault violated)

/-- Settings violate a check, and none of those made before it. -/
structure IsFirstViolated (settings : Settings) (check : Check) : Prop where
  violated : ¬ check.Holds settings
  earlier : ∀ earlier : Check,
    earlier.place < check.place → earlier.Holds settings

/-- Settings violate no two checks first. -/
theorem IsFirstViolated.unique
    {settings : Settings}
    {first second : Check}
    (isFirst : settings.IsFirstViolated first)
    (isSecond : settings.IsFirstViolated second) :
    first = second := by
  refine Check.eq_of_place_eq (Nat.le_antisymm ?_ ?_)
  · exact Nat.not_lt.mp fun less =>
      isSecond.violated (isFirst.earlier second less)
  · exact Nat.not_lt.mp fun less =>
      isFirst.violated (isSecond.earlier first less)

/-- The check of settings accepts those that violate no check. -/
theorem validate_eq_ok_iff
    {settings : Settings} :
    settings.validate = .ok () ↔ ∀ check : Check, check.Holds settings := by
  have nothing :
      settings.findings.findSome? id = none ↔
        ∀ check : Check, check.Holds settings := by
    rw [List.findSome?_eq_none_iff, findings_eq]
    simp only [List.forall_mem_map, id_eq, finding_eq_none_iff]
    exact ⟨fun holds check => holds check (Check.mem_all check),
      fun holds check _ => holds check⟩
  rw [← nothing, validate]
  cases settings.findings.findSome? id with
  | none => simp
  | some fault => simp

/-- The first check that is violated is known by what is found. -/
private theorem exists_isFirstViolated
    {settings : Settings}
    {fault : Fault}
    (found : settings.findings.findSome? id = some fault) :
    ∃ check : Check,
      settings.IsFirstViolated check ∧ fault = check.fault settings := by
  rw [findings_eq, List.findSome?_map, Function.id_comp,
    List.findSome?_eq_some_iff] at found
  obtain ⟨before, check, after, shape, finds, nothingBefore⟩ := found
  have violated : ¬ check.Holds settings := fun holds => by
    cases (finding_eq_none_iff.mpr holds).symm.trans finds
  refine ⟨check, ⟨violated, fun earlier isEarlier => ?_⟩, ?_⟩
  · exact finding_eq_none_iff.mp
      (nothingBefore earlier (Check.mem_before_of_place_lt shape isEarlier))
  · exact Option.some.inj
      (finds.symm.trans ((finds_finding settings check).fault violated))

/--
The check of settings reports the fault of the first check that is violated.
-/
theorem validate_eq_error_iff
    {settings : Settings}
    {fault : Fault} :
    settings.validate = .error fault ↔
      ∃ check : Check,
        settings.IsFirstViolated check ∧ fault = check.fault settings := by
  constructor
  · intro refused
    unfold validate at refused
    split at refused
    · next found =>
        cases refused
        exact exists_isFirstViolated found
    · cases refused
  · rintro ⟨check, isFirst, rfl⟩
    cases outcome : settings.validate with
    | ok _ =>
        exact absurd (validate_eq_ok_iff.mp outcome check) isFirst.violated
    | error reported =>
        unfold validate at outcome
        split at outcome
        · next found =>
            cases outcome
            obtain ⟨other, isOther, rfl⟩ := exists_isFirstViolated found
            rw [isFirst.unique isOther]
        · cases outcome

/--
Both periods are positive here, and the first one exceeds the greatest one.
-/
example :
    { withCredentials "client" "key" with
      pollInitialPeriod := 20000 }.validate =
      .error (.periodsInverted 20000 10000) := by
  rfl

/-- What is asked of settings, all in all. -/
structure IsValid (settings : Settings) : Prop where
  clientId : HasVisible settings.clientId
  apiKey : HasVisible settings.apiKey
  endpoint : HasVisible settings.endpoint
  httpTimeout : 0 < settings.httpTimeout
  waits : ∀ kind : EventKind, settings.wait kind ≤ 604800
  pollInitialPeriod : 0 < settings.pollInitialPeriod
  pollMaxPeriod : 0 < settings.pollMaxPeriod
  ordered : settings.pollInitialPeriod ≤ settings.pollMaxPeriod

theorem forall_holds_iff
    {settings : Settings} :
    (∀ check : Check, check.Holds settings) ↔ settings.IsValid := by
  constructor
  · intro holds
    exact {
      clientId := holds (.alone .clientId)
      apiKey := holds (.alone .apiKey)
      endpoint := holds (.alone .endpoint)
      httpTimeout := holds (.alone .httpTimeout)
      waits
        | .nodeRunning => holds (.alone .nodeRunningTimeout)
        | .nodeSuspended => holds (.alone .nodeSuspendedTimeout)
        | .nodeTerminated => holds (.alone .nodeTerminatedTimeout)
        | .imageAvailable => holds (.alone .imageAvailableTimeout)
      pollInitialPeriod := holds (.alone .pollInitialPeriod)
      pollMaxPeriod := holds (.alone .pollMaxPeriod)
      ordered := holds .order
    }
  · intro isValid check
    cases check with
    | alone setting =>
        cases setting with
        | clientId => exact isValid.clientId
        | apiKey => exact isValid.apiKey
        | endpoint => exact isValid.endpoint
        | httpTimeout => exact isValid.httpTimeout
        | nodeRunningTimeout => exact isValid.waits .nodeRunning
        | nodeSuspendedTimeout => exact isValid.waits .nodeSuspended
        | nodeTerminatedTimeout => exact isValid.waits .nodeTerminated
        | imageAvailableTimeout => exact isValid.waits .imageAvailable
        | pollInitialPeriod => exact isValid.pollInitialPeriod
        | pollMaxPeriod => exact isValid.pollMaxPeriod
    | order => exact isValid.ordered

/--
The check of settings accepts those of which all that is asked holds, and
no others.
-/
theorem validate_eq_ok_iff_isValid
    {settings : Settings} :
    settings.validate = .ok () ↔ settings.IsValid :=
  validate_eq_ok_iff.trans forall_holds_iff

end DropletClient.Settings
