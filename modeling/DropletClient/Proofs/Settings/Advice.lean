import DropletClient.Proofs.Settings.Check
import DropletClient.Proofs.Text.Numeral
import DropletClient.Proofs.Text.Parts
import DropletClient.Settings.Load

namespace DropletClient.Settings

/-!
# The advice in messages

The message of a fault ends with the advice for one setting. What stands in
front of the advice has ordinary words only, which are not the variable or the
key of any setting; so the message names exactly one setting, and its variable
is read for that setting only.
-/

/-- A message names a text if that is one of its words. -/
def Names (message text : String) : Prop :=
  text.toList ∈ Text.split ' ' message.toList

/--
Of all variables and keys of settings, a message names those of one setting.
-/
structure PointsTo (message : String) (setting : Setting) : Prop where
  environmentName : ∀ other : Setting,
    Names message other.environmentName ↔ other = setting
  key : ∀ other : Setting, Names message other.key ↔ other = setting

/--
A word that is no key, and no variable either, because those have an underscore.
-/
def isOrdinary (word : List Char) : Bool :=
  !word.contains '_' && word != "endpoint".toList

/-- A text of ordinary words. -/
def IsPlain (text : List Char) : Prop :=
  ∀ word ∈ Text.split ' ' text, isOrdinary word = true

instance (text : List Char) : Decidable (IsPlain text) :=
  inferInstanceAs
    (Decidable (∀ word ∈ Text.split ' ' text, isOrdinary word = true))

theorem IsPlain.append
    {text rest : List Char}
    (plain : IsPlain text)
    (plainRest : IsPlain rest) :
    IsPlain (text ++ ' ' :: rest) := by
  intro word member
  rw [Text.split_append_separator] at member
  rcases List.mem_append.mp member with inText | inRest
  · exact plain word inText
  · exact plainRest word inRest

theorem isPlain_of_word
    {word : List Char}
    (noBlank : ' ' ∉ word)
    (ordinary : isOrdinary word = true) :
    IsPlain word := by
  intro other member
  rw [Text.split_of_not_mem noBlank] at member
  rw [List.mem_singleton.mp member]
  exact ordinary

theorem toList_environmentName
    (setting : Setting) :
    setting.environmentName.toList =
      Setting.variableStart.toList ++ setting.key.toList.map Char.toUpper := by
  rw [Setting.environmentName, String.toList_append, String.toList_ofList]

/--
Behind the common start, the name of a variable has one part, the key in
capital letters.
-/
theorem parts?_environmentName
    (setting : Setting) :
    Variable.parts? setting.environmentName = some [setting.key] := by
  rw [Variable.parts?, toList_environmentName]
  cases setting <;> rfl

theorem key_injective
    {first second : Setting}
    (same : first.key = second.key) :
    first = second := by
  cases first <;> cases second <;> first | rfl | simp [Setting.key] at same

theorem environmentName_injective
    {first second : Setting}
    (same : first.environmentName = second.environmentName) :
    first = second := by
  have parts := parts?_environmentName first
  rw [same, parts?_environmentName second] at parts
  exact (key_injective (List.singleton_inj.mp (Option.some.inj parts))).symm

/-- A variable is read for its own setting, and for no other one. -/
theorem valueFor?_environmentName
    (setting other : Setting)
    (value : String) :
    Variable.valueFor? other setting.environmentName value =
      if other = setting then some (Variable.typed value) else none := by
  rw [Variable.valueFor?, parts?_environmentName]
  by_cases same : other = setting
  · simp [same]
  · have otherKey : setting.key ≠ other.key :=
      fun equal => same (key_injective equal).symm
    simp [same, otherKey]

/--
One more variable gives its setting a value and leaves the others as they are.
-/
theorem sourceValue?_append
    (environment : Environment)
    (entries : File.Entries)
    (setting other : Setting)
    (value : String) :
    sourceValue? (environment ++ [(setting.environmentName, value)])
        entries other =
      if other = setting then some (Variable.typed value)
      else sourceValue? environment entries other := by
  simp only [sourceValue?, List.reverse_append, List.reverse_singleton,
    List.singleton_append, List.findSome?_cons, valueFor?_environmentName]
  by_cases same : other = setting
  · simp only [if_pos same, Option.some_or]
  · simp only [if_neg same]

theorem not_isOrdinary_environmentName
    (setting : Setting) :
    isOrdinary setting.environmentName.toList = false := by
  have marked : '_' ∈ Setting.variableStart.toList := by decide
  simp [isOrdinary, toList_environmentName, marked]

theorem not_isOrdinary_key
    (setting : Setting) :
    isOrdinary setting.key.toList = false := by
  cases setting <;> decide

/-- Variables are written in capital letters, and keys are not. -/
theorem environmentName_ne_key
    (setting other : Setting) :
    setting.environmentName ≠ other.key := by
  intro same
  have capital : 'D' ∈ setting.environmentName.toList := by
    rw [toList_environmentName]
    exact List.mem_append_left _ (by decide)
  have small : 'D' ∉ other.key.toList := by
    cases other <;> simp [Setting.key]
  exact small (same ▸ capital)

theorem noBlank_key
    (setting : Setting) :
    ' ' ∉ setting.key.toList := by
  cases setting <;> simp [Setting.key]

theorem noBlank_environmentName
    (setting : Setting) :
    ' ' ∉ setting.environmentName.toList := by
  have noBlankInFront : ' ' ∉ Setting.variableStart.toList := by decide
  have noBlankInCapitals : ' ' ∉ setting.key.toList.map Char.toUpper := by
    cases setting <;> simp [Setting.key]
  rw [toList_environmentName]
  exact fun member =>
    (List.mem_append.mp member).elim noBlankInFront noBlankInCapitals

/-- The words of an advice are ordinary ones, the variable and the key. -/
theorem mem_split_advice_iff
    (setting : Setting)
    {word : List Char}
    (notOrdinary : isOrdinary word = false) :
    word ∈ Text.split ' ' setting.advice.toList ↔
      word = setting.environmentName.toList ∨ word = setting.key.toList := by
  have shape :
      setting.advice.toList =
        "set".toList ++ ' ' ::
          (setting.environmentName.toList ++ ' ' :: ("or add".toList ++ ' ' ::
          (setting.key.toList ++ ' ' ::
            "to [digitalocean] in dropship.toml".toList))) := by
    simp [Setting.advice]
  have inPlain {text : List Char} (plain : IsPlain text) :
      ¬ word ∈ Text.split ' ' text := by
    intro member
    rw [plain word member] at notOrdinary
    cases notOrdinary
  have first := inPlain (show IsPlain "set".toList by decide)
  have second := inPlain (show IsPlain "or add".toList by decide)
  have third :=
    inPlain (show IsPlain "to [digitalocean] in dropship.toml".toList by decide)
  simp only [shape, Text.split_append_separator, List.mem_append, first, second,
    third, Text.split_of_not_mem (noBlank_environmentName setting),
    Text.split_of_not_mem (noBlank_key setting), List.mem_singleton,
    false_or, or_false]

/--
A message that is plain in front of an advice points to the setting of
the advice.
-/
theorem pointsTo_of_plain
    {message : String}
    {setting : Setting}
    (lead : List Char)
    (shape : message.toList = lead ++ ' ' :: setting.advice.toList)
    (plain : IsPlain lead) :
    PointsTo message setting := by
  have names {text : String} (notOrdinary : isOrdinary text.toList = false) :
      Names message text ↔
        text = setting.environmentName ∨ text = setting.key := by
    have notInLead : ¬ text.toList ∈ Text.split ' ' lead := by
      intro member
      rw [plain _ member] at notOrdinary
      cases notOrdinary
    rw [Names, shape, Text.split_append_separator, List.mem_append,
      mem_split_advice_iff setting notOrdinary, String.toList_inj,
        String.toList_inj]
    simp only [notInLead, false_or]
  constructor
  · intro other
    rw [names (not_isOrdinary_environmentName other)]
    constructor
    · rintro (same | same)
      · exact environmentName_injective same
      · exact absurd same (environmentName_ne_key other setting)
    · rintro rfl
      exact .inl rfl
  · intro other
    rw [names (not_isOrdinary_key other)]
    constructor
    · rintro (same | same)
      · exact absurd same.symm (environmentName_ne_key setting other)
      · exact key_injective same
    · rintro rfl
      exact .inr rfl

/-- A number is an ordinary word, also behind an opening bracket. -/
theorem isPlain_number
    {start : List Char}
    (starts : start = [] ∨ start = ['('])
    (value : Nat) :
    IsPlain (start ++ (Text.Decimal.ofNat value).toList) := by
  have isNumeral := Text.Decimal.isNumeral_digits value
  have absent
      (character : Char)
      (notDigit : Text.Decimal.isDigit character = false) :
      character ∉ Text.Decimal.digits value := fun member => by
    cases notDigit.symm.trans (isNumeral.digits character member)
  rw [Text.Decimal.ofNat, String.toList_ofList]
  refine isPlain_of_word ?_ ?_
  · rcases starts with rfl | rfl <;> simpa using absent ' ' (by decide)
  · have noMark : '_' ∉ start ++ Text.Decimal.digits value := by
      rcases starts with rfl | rfl <;> simpa using absent '_' (by decide)
    have noLetter : 'e' ∉ start ++ Text.Decimal.digits value := by
      rcases starts with rfl | rfl <;> simpa using absent 'e' (by decide)
    have other :
        (start ++ Text.Decimal.digits value != "endpoint".toList) = true :=
      bne_iff_ne.mpr fun same => noLetter (same ▸ by decide)
    rw [isOrdinary, other, Bool.and_true, Bool.not_eq_true',
      List.contains_eq_mem, decide_eq_false noMark]

theorem pointsTo_blank
    {setting : Setting}
    (plain : IsPlain (setting.description.toList ++ [':'])) :
    PointsTo (Fault.blank setting).message setting := by
  refine pointsTo_of_plain
    ("missing configuration field: missing".toList ++ ' ' ::
      (setting.description.toList ++ [':'])) ?_ ?_
  · change ("missing configuration field: missing " ++ setting.description ++
      ": " ++ setting.advice).toList = _
    simp
  · exact IsPlain.append (by decide) plain

theorem pointsTo_notPositive
    {setting : Setting}
    (plain : IsPlain setting.description.toList) :
    PointsTo (Fault.notPositive setting).message setting := by
  refine pointsTo_of_plain
    ("invalid configuration value:".toList ++ ' ' ::
      (setting.description.toList ++ ' ' ::
      "must be greater than zero:".toList)) ?_ ?_
  · change ("invalid configuration value: " ++ setting.description ++
      " must be greater than zero: " ++ setting.advice).toList = _
    simp
  · exact IsPlain.append (by decide) (IsPlain.append plain (by decide))

theorem pointsTo_waitTooLong
    {setting : Setting}
    (plain : IsPlain setting.description.toList)
    (seconds : Nat) :
    PointsTo (Fault.waitTooLong setting seconds).message setting := by
  refine pointsTo_of_plain
    ("invalid configuration value:".toList ++ ' ' ::
      (setting.description.toList ++ ' ' ::
      ("of".toList ++ ' ' :: ((Text.Decimal.ofNat seconds).toList ++ ' ' ::
        ("s exceeds the maximum of".toList ++ ' ' ::
          ((Text.Decimal.ofNat longestWait).toList ++ ' ' :: "s:".toList))))))
    ?_ ?_
  · change ("invalid configuration value: " ++ setting.description ++ " of " ++
      Text.Decimal.ofNat seconds ++ " s exceeds the maximum of " ++
      Text.Decimal.ofNat longestWait ++ " s: " ++ setting.advice).toList = _
    generalize Text.Decimal.ofNat longestWait = longest
    simp
  · exact IsPlain.append (by decide) (IsPlain.append plain
      (IsPlain.append (by decide)
        (IsPlain.append (isPlain_number (.inl rfl) seconds)
        (IsPlain.append (by decide)
          (IsPlain.append (isPlain_number (.inl rfl) longestWait)
          (by decide))))))

theorem pointsTo_periodsInverted
    (initial greatest : Nat) :
    PointsTo
      (Fault.periodsInverted initial greatest).message .pollMaxPeriod := by
  refine pointsTo_of_plain
    ("invalid configuration value: initial poll period".toList ++ ' ' ::
      (['('] ++ (Text.Decimal.ofNat initial).toList ++ ' ' ::
        ("ms) exceeds the maximum poll period".toList ++ ' ' ::
          (['('] ++ (Text.Decimal.ofNat greatest).toList ++ ' ' ::
            "ms):".toList)))) ?_ ?_
  · change ("invalid configuration value: " ++ "initial poll period" ++ " (" ++
      Text.Decimal.ofNat initial ++ " ms) exceeds the " ++
      "maximum poll period" ++ " (" ++
      Text.Decimal.ofNat greatest ++ " ms): " ++
      Setting.pollMaxPeriod.advice).toList = _
    simp
  · exact IsPlain.append (by decide)
      (IsPlain.append (isPlain_number (.inr rfl) initial)
      (IsPlain.append (by decide)
        (IsPlain.append (isPlain_number (.inr rfl) greatest) (by decide))))

/--
The message of every fault that a check finds points to the setting of
the check.
-/
theorem pointsTo_message
    (settings : Settings)
    (check : Check) :
    PointsTo (check.fault settings).message check.setting := by
  cases check with
  | alone setting =>
      cases setting with
      | clientId => exact pointsTo_blank (by decide)
      | apiKey => exact pointsTo_blank (by decide)
      | endpoint => exact pointsTo_blank (by decide)
      | httpTimeout => exact pointsTo_notPositive (by decide)
      | nodeRunningTimeout =>
          exact pointsTo_waitTooLong (by decide) settings.nodeRunningTimeout
      | nodeSuspendedTimeout =>
          exact pointsTo_waitTooLong (by decide) settings.nodeSuspendedTimeout
      | nodeTerminatedTimeout =>
          exact pointsTo_waitTooLong (by decide) settings.nodeTerminatedTimeout
      | imageAvailableTimeout =>
          exact pointsTo_waitTooLong (by decide) settings.imageAvailableTimeout
      | pollInitialPeriod => exact pointsTo_notPositive (by decide)
      | pollMaxPeriod => exact pointsTo_notPositive (by decide)
  | order =>
      exact pointsTo_periodsInverted settings.pollInitialPeriod
        settings.pollMaxPeriod

end DropletClient.Settings
