import Reckoner.Environment
import Reckoner.Proofs.ChosenLimits
import Reckoner.Proofs.SignedNumeral

namespace Reckoner

namespace Setting

/-- The warning about a text that is no integer. -/
def garbledWarning (setting : Setting) (raw : Text) : Event :=
  ⟨.settings, s!"Ignoring non-integer {setting.variable}={raw.quoted}; using default"⟩

/-- The warning about an integer, given by its text, that is not allowed. -/
def rangeWarning (setting : Setting) (text : Text) : Event :=
  ⟨.settings, s!"Ignoring out-of-range {setting.variable}={String.ofList text}; using default"⟩

end Setting

namespace Environment

/-- The variable of a setting holds an integer, with nothing but blanks around it. -/
def Gives (env : Environment) (setting : Setting) (value : Int) : Prop :=
  ∃ left core right, env setting.variable = some (left ++ core ++ right) ∧
    (∀ c ∈ left, Text.isBlank c = true) ∧ (∀ c ∈ right, Text.isBlank c = true) ∧
    Numeral.Spells core value

/-- The variable of a setting holds a text, and no integer. -/
def Garbles (env : Environment) (setting : Setting) (raw : Text) : Prop :=
  env setting.variable = some raw ∧ raw.isAllBlank = false ∧ ∀ value, ¬ env.Gives setting value

/-- The variable of a setting holds a text that is of no use. -/
def Wastes (env : Environment) (setting : Setting) : Prop :=
  (∃ raw, env setting.variable = some raw ∧ raw.isAllBlank = false) ∧
    ∀ value, env.Gives setting value → ¬ setting.Allows value

variable {env : Environment} {setting : Setting} {value : Int}

theorem Gives.read_eq (given : env.Gives setting value) : env.read setting = .number value := by
  obtain ⟨left, core, right, present, blank, blankToo, spelled⟩ := given
  have trimmed : Text.trim (left ++ core ++ right) = core :=
    spelled.stripped_eq (fun _ margin => margin) blank blankToo
  have visible : Text.isAllBlank (left ++ core ++ right) = false := spelled.visible
  have alone : Numeral.signed? core = some value :=
    Numeral.signed?_eq_some_iff.mpr ⟨[], core, [], by simp, by simp, by simp, spelled⟩
  simp only [read, present, visible, trimmed, alone, Bool.false_eq_true, if_false]

theorem Gives.exists_core (given : env.Gives setting value) :
    ∃ core, Numeral.Spells core value := by
  obtain ⟨_, core, _, _, _, _, spelled⟩ := given
  exact ⟨core, spelled⟩

theorem Gives.exists_raw (given : env.Gives setting value) :
    ∃ raw, env setting.variable = some raw ∧ raw.isAllBlank = false := by
  obtain ⟨_, _, _, present, _, _, spelled⟩ := given
  exact ⟨_, present, spelled.visible⟩

/-- What may be read from a variable, and when. -/
inductive Reads (env : Environment) (setting : Setting) : Reading → Prop
  | absent : (∀ raw, env setting.variable = some raw → raw.isAllBlank = true) →
      Reads env setting .absent
  | unreadable {raw : Text} : env.Garbles setting raw → Reads env setting (.unreadable raw)
  | number {value : Int} : env.Gives setting value → Reads env setting (.number value)

theorem gives_of_signed? {raw : Text} (present : env setting.variable = some raw)
    (found : Numeral.signed? raw.trim = some value) : env.Gives setting value := by
  obtain ⟨left, core, right, trimmed, margin, marginToo, spelled⟩ :=
    Numeral.signed?_eq_some_iff.mp found
  obtain ⟨front, back, whole, blank, blankToo⟩ := exists_margins Text.isBlank raw
  have inner : stripped Text.isBlank raw = left ++ core ++ right := trimmed
  refine ⟨front ++ left, core, right ++ back, ?_, ?_, ?_, spelled⟩
  · rw [present, whole, inner]
    simp only [List.append_assoc]
  · exact List.forall_mem_append.mpr
      ⟨blank, fun c member => Numeral.isBlank_of_isMargin (margin c member)⟩
  · exact List.forall_mem_append.mpr
      ⟨fun c member => Numeral.isBlank_of_isMargin (marginToo c member), blankToo⟩

theorem reads_read (env : Environment) (setting : Setting) :
    env.Reads setting (env.read setting) := by
  cases present : env setting.variable with
  | none =>
    have nothing : env.read setting = .absent := by rw [read, present]
    rw [nothing]
    exact .absent fun raw found => absurd (present.symm.trans found) nofun
  | some raw =>
    by_cases blank : raw.isAllBlank = true
    · have nothing : env.read setting = .absent := by simp only [read, present, blank, if_true]
      rw [nothing]
      refine .absent fun other found => ?_
      cases present.symm.trans found
      exact blank
    · have visible : raw.isAllBlank = false := Bool.not_eq_true _ ▸ blank
      cases found : Numeral.signed? raw.trim with
      | some value =>
        have given := gives_of_signed? present found
        rw [given.read_eq]
        exact .number given
      | none =>
        have garbled : env.read setting = .unreadable raw := by
          simp only [read, present, visible, found, Bool.false_eq_true, if_false]
        rw [garbled]
        -- An integer in this text would have been read.
        refine .unreadable ⟨present, visible, fun value given => ?_⟩
        cases garbled.symm.trans given.read_eq

theorem read_eq_number_iff : env.read setting = .number value ↔ env.Gives setting value := by
  constructor
  · intro number
    have reads := reads_read env setting
    rw [number] at reads
    cases reads with
    | number given => exact given
  · exact Gives.read_eq

theorem read_eq_unreadable_iff {raw : Text} :
    env.read setting = .unreadable raw ↔ env.Garbles setting raw := by
  have reads := reads_read env setting
  constructor
  · intro unreadable
    rw [unreadable] at reads
    cases reads with
    | unreadable garbled => exact garbled
  · rintro ⟨present, visible, noNumber⟩
    generalize env.read setting = reading at reads
    cases reads with
    | absent blank => exact absurd (blank raw present) (by simp [visible])
    | unreadable garbled =>
      cases garbled.1.symm.trans present
      rfl
    | number given => exact absurd given (noNumber _)

theorem choices_get (env : Environment) (setting : Setting) :
    env.choices.get setting = (env.read setting).number? := by
  cases setting with
  | maxDigits => rfl
  | historyCount => rfl

theorem choices_get_eq_some_iff :
    env.choices.get setting = some value ↔ env.Gives setting value := by
  rw [choices_get, ← read_eq_number_iff]
  cases env.read setting with
  | number other => simp [Reading.number?]
  | absent => simp [Reading.number?]
  | unreadable raw => simp [Reading.number?]

theorem limits_get_of_gives (given : env.Gives setting value) (allowed : setting.Allows value) :
    (env.limits.get setting : Int) = value := by
  have chosen := choices_get_eq_some_iff.mpr given
  rw [limits, Choices.get_applyTo, chosen]
  exact Setting.settle_of_allows allowed

theorem limits_get_of_unfit (unfit : ∀ value, env.Gives setting value → ¬ setting.Allows value) :
    env.limits.get setting = setting.fallback := by
  rw [limits, Choices.get_applyTo, Limits.get_empty]
  cases chosen : env.choices.get setting with
  | none => rfl
  | some value =>
    exact Setting.settle_of_not_allows (unfit value (choices_get_eq_some_iff.mp chosen))

/-- No limit depends on any variable but its own. -/
theorem limits_get_congr {other : Environment}
    (same : other setting.variable = env setting.variable) :
    other.limits.get setting = env.limits.get setting := by
  have reading : other.read setting = env.read setting := by rw [read, read, same]
  rw [limits, limits, Choices.get_applyTo, Choices.get_applyTo, choices_get, choices_get, reading]

theorem unreadableEvent?_eq_some_iff {event : Event} :
    env.unreadableEvent? setting = some event ↔
      ∃ raw, env.Garbles setting raw ∧ event = setting.garbledWarning raw := by
  simp only [← read_eq_unreadable_iff, unreadableEvent?]
  cases env.read setting with
  | unreadable raw => simp [Setting.garbledWarning, eq_comm]
  | absent => simp
  | number other => simp

theorem rejectedEvent?_eq_some_iff {event : Event} :
    env.rejectedEvent? setting = some event ↔
      ∃ value, env.Gives setting value ∧ ¬ setting.Allows value ∧
        event = setting.rangeWarning (Numeral.text value) := by
  simp only [← read_eq_number_iff, ← Setting.admits_iff, rejectedEvent?]
  cases env.read setting with
  | number other =>
    by_cases admitted : setting.admits other = true
    · simp [admitted]
    · simp only [if_neg admitted]
      constructor
      · rintro ⟨⟩
        exact ⟨other, rfl, admitted, rfl⟩
      · rintro ⟨value, ⟨⟩, _, rfl⟩
        rfl
  | absent => simp
  | unreadable raw => simp

/-- What is said about a variable, that it is no integer and that it is out of range. -/
def remarks (env : Environment) (setting : Setting) : List Event :=
  (env.unreadableEvent? setting).toList ++ (env.rejectedEvent? setting).toList

/-- A variable that is of no use is worth one warning, and no other is worth any. -/
theorem remarks_cases (env : Environment) (setting : Setting) :
    (env.Wastes setting ∧ ∃ event, env.remarks setting = [event]) ∨
      (¬ env.Wastes setting ∧ env.remarks setting = []) := by
  have reads := reads_read env setting
  generalize found : env.read setting = reading at reads
  cases reads with
  | absent blank =>
    right
    constructor
    · rintro ⟨⟨raw, present, visible⟩, _⟩
      exact absurd (blank raw present) (by simp [visible])
    · simp only [remarks, unreadableEvent?, rejectedEvent?, found]
      rfl
  | @unreadable raw garbled =>
    obtain ⟨present, visible, noNumber⟩ := garbled
    left
    refine ⟨⟨⟨raw, present, visible⟩, fun value given => absurd given (noNumber value)⟩,
      setting.garbledWarning raw, ?_⟩
    simp only [remarks, unreadableEvent?, rejectedEvent?, found]
    rfl
  | @number value given =>
    by_cases allowed : setting.Allows value
    · right
      constructor
      · rintro ⟨_, useless⟩
        exact useless value given allowed
      · simp only [remarks, unreadableEvent?, rejectedEvent?, found,
          Setting.admits_iff.mpr allowed, if_true]
        rfl
    · left
      refine ⟨⟨given.exists_raw, fun other otherGiven => ?_⟩,
        setting.rangeWarning (Numeral.text value), ?_⟩
      · cases given.read_eq.symm.trans otherGiven.read_eq
        exact allowed
      · simp only [remarks, unreadableEvent?, rejectedEvent?, found, Setting.admits_iff, allowed,
          if_false]
        rfl

/-- The warning about a value that was refused, if there is one and it can be written. -/
def refusal? (env : Environment) (setting : Setting) : Option Event := do
  let value ← env.choices.get setting
  let text ← Numeral.text? value
  return setting.rangeWarning text

/-- The limits with the warnings on the way to them. They are built a second time if values were
refused, and without these. -/
def load? (env : Environment) (builder : Limits.Builder) : Option (Limits × List Event) :=
  let noted := [.maxDigits, .historyCount].filterMap env.unreadableEvent?
  match builder.build env.choices with
  | .ok limits => some (limits, noted)
  | .error refused => do
    let refusals ← ([.historyCount, .maxDigits].filter (· ∈ refused)).mapM env.refusal?
    match builder.build (env.choices.without refused) with
    | .ok limits => some (limits, noted ++ refusals)
    | .error _ => none

theorem rejectedEvent?_eq_none (fit : ¬ env.choices.IsUnfit setting) :
    env.rejectedEvent? setting = none := by
  refine Option.eq_none_iff_forall_ne_some.mpr fun event warned => ?_
  obtain ⟨value, given, outside, _⟩ := rejectedEvent?_eq_some_iff.mp warned
  exact fit ⟨value, choices_get_eq_some_iff.mpr given, outside⟩

/-- A value that can be read can be written, so the warning about it never fails. -/
theorem exists_refusal (unfit : env.choices.IsUnfit setting) :
    ∃ event, env.refusal? setting = some event ∧ env.rejectedEvent? setting = some event := by
  obtain ⟨value, chosen, outside⟩ := unfit
  have given := choices_get_eq_some_iff.mp chosen
  obtain ⟨core, spelled⟩ := given.exists_core
  refine ⟨_, ?_, rejectedEvent?_eq_some_iff.mpr ⟨value, given, outside, rfl⟩⟩
  simp [refusal?, chosen, spelled.writable]

theorem mapM_refusal? {refused : List Setting}
    (faulty : ∀ setting, setting ∈ refused ↔ env.choices.IsUnfit setting)
    (settings : List Setting) :
    (settings.filter (· ∈ refused)).mapM env.refusal? =
      some (settings.filterMap env.rejectedEvent?) := by
  induction settings with
  | nil => rfl
  | cons setting settings ih =>
    by_cases fault : setting ∈ refused
    · obtain ⟨event, refusal, rejected⟩ := exists_refusal ((faulty setting).mp fault)
      simp [fault, refusal, rejected, ih]
    · have silent := rejectedEvent?_eq_none (mt (faulty setting).mpr fault)
      simp [fault, silent, ih]

/-- Both attempts together come to the limits taken one by one. -/
theorem load?_eq (env : Environment) (builder : Limits.Builder) :
    env.load? builder = some (env.limits, env.events) := by
  by_cases fit : ∀ setting, ¬ env.choices.IsUnfit setting
  · have silent (setting : Setting) := rejectedEvent?_eq_none (fit setting)
    simp [load?, builder.build_of_fit fit, events, limits, silent]
  · obtain ⟨setting, unfit⟩ := not_forall_not.mp fit
    obtain ⟨refused, failed, faulty, again⟩ := builder.build_again unfit
    simp only [load?, failed, mapM_refusal? faulty, again]
    rfl

/-- Reading the environment never fails. Each limit is the integer that its own variable holds, if
this is allowed, and the usual one otherwise; the warnings name the variables that were of no use,
those about texts that are no integers first. -/
theorem limits_of_environment (env : Environment) :
    (∀ builder, env.load? builder = some (env.limits, env.events)) ∧
    (∀ setting value, env.Gives setting value → setting.Allows value →
      (env.limits.get setting : Int) = value) ∧
    (∀ setting, (∀ value, env.Gives setting value → ¬ setting.Allows value) →
      env.limits.get setting = setting.fallback) ∧
    (∀ other : Environment, ∀ setting, other setting.variable = env setting.variable →
      other.limits.get setting = env.limits.get setting) ∧
    ∃ garbled outOfRange : Setting → Option Event,
      env.events = [.maxDigits, .historyCount].filterMap garbled ++
        [.historyCount, .maxDigits].filterMap outOfRange ∧
      (∀ setting event, garbled setting = some event ↔
        ∃ raw, env.Garbles setting raw ∧ event = setting.garbledWarning raw) ∧
      (∀ setting event, outOfRange setting = some event ↔
        ∃ value, env.Gives setting value ∧ ¬ setting.Allows value ∧
          event = setting.rangeWarning (Numeral.text value)) ∧
      ∀ setting,
        (env.Wastes setting →
          ∃ event, (garbled setting).toList ++ (outOfRange setting).toList = [event]) ∧
        (¬ env.Wastes setting →
          (garbled setting).toList ++ (outOfRange setting).toList = []) := by
  refine ⟨env.load?_eq, fun _ _ => limits_get_of_gives, fun _ => limits_get_of_unfit,
    fun _ _ => limits_get_congr, env.unreadableEvent?, env.rejectedEvent?, rfl,
    fun _ _ => unreadableEvent?_eq_some_iff, fun _ _ => rejectedEvent?_eq_some_iff,
    fun setting => ?_⟩
  rcases env.remarks_cases setting with ⟨wasted, noted⟩ | ⟨useful, silent⟩
  · exact ⟨fun _ => noted, fun useful => absurd wasted useful⟩
  · exact ⟨fun wasted => absurd wasted useful, fun _ => silent⟩

/-- One variable with a sign and an underscore in its number, the other with too small a one. -/
def lopsided : Environment
  | "CALC_MAX_DIGITS" => some [' ', '+', '1', '_', '2', '\n']
  | "CALC_HISTORY_COUNT" => some ['-', '3']
  | _ => none

theorem lopsided_loaded :
    lopsided.Gives .maxDigits 12 ∧ Setting.maxDigits.Allows 12 ∧
      lopsided.limits.maxDigits = 12 ∧ lopsided.limits.historyCount = 5 ∧
      lopsided.load? (.atOnce {} Limits.get_empty) = some (lopsided.limits,
        [⟨.settings, "Ignoring out-of-range CALC_HISTORY_COUNT=-3; using default"⟩]) := by
  obtain ⟨loaded, taken, usual, _⟩ := limits_of_environment lopsided
  have digits : Numeral.Digits ['1', '_', '2'] [1, 2] := .spaced rfl (.last rfl)
  have twelve : lopsided.Gives .maxDigits 12 :=
    ⟨[' '], ['+', '1', '_', '2'], ['\n'], rfl, List.forall_mem_singleton.mpr rfl,
      List.forall_mem_singleton.mpr rfl, .plus digits (by decide)⟩
  have negative : lopsided.read .historyCount = .number (-3) := rfl
  have unfit (value : Int) (given : lopsided.Gives .historyCount value) :
      ¬ Setting.historyCount.Allows value := by
    cases negative.symm.trans given.read_eq
    decide
  refine ⟨twelve, by decide, ?_, usual .historyCount unfit, ?_⟩
  · exact Int.ofNat_inj.mp (taken .maxDigits 12 twelve (by decide))
  · rw [loaded]
    rfl

end Environment

end Reckoner
