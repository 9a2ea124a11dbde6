import Reckoner.Proofs.EnvironmentLimits
import Reckoner.Proofs.GivenOptions
import Reckoner.Proofs.TypedLine

namespace Reckoner

variable {stack : Stack}

theorem Limits.allows_get (limits : Limits) (setting : Setting) :
    setting.Allows (limits.get setting) := by
  cases setting with
  | maxDigits => exact ⟨Int.ofNat_le.mpr limits.maxDigits_pos, Int.ofNat_le.mpr limits.maxDigits_le⟩
  | historyCount => exact Int.natCast_nonneg _

namespace Choices

variable {choices : Choices} {limits : Limits} {setting : Setting}

/-- All values at once, those of the limits where none is given. -/
def filledFrom (choices : Choices) (limits : Limits) : Choices where
  maxDigits := some (choices.maxDigits.getD limits.maxDigits)
  historyCount := some (choices.historyCount.getD limits.historyCount)

theorem get_filledFrom (choices : Choices) (limits : Limits) (setting : Setting) :
    (choices.filledFrom limits).get setting =
      some ((choices.get setting).getD (limits.get setting)) := by
  cases setting with
  | maxDigits => rfl
  | historyCount => rfl

/-- Limits that hold already are never at fault. -/
theorem isUnfit_filledFrom_iff :
    (choices.filledFrom limits).IsUnfit setting ↔ choices.IsUnfit setting := by
  unfold IsUnfit
  rw [get_filledFrom]
  cases choices.get setting with
  | some value => simp only [Option.getD_some]
  | none =>
    have allowed := limits.allows_get setting
    simp [allowed]

theorem build_filledFrom (builder : Limits.Builder) (fit : ∀ setting, ¬ choices.IsUnfit setting) :
    builder.build (choices.filledFrom limits) = .ok (choices.applyTo limits) := by
  have fitToo (setting : Setting) : ¬ (choices.filledFrom limits).IsUnfit setting :=
    mt isUnfit_filledFrom_iff.mp (fit setting)
  rw [builder.build_of_fit fitToo]
  refine congrArg Except.ok (Limits.ext_get fun setting => Int.ofNat_inj.mp ?_)
  rw [get_applyTo_of_fit (fitToo setting), get_applyTo_of_fit (fit setting), get_filledFrom,
    Option.getD_some]

/-- Building fails if and only if a value is at fault. -/
theorem build_filledFrom_error_iff (builder : Limits.Builder) :
    (∃ refused, builder.build (choices.filledFrom limits) = .error refused) ↔
      ∃ setting, choices.IsUnfit setting := by
  constructor
  · rintro ⟨refused, failed⟩
    by_contra fit
    rw [build_filledFrom builder (not_exists.mp fit)] at failed
    cases failed
  · rintro ⟨setting, unfit⟩
    obtain ⟨refused, failed, _⟩ :=
      builder.refuses _ setting (isUnfit_filledFrom_iff.mpr unfit)
    exact ⟨refused, failed⟩

end Choices

/-- No value that the setting may take can be read from a text. -/
def Setting.Refuses (setting : Setting) (text : Text) : Prop :=
  ∀ value, Numeral.signed? text = some value → ¬ setting.Allows value

theorem Setting.variable_injective : Function.Injective Setting.variable := by
  intro a b same
  cases a <;> cases b <;> first | rfl | exact absurd same (by decide)

namespace CommandLine

theorem Mention.isHollow_iff {α : Type} {mention : Mention α} :
    mention.isHollow = true ↔ mention = .hollow := by
  cases mention <;> simp [isHollow]

namespace Options

variable {options : Options} {setting : Setting} {env other : Environment}

theorem choices_get (options : Options) (setting : Setting) :
    options.choices.get setting = (options.limit setting).value? := by
  cases setting with
  | maxDigits => rfl
  | historyCount => rfl

/-- What is said about a setting leaves it without a value, or gives it one that it may not take. -/
def Oversteps (options : Options) (setting : Setting) : Prop :=
  options.limit setting = .hollow ∨ options.choices.IsUnfit setting

theorem isHollow_limits_iff (options : Options) :
    (options.maxDigits.isHollow || options.historyCount.isHollow) = true ↔
      ∃ setting, options.limit setting = .hollow := by
  rw [Bool.or_eq_true, Mention.isHollow_iff, Mention.isHollow_iff]
  constructor
  · rintro (digits | count)
    · exact ⟨.maxDigits, digits⟩
    · exact ⟨.historyCount, count⟩
  · rintro ⟨setting, hollow⟩
    cases setting with
    | maxDigits => exact Or.inl hollow
    | historyCount => exact Or.inr hollow

theorem plan_of_oversteps (named : options.severity ≠ .hollow)
    (oversteps : options.Oversteps setting) : options.plan env = .misuse := by
  rw [plan, if_neg (mt Mention.isHollow_iff.mp named)]
  split
  · rfl
  · next stated =>
    rcases oversteps with hollow | unfit
    · exact absurd ((isHollow_limits_iff options).mpr ⟨setting, hollow⟩) stated
    · rw [Choices.limits?_of_unfit unfit]

/-- What is to be done once the limits are known. -/
def planUnder (options : Options) (limits : Limits) : Plan :=
  match options.expression with
  | .value expression => .evaluate limits expression
  | .hollow => .withoutValue .expr
  | .absent => .converse limits

theorem planUnder_ne_misuse (limits : Limits) : options.planUnder limits ≠ .misuse := by
  unfold planUnder
  split <;> nofun

theorem plan_of_fit (named : options.severity ≠ .hollow)
    (fit : ∀ setting, ¬ options.Oversteps setting) :
    options.plan env = options.planUnder (options.choices.applyTo env.limits) := by
  have stated : ¬ (options.maxDigits.isHollow || options.historyCount.isHollow) = true := by
    intro hollow
    obtain ⟨setting, hollow⟩ := (isHollow_limits_iff options).mp hollow
    exact fit setting (Or.inl hollow)
  have found : options.choices.limits? env.limits = some (options.choices.applyTo env.limits) :=
    Choices.limits?_of_fit fun setting unfit => fit setting (Or.inr unfit)
  cases expression : options.expression <;>
    simp only [plan, planUnder, Mention.isHollow_iff, named, stated, found, expression,
      Bool.false_eq_true, if_false]

/-- The limits that result where nothing oversteps the bounds. -/
theorem get_applyTo_of_fit (limits : Limits) (fit : ¬ options.Oversteps setting) :
    ((options.choices.applyTo limits).get setting : Int) =
      (options.limit setting).value?.getD (limits.get setting) := by
  rw [Choices.get_applyTo_of_fit (mt Or.inr fit), choices_get]

/-- A variable does not matter if its limit is given. -/
theorem plan_congr (same : ∀ setting, options.limit setting = .absent →
    env setting.variable = other setting.variable) : options.plan env = options.plan other := by
  by_cases named : options.severity = .hollow
  · have hollow := Mention.isHollow_iff.mpr named
    rw [plan, plan, if_pos hollow, if_pos hollow]
  by_cases fit : ∀ setting, ¬ options.Oversteps setting
  · have limits : options.choices.applyTo env.limits = options.choices.applyTo other.limits := by
      refine Limits.ext_get fun setting => Int.ofNat_inj.mp ?_
      rw [get_applyTo_of_fit _ (fit setting), get_applyTo_of_fit _ (fit setting)]
      cases said : options.limit setting with
      | value value => rfl
      | hollow => exact absurd (Or.inl said) (fit setting)
      | absent => rw [Environment.limits_get_congr (same setting said)]
    rw [plan_of_fit named fit, plan_of_fit named fit, limits]
  · obtain ⟨setting, oversteps⟩ := not_forall_not.mp fit
    rw [plan_of_oversteps named oversteps, plan_of_oversteps named oversteps]

end Options

section Accepted

variable {arguments : List Text} {options : Options} {setting : Setting}

theorem tells_limit (accepted : request arguments = .options options) (setting : Setting) :
    Tells Numeral.signed? (given arguments (flagOf setting)) (options.limit setting) :=
  (Slot.limit setting).tells_of_request accepted

theorem tells_expression (accepted : request arguments = .options options) :
    Tells some (given arguments .expr) options.expression :=
  Slot.expr.tells_of_request accepted

theorem severity_ne_hollow (accepted : request arguments = .options options)
    (named : given arguments .logLevel ≠ some ['-', '-']) : options.severity ≠ .hollow :=
  mt (Slot.logLevel.tells_of_request accepted).eq_hollow_iff.mp named

/-- What is asked for is unfit if and only if a text with a value is refused. -/
theorem isUnfit_iff (accepted : request arguments = .options options) :
    options.choices.IsUnfit setting ↔
      ∃ text, given arguments (flagOf setting) = some text ∧ text ≠ ['-', '-'] ∧
        setting.Refuses text := by
  have tells := tells_limit accepted setting
  unfold Choices.IsUnfit
  rw [Options.choices_get]
  generalize given arguments (flagOf setting) = found, options.limit setting = said at tells
  cases tells with
  | nothing => simp [Mention.value?]
  | dashes => simp [Mention.value?]
  | value other read => simp [Mention.value?, Setting.Refuses, other, read]

theorem oversteps_iff (accepted : request arguments = .options options) :
    options.Oversteps setting ↔
      ∃ text, given arguments (flagOf setting) = some text ∧ setting.Refuses text := by
  have tells := tells_limit accepted setting
  unfold Options.Oversteps Choices.IsUnfit
  rw [Options.choices_get]
  generalize given arguments (flagOf setting) = found, options.limit setting = said at tells
  cases tells with
  | nothing => simp [Mention.value?]
  | dashes =>
    refine iff_of_true (Or.inl rfl) ⟨_, rfl, fun value read => ?_⟩
    cases read
  | value _ read => simp [Mention.value?, Setting.Refuses, read]

theorem signed?_of_given (accepted : request arguments = .options options) (limits : Limits)
    (fit : ¬ options.Oversteps setting) {text : Text}
    (found : given arguments (flagOf setting) = some text) :
    Numeral.signed? text = some ((options.choices.applyTo limits).get setting : Int) := by
  have tells := tells_limit accepted setting
  rw [found] at tells
  have other : text ≠ ['-', '-'] := fun dashes =>
    fit (Or.inl (tells.eq_hollow_iff.mpr (congrArg some dashes)))
  obtain ⟨value, read, said⟩ := tells.exists_value other
  rw [Options.get_applyTo_of_fit limits fit, said]
  exact read

theorem get_of_not_given (accepted : request arguments = .options options) (limits : Limits)
    (missing : given arguments (flagOf setting) = none) :
    (options.choices.applyTo limits).get setting = limits.get setting := by
  have absent := (tells_limit accepted setting).eq_absent_iff.mpr missing
  rw [Choices.get_applyTo, Options.choices_get, absent]
  rfl

theorem run_eq (accepted : request arguments = .options options) (env : Environment)
    (input : List (Option Text)) :
    run stack env arguments input = (options.plan env).run stack input := by
  rw [run, plan, accepted]

/-- A variable whose limit is given does not matter. -/
theorem run_congr (accepted : request arguments = .options options) {env other : Environment}
    (same : ∀ name, (∀ setting, given arguments (flagOf setting) ≠ none → name ≠ setting.variable) →
      env name = other name) (input : List (Option Text)) :
    run stack env arguments input = run stack other arguments input := by
  rw [run_eq accepted, run_eq accepted, Options.plan_congr fun setting absent => ?_]
  have missing := (tells_limit accepted setting).eq_absent_iff.mp absent
  refine same setting.variable fun another present shared => present ?_
  rw [← Setting.variable_injective shared, missing]

end Accepted

/-- What is to be reported of a single expression: its value, or what is wrong with it, or what kept
it from being calculated. -/
structure Answers (stack : Stack) (limits : Limits) (expression : Text) (report : Report) :
    Prop where
  value : ∀ value, calculate stack limits expression = .ok (.result value) →
    ∃ text, Numeral.text? value = some text ∧ report = ⟨String.ofList text ++ "\n", .ok 0⟩
  error : ∀ verdict kind, calculate stack limits expression = .ok verdict →
    verdict.error? = some kind → report = ⟨Console.errorText limits kind ++ "\n", .ok 1⟩
  fault : ∀ fault, calculate stack limits expression = .error fault →
    report = ⟨"", .error (.fault fault)⟩
  success : report.ending = .ok 0 ↔
    ∃ verdict, calculate stack limits expression = .ok verdict ∧ verdict.error? = none

theorem evaluateOnce_answers (limits : Limits) (expression : Text) :
    Answers stack limits expression (evaluateOnce stack limits expression) where
  value value calculated := by
    have writable := isWritable_of_calculate calculated
    refine ⟨Numeral.text value, by rw [Numeral.text?, if_pos writable], ?_⟩
    rw [evaluateOnce_eq_answer calculated]
    rfl
  error verdict kind calculated rejected := by
    rw [evaluateOnce_eq_answer calculated, Verdict.answer_of_error rejected]
    rfl
  fault fault calculated := by
    rw [evaluateOnce, calculated]
  success := by
    cases calculated : calculate stack limits expression with
    | error fault => simp [evaluateOnce, calculated]
    | ok verdict =>
      cases verdict <;> simp [evaluateOnce, calculated, Verdict.error?]

/-- Only a run that is turned down ends with the exit code for misuse. -/
theorem Plan.ending_run_iff {plan : Plan} {input : List (Option Text)} :
    (plan.run stack input).ending = .ok 2 ↔ plan = .misuse := by
  cases plan with
  | misuse => exact iff_of_true rfl rfl
  | help | withoutValue flag => simp [Plan.run]
  | evaluate limits expression =>
    simp only [Plan.run, evaluateOnce, reduceCtorEq, iff_false]
    split <;> simp
  | converse limits =>
    simp only [Plan.run, converseOver, reduceCtorEq, iff_false]
    split <;> simp

/-- Where the arguments are accepted, the limits that they give come before those of the
environment, and a run is turned down if and only if one of them is out of bounds. No limits can be
made of them then, unless it has no value at all. -/
theorem limits_of_arguments (stack : Stack) {arguments : List Text} {options : Options}
    (accepted : request arguments = .options options)
    (named : given arguments .logLevel ≠ some ['-', '-']) :
    (∀ env input, (run stack env arguments input).ending = .ok 2 ↔
      ∃ setting text, given arguments (flagOf setting) = some text ∧ setting.Refuses text) ∧
    (∀ env input, (run stack env arguments input).ending = .ok 2 →
      (run stack env arguments input).output = "") ∧
    (∀ (env : Environment) (builder : Limits.Builder),
      (∃ refused, builder.build (options.choices.filledFrom env.limits) = .error refused) ↔
        ∃ setting text, given arguments (flagOf setting) = some text ∧ text ≠ ['-', '-'] ∧
          setting.Refuses text) ∧
    ((∀ setting text, given arguments (flagOf setting) = some text → ¬ setting.Refuses text) →
      ∀ env, ∃ limits : Limits,
        (∀ setting text, given arguments (flagOf setting) = some text →
          Numeral.signed? text = some (limits.get setting : Int)) ∧
        (∀ setting, given arguments (flagOf setting) = none →
          limits.get setting = env.limits.get setting) ∧
        (∀ builder : Limits.Builder,
          builder.build (options.choices.filledFrom env.limits) = .ok limits) ∧
        ∀ input,
          (∀ expression, given arguments .expr = some expression → expression ≠ ['-', '-'] →
            Answers stack limits expression (run stack env arguments input)) ∧
          (given arguments .expr = none →
            run stack env arguments input = converseOver stack limits input)) ∧
    ∀ env other : Environment,
      (∀ name, (∀ setting, given arguments (flagOf setting) ≠ none → name ≠ setting.variable) →
        env name = other name) →
      ∀ input, run stack env arguments input = run stack other arguments input := by
  have severity := severity_ne_hollow accepted named
  refine ⟨fun env input => ?_, fun env input refused => ?_, fun env builder => ?_,
    fun fit env => ?_, fun env other same input => run_congr accepted same input⟩
  · simp only [run_eq accepted, Plan.ending_run_iff, ← oversteps_iff accepted]
    constructor
    · intro refused
      by_contra fit
      rw [Options.plan_of_fit severity (not_exists.mp fit)] at refused
      exact Options.planUnder_ne_misuse _ refused
    · rintro ⟨setting, oversteps⟩
      exact Options.plan_of_oversteps severity oversteps
  · rw [run_eq accepted] at refused ⊢
    rw [Plan.ending_run_iff.mp refused]
    rfl
  · simp only [Choices.build_filledFrom_error_iff, isUnfit_iff accepted]
  · have within (setting : Setting) : ¬ options.Oversteps setting := by
      intro oversteps
      obtain ⟨text, found, refuses⟩ := (oversteps_iff accepted).mp oversteps
      exact fit setting text found refuses
    have planned : options.plan env = _ := Options.plan_of_fit severity within
    refine ⟨options.choices.applyTo env.limits,
      fun setting _ => signed?_of_given accepted env.limits (within setting),
      fun setting => get_of_not_given accepted env.limits,
      fun builder => Choices.build_filledFrom builder fun setting => mt Or.inr (within setting),
      fun input => ⟨fun expression found other => ?_, fun missing => ?_⟩⟩
    · have tells := tells_expression accepted
      rw [found] at tells
      obtain ⟨_, ⟨⟩, said⟩ := tells.exists_value other
      rw [run_eq accepted, planned, Options.planUnder, said]
      exact evaluateOnce_answers _ expression
    · have absent := (tells_expression accepted).eq_absent_iff.mpr missing
      rw [run_eq accepted, planned, Options.planUnder, absent]
      rfl

/-- An expression whose value has four digits, of which three may be shown. -/
def overfull : List Text :=
  ["--max-digits".toList, ['3'], "--expr=999+1".toList]

/-- An environment in which more digits may be shown. -/
def generous : Environment := fun name =>
  if name = Setting.maxDigits.variable then some ['1', '2'] else none

theorem overfull_turned_away :
    request overfull = .options { expression := .value "999+1".toList, maxDigits := .value 3 } ∧
      given overfull .logLevel ≠ some ['-', '-'] ∧
      run .shallow generous overfull [] =
        ⟨"Error: Result exceeds the digit limit (3 digits)\n", .ok 1⟩ ∧
      run .shallow generous overfull [] = run .shallow (fun _ => none) overfull [] := by
  have accepted : request overfull =
      .options { expression := .value "999+1".toList, maxDigits := .value 3 } := rfl
  have named : given overfull .logLevel ≠ some ['-', '-'] := by decide
  obtain ⟨_, _, _, fits, isolated⟩ := limits_of_arguments .shallow accepted named
  have taken : given overfull (flagOf .maxDigits) = some ['3'] := rfl
  have useful : ∀ setting text, given overfull (flagOf setting) = some text →
      ¬ setting.Refuses text := by
    intro setting text found refuses
    cases setting with
    | maxDigits =>
      cases taken.symm.trans found
      exact refuses 3 rfl ⟨by decide, by decide⟩
    | historyCount => cases found
  obtain ⟨limits, read, _, _, answered⟩ := fits useful generous
  have three : limits.maxDigits = 3 := by
    have known : Numeral.signed? ['3'] = some 3 := rfl
    exact Int.ofNat_inj.mp (Option.some.inj ((read _ _ taken).symm.trans known))
  have answers := (answered []).1 "999+1".toList rfl (by decide)
  have calculated : calculate .shallow limits "999+1".toList = .ok (.tooLong 1000) := by
    have valued : valueOf .shallow "999+1".toList = .ok 1000 := rfl
    rw [calculate_of_value limits rfl valued, three]
    rfl
  have told : Console.errorText limits .digitLimitExceeded =
      "Error: Result exceeds the digit limit (3 digits)" := by
    rw [Console.errorText, if_pos rfl, three]
    rfl
  refine ⟨accepted, named, ?_, isolated _ _ (fun name others => if_neg ?_) []⟩
  · rw [answers.error _ _ calculated rfl, told]
    rfl
  · exact others .maxDigits (by decide)

/-- The severity is left without a value. -/
def unnamedSeverity : List Text :=
  ["--log-level=--".toList, "--expr".toList, ['1']]

/-- Not all that is accepted is answered. -/
theorem unnamedSeverity_not_answered :
    request unnamedSeverity = .options { expression := .value ['1'], severity := .hollow } ∧
      given unnamedSeverity .expr = some ['1'] ∧
      (∀ setting, given unnamedSeverity (flagOf setting) = none) ∧
      calculate .shallow (Environment.limits fun _ => none) ['1'] = .ok (.result 1) ∧
      (run .shallow (fun _ => none) unnamedSeverity []).ending ≠ .ok 0 ∧
      (run .shallow (fun _ => none) unnamedSeverity []).output ≠ "1\n" := by
  have accepted : request unnamedSeverity =
      .options { expression := .value ['1'], severity := .hollow } := rfl
  have ended : run .shallow (fun _ => none) unnamedSeverity [] =
      ⟨"", .error (.withoutValue .logLevel)⟩ := by
    rw [run_eq accepted]
    rfl
  refine ⟨accepted, rfl, fun setting => ?_, rfl, ?_, ?_⟩
  · cases setting <;> rfl
  · rw [ended]
    nofun
  · rw [ended]
    decide

end CommandLine

end Reckoner
