import Reckoner.Limits

namespace Reckoner

namespace Setting

/-- The values that a setting may take. -/
def Allows : Setting → Int → Prop
  | maxDigits, value => 1 ≤ value ∧ value ≤ 4300
  | historyCount, value => 0 ≤ value

/-- The limit while no other is given. -/
def fallback : Setting → Nat
  | maxDigits => 10
  | historyCount => 5

/-- The limit once a value may have been given for it. -/
def settle (setting : Setting) (old : Nat) : Option Int → Nat
  | some value => if setting.admits value then value.toNat else old
  | none => old

variable {setting : Setting} {value : Int} {old : Nat}

theorem admits_iff : setting.admits value = true ↔ setting.Allows value := by
  cases setting with
  | maxDigits => exact Bool.and_eq_true_iff.trans (and_congr decide_eq_true_iff decide_eq_true_iff)
  | historyCount => exact decide_eq_true_iff

instance : Decidable (setting.Allows value) :=
  decidable_of_iff _ admits_iff

theorem settle_of_allows (allowed : setting.Allows value) :
    (setting.settle old (some value) : Int) = value := by
  have nonneg : 0 ≤ value := by
    cases setting with
    | maxDigits => exact Int.le_trans (by decide) allowed.1
    | historyCount => exact allowed
  rw [settle, if_pos (admits_iff.mpr allowed)]
  exact Int.toNat_of_nonneg nonneg

theorem settle_of_not_allows (unfit : ¬ setting.Allows value) :
    setting.settle old (some value) = old :=
  if_neg fun admitted => unfit (admits_iff.mp admitted)

end Setting

namespace Limits

def get (limits : Limits) : Setting → Nat
  | .maxDigits => limits.maxDigits
  | .historyCount => limits.historyCount

theorem ext_get {a b : Limits} (same : ∀ setting, a.get setting = b.get setting) : a = b := by
  have digits := same .maxDigits
  have count := same .historyCount
  cases a
  cases b
  cases digits
  cases count
  rfl

theorem get_empty (setting : Setting) : ({} : Limits).get setting = setting.fallback := by
  cases setting with
  | maxDigits => rfl
  | historyCount => rfl

/-- Setting a limit settles it and leaves the other one as it is. -/
theorem get_setIfAdmitted (limits : Limits) (setting other : Setting) (value? : Option Int) :
    (limits.setIfAdmitted setting value?).get other =
      if other = setting then setting.settle (limits.get other) value? else limits.get other := by
  cases value? with
  | none =>
    simp only [Setting.settle, ite_self]
    rfl
  | some value =>
    by_cases admitted : setting.admits value = true
    · cases setting <;> cases other <;>
        simp [setIfAdmitted, set?, Setting.settle, get, admitted]
    · cases setting <;> cases other <;>
        simp [setIfAdmitted, set?, Setting.settle, get, admitted]

end Limits

namespace Choices

theorem get_applyTo (choices : Choices) (limits : Limits) (setting : Setting) :
    (choices.applyTo limits).get setting =
      setting.settle (limits.get setting) (choices.get setting) := by
  rw [applyTo, Limits.get_setIfAdmitted, Limits.get_setIfAdmitted]
  cases setting with
  | maxDigits => rfl
  | historyCount => rfl

/-- The value given for a setting is none that it may take. -/
def IsUnfit (choices : Choices) (setting : Setting) : Prop :=
  ∃ value, choices.get setting = some value ∧ ¬ setting.Allows value

variable {choices : Choices} {setting : Setting}

theorem allows_of_fit {value : Int} (fit : ¬ choices.IsUnfit setting)
    (given : choices.get setting = some value) : setting.Allows value :=
  Decidable.of_not_not fun outside => fit ⟨value, given, outside⟩

theorem mem_rejected_iff : setting ∈ choices.rejected ↔ choices.IsUnfit setting := by
  have listed : setting ∈ [Setting.historyCount, .maxDigits] := by
    cases setting with
    | maxDigits => decide
    | historyCount => decide
  simp only [IsUnfit, rejected, List.mem_filter, listed, true_and, Option.any_eq_true,
    Bool.not_eq_true', ← Setting.admits_iff, Bool.not_eq_true]

theorem limits?_of_fit {limits : Limits} (fit : ∀ setting, ¬ choices.IsUnfit setting) :
    choices.limits? limits = some (choices.applyTo limits) := by
  have none : choices.rejected = [] :=
    List.eq_nil_iff_forall_not_mem.mpr fun setting rejected =>
      fit setting (mem_rejected_iff.mp rejected)
  rw [limits?, none, List.isEmpty_nil, if_pos rfl]

theorem limits?_of_unfit {limits : Limits} (unfit : choices.IsUnfit setting) :
    choices.limits? limits = none := by
  have rejected : choices.rejected ≠ [] := List.ne_nil_of_mem (mem_rejected_iff.mpr unfit)
  rw [limits?, if_neg (mt List.isEmpty_iff.mp rejected)]

theorem get_applyTo_of_fit {limits : Limits} (fit : ¬ choices.IsUnfit setting) :
    ((choices.applyTo limits).get setting : Int) =
      (choices.get setting).getD (limits.get setting) := by
  rw [get_applyTo]
  cases given : choices.get setting with
  | none => rfl
  | some value => exact Setting.settle_of_allows (allows_of_fit fit given)

theorem get_applyTo_of_unfit {limits : Limits} (unfit : choices.IsUnfit setting) :
    (choices.applyTo limits).get setting = limits.get setting := by
  obtain ⟨value, given, outside⟩ := unfit
  rw [get_applyTo, given, Setting.settle_of_not_allows outside]

/-- The values that remain once some settings are left out. -/
def without (choices : Choices) (refused : List Setting) : Choices where
  maxDigits := if .maxDigits ∈ refused then none else choices.maxDigits
  historyCount := if .historyCount ∈ refused then none else choices.historyCount

theorem get_without (refused : List Setting) :
    (choices.without refused).get setting =
      if setting ∈ refused then none else choices.get setting := by
  cases setting with
  | maxDigits => rfl
  | historyCount => rfl

end Choices

/-- What makes limits of all given values at once. Where none is out of bounds it succeeds, with the
usual limit for each that is missing; otherwise it fails and names all settings at fault, in
whatever order. -/
structure Limits.Builder where
  build : Choices → Except (List Setting) Limits
  builds : ∀ choices, (∀ setting, ¬ choices.IsUnfit setting) →
    ∃ limits, build choices = .ok limits ∧
      ∀ setting, (limits.get setting : Int) = (choices.get setting).getD setting.fallback
  refuses : ∀ choices setting, choices.IsUnfit setting →
    ∃ refused, build choices = .error refused ∧
      ∀ other, other ∈ refused ↔ choices.IsUnfit other

namespace Limits.Builder

variable {choices : Choices}

theorem build_of_fit (builder : Builder) (fit : ∀ setting, ¬ choices.IsUnfit setting) :
    builder.build choices = .ok (choices.applyTo {}) := by
  obtain ⟨limits, built, values⟩ := builder.builds choices fit
  have same : limits = choices.applyTo {} := by
    refine Limits.ext_get fun setting => Int.ofNat_inj.mp ?_
    rw [values, Choices.get_applyTo_of_fit (fit setting), Limits.get_empty]
  rw [built, same]

/-- A second attempt without what was refused cannot be refused again. -/
theorem build_again (builder : Builder) {setting : Setting} (unfit : choices.IsUnfit setting) :
    ∃ refused, builder.build choices = .error refused ∧
      (∀ other, other ∈ refused ↔ choices.IsUnfit other) ∧
      builder.build (choices.without refused) = .ok (choices.applyTo {}) := by
  obtain ⟨refused, failed, faulty⟩ := builder.refuses choices setting unfit
  have kept (other : Setting) : ¬ (choices.without refused).IsUnfit other := by
    rintro ⟨value, left, outside⟩
    rw [Choices.get_without] at left
    split at left
    · cases left
    · next accepted => exact accepted ((faulty other).mpr ⟨value, left, outside⟩)
  have same : (choices.without refused).applyTo {} = choices.applyTo {} := by
    refine Limits.ext_get fun other => ?_
    -- A refused value leaves the usual limit in place, and so does one that is left out.
    by_cases fault : other ∈ refused
    · rw [Choices.get_applyTo_of_unfit ((faulty other).mp fault), Choices.get_applyTo,
        Choices.get_without, if_pos fault]
      rfl
    · rw [Choices.get_applyTo, Choices.get_applyTo, Choices.get_without, if_neg fault]
  exact ⟨refused, failed, faulty, (builder.build_of_fit kept).trans (congrArg _ same)⟩

/-- The values are checked together, before any of them takes the place of a usual limit. -/
def atOnce (usual : Limits) (fallbacks : ∀ setting, usual.get setting = setting.fallback) :
    Builder where
  build choices := (choices.limits? usual).elim (.error choices.rejected) .ok
  builds choices fit := by
    refine ⟨choices.applyTo usual, ?_, fun setting => ?_⟩
    · rw [Choices.limits?_of_fit fit, Option.elim_some]
    · rw [Choices.get_applyTo_of_fit (fit setting), fallbacks]
  refuses choices _ unfit := by
    refine ⟨choices.rejected, ?_, fun _ => Choices.mem_rejected_iff⟩
    rw [Choices.limits?_of_unfit unfit, Option.elim_none]

end Limits.Builder

end Reckoner
