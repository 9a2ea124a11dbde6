import Reckoner.Numeral

namespace Reckoner

structure Limits where
  maxDigits : Nat := 10
  historyCount : Nat := 5
  maxDigits_pos : 1 ≤ maxDigits := by decide
  maxDigits_le : maxDigits ≤ Numeral.pieceLimit := by decide

inductive Setting
  | maxDigits
  | historyCount
  deriving DecidableEq

def Setting.admits : Setting → Int → Bool
  | .maxDigits, value => 1 ≤ value && value ≤ Numeral.pieceLimit
  | .historyCount, value => 0 ≤ value

namespace Limits

/-- The limits with one of them set, if the value is admitted. -/
def set? (limits : Limits) (setting : Setting) (value : Int) : Option Limits :=
  match setting with
  | .maxDigits =>
    if admitted : Setting.maxDigits.admits value then
      have bounds : 1 ≤ value ∧ value ≤ Numeral.pieceLimit := by
        simpa [Setting.admits] using admitted
      some { limits with
        maxDigits := value.toNat
        maxDigits_pos := by omega
        maxDigits_le := by omega }
    else none
  | .historyCount =>
    if Setting.historyCount.admits value then some { limits with historyCount := value.toNat }
    else none

/-- The limits with one of them set, or left as it is where no admitted value is given. -/
def setIfAdmitted (limits : Limits) (setting : Setting) (value? : Option Int) : Limits :=
  (value?.bind (limits.set? setting)).getD limits

end Limits

/-- Values asked for, each of which may be missing. -/
structure Choices where
  maxDigits : Option Int := none
  historyCount : Option Int := none

namespace Choices

def get (choices : Choices) : Setting → Option Int
  | .maxDigits => choices.maxDigits
  | .historyCount => choices.historyCount

/-- The settings whose values are not admitted, in the order of their names. -/
def rejected (choices : Choices) : List Setting :=
  [.historyCount, .maxDigits].filter fun setting => (choices.get setting).any (!setting.admits ·)

/-- The given limits with the admitted values in place of theirs. -/
def applyTo (choices : Choices) (limits : Limits) : Limits :=
  (limits.setIfAdmitted .maxDigits choices.maxDigits).setIfAdmitted
    .historyCount choices.historyCount

/-- The limits that result, unless a value is not admitted. -/
def limits? (choices : Choices) (limits : Limits) : Option Limits :=
  if choices.rejected.isEmpty then some (choices.applyTo limits) else none

end Choices

end Reckoner
