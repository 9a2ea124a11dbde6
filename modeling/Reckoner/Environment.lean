import Reckoner.Event
import Reckoner.Limits
import Reckoner.Numeral.Signed
import Reckoner.Text.Quoted

namespace Reckoner

/-- The variable that gives a setting its value. -/
def Setting.variable : Setting → String
  | .maxDigits => "CALC_MAX_DIGITS"
  | .historyCount => "CALC_HISTORY_COUNT"

/-- The text of every variable that is present. -/
abbrev Environment := String → Option Text

/-- What a variable says. A blank one says nothing. -/
inductive Reading
  | absent
  | unreadable (raw : Text)
  | number (value : Int)
  deriving DecidableEq

def Reading.number? : Reading → Option Int
  | number value => some value
  | absent | unreadable _ => none

namespace Environment

def read (env : Environment) (setting : Setting) : Reading :=
  match env setting.variable with
  | none => .absent
  | some raw =>
    if raw.isAllBlank then .absent
    else
      match Numeral.signed? raw.trim with
      | some value => .number value
      | none => .unreadable raw

def choices (env : Environment) : Choices where
  maxDigits := (env.read .maxDigits).number?
  historyCount := (env.read .historyCount).number?

/-- Variables that are not used leave the default in place. -/
def limits (env : Environment) : Limits :=
  env.choices.applyTo {}

def unreadableEvent? (env : Environment) (setting : Setting) : Option Event :=
  match env.read setting with
  | .unreadable raw =>
    some ⟨.settings, s!"Ignoring non-integer {setting.variable}={raw.quoted}; using default"⟩
  | _ => none

def rejectedEvent? (env : Environment) (setting : Setting) : Option Event :=
  match env.read setting with
  | .number value =>
    if setting.admits value then none
    else
      let text := String.ofList (Numeral.text value)
      some ⟨.settings, s!"Ignoring out-of-range {setting.variable}={text}; using default"⟩
  | _ => none

/-- The warnings, those about texts that are no integers first. Rejected values come in the order
of the names of their settings. -/
def events (env : Environment) : List Event :=
  [.maxDigits, .historyCount].filterMap env.unreadableEvent? ++
    [.historyCount, .maxDigits].filterMap env.rejectedEvent?

end Environment

end Reckoner
