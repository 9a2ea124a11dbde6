namespace Reckoner

inductive Event.Source
  | calculation
  | session
  | settings
  deriving DecidableEq

structure Event where
  source : Event.Source
  message : String
  deriving DecidableEq

/-- Only settings that are ignored deserve a warning. -/
def Event.isWarning (event : Event) : Bool :=
  event.source = .settings

end Reckoner
