import Reckoner.CommandLine.Argument
import Reckoner.Limits
import Reckoner.Numeral.Signed

namespace Reckoner.CommandLine

inductive Severity
  | debug
  | info
  | warning
  | error
  deriving DecidableEq

def Severity.ofName? : String → Option Severity
  | "DEBUG" => some .debug
  | "INFO" => some .info
  | "WARNING" => some .warning
  | "ERROR" => some .error
  | _ => none

/-- What is said about an option: nothing, or a value, or only that there is one. -/
inductive Mention (α : Type)
  | absent
  | hollow
  | value (value : α)

namespace Mention

def value? {α : Type} : Mention α → Option α
  | value a => some a
  | absent | hollow => none

def isHollow {α : Type} : Mention α → Bool
  | hollow => true
  | absent | value _ => false

/-- The mention that a text makes, if it can be read. Two hyphens alone say nothing: this follows
argparse as it was in 3.11 before 3.11.10, which drops them; later releases read them like any other
text. -/
def ofText? {α : Type} (read : Text → Option α) (text : Text) : Option (Mention α) :=
  if text = ['-', '-'] then some hollow else (read text).map value

end Mention

structure Options where
  expression : Mention Text := .absent
  maxDigits : Mention Int := .absent
  historyCount : Mention Int := .absent
  severity : Mention Severity := .absent

namespace Options

/-- The values asked for. -/
def choices (options : Options) : Choices where
  maxDigits := options.maxDigits.value?
  historyCount := options.historyCount.value?

/-- The options with one of them set, if the text makes sense for it. -/
def set? (options : Options) (flag : Flag) (text : Text) : Option Options :=
  match flag with
  | .help => none
  | .expr => do return { options with expression := ← Mention.ofText? some text }
  | .maxDigits => do return { options with maxDigits := ← Mention.ofText? Numeral.signed? text }
  | .historyCount => do
    return { options with historyCount := ← Mention.ofText? Numeral.signed? text }
  | .logLevel => do
    return { options with
      severity := ← Mention.ofText? (fun name => Severity.ofName? (String.ofList name)) text }

end Options

/-- What the arguments ask for. -/
inductive Request
  | help
  | misuse
  | options (options : Options)

/-- The arguments in order, `extra` telling whether one of them belonged to no option. That is
found fault with at the end only, since a request for help comes first. -/
def readArguments (options : Options) (extra : Bool) : List Argument → Request
  | [] => if extra then .misuse else .options options
  | .flag .help none :: _ => .help
  | .flag flag (some value) :: rest =>
    match options.set? flag value with
    | some options => readArguments options extra rest
    | none => .misuse
  | .flag flag none :: .value value :: rest =>
    match options.set? flag value with
    | some options => readArguments options extra rest
    | none => .misuse
  | .flag _ none :: _ => .misuse
  | .value _ :: rest | .unknown :: rest => readArguments options true rest
  | .separator :: _ => .misuse

def request (arguments : List Text) : Request :=
  match classifyAll? arguments with
  | some arguments => readArguments {} false arguments
  | none => .misuse

end Reckoner.CommandLine
