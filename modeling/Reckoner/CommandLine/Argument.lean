import Reckoner.Text.Blank
import Reckoner.Text.DecimalDigit

namespace Reckoner.CommandLine

inductive Flag
  | help
  | expr
  | maxDigits
  | historyCount
  | logLevel
  deriving DecidableEq

def Flag.all : List Flag :=
  [.help, .expr, .maxDigits, .historyCount, .logLevel]

def Flag.name : Flag → String
  | .help => "--help"
  | .expr => "--expr"
  | .maxDigits => "--max-digits"
  | .historyCount => "--history-count"
  | .logLevel => "--log-level"

inductive Argument
  | value (text : Text)
  | flag (flag : Flag) (attached : Option Text)
  | unknown
  | separator
  deriving DecidableEq

def isDecimal (c : Char) : Bool :=
  (Text.decimalDigit? c).isSome

/-- A minus sign in front of digits, with or without a point. A line end after them is allowed. -/
def isNegativeNumber (argument : Text) : Bool :=
  match argument with
  | '-' :: rest =>
    let body := if rest.getLast? = some '\n' then rest.dropLast else rest
    let whole := body.takeWhile isDecimal
    match body.dropWhile isDecimal with
    | [] => !whole.isEmpty
    | '.' :: fraction => !fraction.isEmpty && fraction.all isDecimal
    | _ => false
  | _ => false

/-- An argument with a dash in front that names no option. -/
def unnamed (argument : Text) : Argument :=
  if isNegativeNumber argument || argument.contains ' ' then .value argument else .unknown

/-- The name and the value that an equals sign separates. -/
def splitAttached (argument : Text) : Text × Option Text :=
  match argument.dropWhile (· != '=') with
  | _ :: value => (argument.takeWhile (· != '='), some value)
  | [] => (argument, none)

/-- Whether what follows a first `h` asks for help as well. One equals sign is passed over, and
after it something has to follow. -/
def asksHelp : Text → Bool
  | ['='] => false
  | '=' :: letters | letters => letters.all (· == 'h')

/-- What an argument is, unless more than one option has a name that begins with it. -/
def classify? (argument : Text) : Option Argument :=
  match argument with
  | '-' :: '-' :: _ =>
    let (name, attached) := splitAttached argument
    match Flag.all.filter fun flag => name.isPrefixOf flag.name.toList with
    | [] => some (unnamed argument)
    | [flag] => some (.flag flag attached)
    | _ => none
  | '-' :: 'h' :: letters =>
    some (.flag .help (if asksHelp letters then none else some letters))
  | '-' :: _ :: _ => some (unnamed argument)
  | _ => some (.value argument)

/-- The arguments up to a pair of dashes on its own, after which no option is recognised. -/
def classifyAll? : List Text → Option (List Argument)
  | [] => some []
  | ['-', '-'] :: _ => some [.separator]
  | argument :: rest => do
    let first ← classify? argument
    let later ← classifyAll? rest
    return first :: later

end Reckoner.CommandLine
