import Reckoner.CommandLine.Options
import Reckoner.Console.Prompt
import Reckoner.Environment

namespace Reckoner.CommandLine

/-- What is to be done, under which limits. -/
inductive Plan
  | help
  | misuse
  | withoutValue (flag : Flag)
  | evaluate (limits : Limits) (expression : Text)
  | converse (limits : Limits)

/-- Options count before the environment, and only they can be at fault. The severity is needed
first and the expression last; a limit without a value is as bad as one out of bounds. -/
def Options.plan (env : Environment) (options : Options) : Plan :=
  if options.severity.isHollow then .withoutValue .logLevel
  else if options.maxDigits.isHollow || options.historyCount.isHollow then .misuse
  else
    match options.choices.limits? env.limits with
    | none => .misuse
    | some limits =>
      match options.expression with
      | .value expression => .evaluate limits expression
      | .hollow => .withoutValue .expr
      | .absent => .converse limits

def plan (env : Environment) (arguments : List Text) : Plan :=
  match request arguments with
  | .help => .help
  | .misuse => .misuse
  | .options options => options.plan env

def usageText : String :=
  "usage: reckoner [-h] [--expr EXPR] [--max-digits MAX_DIGITS]\n" ++
  "                [--history-count HISTORY_COUNT]\n" ++
  "                [--log-level \x7bDEBUG,INFO,WARNING,ERROR\x7d]\n"

def manual : String :=
  usageText ++ "\n" ++
  "Integer expression calculator.\n\n" ++
  "options:\n" ++
  "  -h, --help                     show this help message and exit\n" ++
  "  --expr EXPR                    evaluate a single expression and exit\n" ++
  "  --max-digits MAX_DIGITS        maximum digits in a result (default: 10)\n" ++
  "  --history-count HISTORY_COUNT  history entries to keep (default: 5)\n" ++
  "  --log-level LEVEL              logging level\n"

/-- What ends a run before it can answer. -/
inductive Failure
  | fault (cause : Fault)
  | withoutValue (flag : Flag)

def Failure.message : Failure → String
  | .fault cause => cause.message
  | .withoutValue flag => s!"No value for {flag.name}"

/-- What a run writes, and its exit code or what ended it. -/
structure Report where
  output : String
  ending : Except Failure Nat

def misuseCode : Nat := 2

/-- A single expression: its value, or what is wrong with it. -/
def evaluateOnce (stack : Stack) (limits : Limits) (expression : Text) : Report :=
  match calculate stack limits expression with
  | .error fault => ⟨"", .error (.fault fault)⟩
  | .ok (.result value) => ⟨String.ofList (Numeral.text value) ++ "\n", .ok 0⟩
  | .ok (.tooLong _) => ⟨Console.errorText limits .digitLimitExceeded ++ "\n", .ok 1⟩
  | .ok (.rejected kind) | .ok (.failed kind _) => ⟨Console.errorText limits kind ++ "\n", .ok 1⟩

/-- A conversation over all lines and interrupts of the input. -/
def converseOver (stack : Stack) (limits : Limits) (input : List (Option Text)) : Report :=
  let (pieces, fault?) := Prompt.converse stack limits {} input
  ⟨Prompt.banner ++ String.join pieces, match fault? with
    | some fault => .error (.fault fault)
    | none => .ok 0⟩

def Plan.run (stack : Stack) (input : List (Option Text)) : Plan → Report
  | .help => ⟨manual, .ok 0⟩
  | .misuse => ⟨"", .ok misuseCode⟩
  | .withoutValue flag => ⟨"", .error (.withoutValue flag)⟩
  | .evaluate limits expression => evaluateOnce stack limits expression
  | .converse limits => converseOver stack limits input

/-- A whole run: environment, arguments and input in, report out. -/
def run (stack : Stack) (env : Environment) (arguments : List Text)
    (input : List (Option Text)) : Report :=
  (plan env arguments).run stack input

/-- What is noted in a run. The environment is read once the arguments and the severity are. -/
def events (stack : Stack) (env : Environment) (arguments : List Text)
    (input : List (Option Text)) : List Event :=
  match request arguments with
  | .help | .misuse => []
  | .options options =>
    if options.severity.isHollow then []
    else
      env.events ++
        match options.plan env with
        | .evaluate limits expression => calculationEvents stack limits expression
        | .converse limits => Prompt.events stack limits {} input
        | .help | .misuse | .withoutValue _ => []

end Reckoner.CommandLine
