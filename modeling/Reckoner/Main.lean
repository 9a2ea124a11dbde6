import Reckoner.CommandLine

namespace Reckoner.Main

open CommandLine

/-- Events go to standard error if they are severe enough. -/
def report (severity : Severity) (events : List Event) : IO Unit := do
  let shown := events.filter fun event =>
    severity = .debug || (event.isWarning && severity != .error)
  for event in shown do
    IO.eprintln event.message

def die (failure : CommandLine.Failure) : IO UInt32 := do
  IO.eprintln failure.message
  return 1

/-- One answer for each line, until the user leaves or the input ends. -/
partial def converse (severity : Severity) (limits : Limits) (session : Session) : IO UInt32 := do
  let stdin ← IO.getStdin
  let stdout ← IO.getStdout
  stdout.putStr Prompt.mark
  stdout.flush
  let line ← stdin.getLine
  if line.isEmpty then
    stdout.putStr Prompt.farewell
    return 0
  let input := some ((line.toList.reverse.dropWhile (· == '\n')).reverse)
  report severity (Prompt.events .shallow limits session [input])
  let (output, next) := Prompt.respond .shallow limits session input
  stdout.putStr output
  match next with
  | .proceed after => converse severity limits after
  | .leave => return 0
  | .fail fault => die (.fault fault)

def environment : IO Environment := do
  let maxDigits ← IO.getEnv Setting.maxDigits.variable
  let historyCount ← IO.getEnv Setting.historyCount.variable
  return fun name =>
    if name = Setting.maxDigits.variable then maxDigits.map (·.toList)
    else if name = Setting.historyCount.variable then historyCount.map (·.toList)
    else none

def start (arguments : List String) : IO UInt32 := do
  let env ← environment
  let arguments := arguments.map (·.toList)
  let severity := match request arguments with
    | .options options => options.severity.value?.getD .warning
    | _ => .warning
  match plan env arguments with
  | .converse limits =>
    report severity env.events
    IO.print Prompt.banner
    converse severity limits {}
  | other =>
    report severity (events .shallow env arguments [])
    let result := other.run .shallow []
    IO.print result.output
    match result.ending with
    | .ok code =>
      if code = misuseCode then IO.eprint usageText
      return code.toUInt32
    | .error failure => die failure

end Reckoner.Main

def main (arguments : List String) : IO UInt32 :=
  Reckoner.Main.start arguments
