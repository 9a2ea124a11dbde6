import Reckoner.Console

namespace Reckoner.Prompt

def banner : String :=
  "Integer calculator. Type :help for help. Ctrl-D or :exit to quit.\n"

def mark : String := "> "

def farewell : String := "Exiting.\n"

/-- How the conversation goes on. -/
inductive Next
  | proceed (session : Session)
  | leave
  | fail (fault : Fault)
  deriving DecidableEq

/-- What the prompt makes of one line, or of an interrupt where there is none: the text written
after the prompt, and how the conversation goes on. -/
def respond (stack : Stack) (limits : Limits) (session : Session) : Option Text → String × Next
  | none => ("^C\n", .proceed session)
  | some line =>
    if line.isAllBlank then ("", .proceed session)
    else
      match Console.enter stack limits session line with
      | (after, .ok reply) => (reply.output ++ "\n", .proceed after)
      | (_, .error .quit) => (farewell, .leave)
      | (_, .error (.fault fault)) => ("", .fail fault)

/-- All that a conversation writes after the banner, and the fault that ended it, if one did. -/
def converse (stack : Stack) (limits : Limits) (session : Session) :
    List (Option Text) → List String × Option Fault
  | [] => ([mark ++ farewell], none)
  | input :: rest =>
    match respond stack limits session input with
    | (output, .proceed after) =>
      let (later, fault?) := converse stack limits after rest
      ((mark ++ output) :: later, fault?)
    | (output, .leave) => ([mark ++ output], none)
    | (output, .fail fault) => ([mark ++ output], some fault)

/-- What is noted in a conversation. -/
def events (stack : Stack) (limits : Limits) (session : Session) : List (Option Text) → List Event
  | [] => []
  | input :: rest =>
    (input.toList.flatMap (Console.events stack limits session)) ++
      match respond stack limits session input with
      | (_, .proceed after) => events stack limits after rest
      | (_, _) => []

end Reckoner.Prompt
