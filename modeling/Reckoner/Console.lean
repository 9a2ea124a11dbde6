import Reckoner.Session
import Reckoner.Text.LetterCase

namespace Reckoner

inductive Command
  | help
  | clear
  | delete
  | history
  | forget
  | quit
  | unknown (name : String)
  deriving DecidableEq

def Command.ofName (name : String) : Command :=
  match name with
  | "help" => .help
  | "clear" => .clear
  | "del" => .delete
  | "history" => .history
  | "clearhistory" => .forget
  | "exit" | "quit" => .quit
  | _ => .unknown name

/-- The command on a line, if the line holds one. Capitals and white space make no difference. -/
def Command.ofLine? (line : Text) : Option Command :=
  match line.trim with
  | ':' :: name => some (.ofName (String.ofList (Text.lower (Text.trim name))))
  | _ => none

namespace Console

def guide : String :=
  "Integer calculator help:\n" ++
  "Type digits, + - * / (or × ÷) and parentheses; '=' evaluates.\n" ++
  "Division floors toward negative infinity (7/2 = 3).\n" ++
  "Symbols that cannot follow the current input are ignored.\n" ++
  "Commands:\n" ++
  "  :help                  show help\n" ++
  "  :clear                 clear the current expression\n" ++
  "  :del                   delete the last character\n" ++
  "  :history               show recent results\n" ++
  "  :clearhistory          forget all history\n" ++
  "  :exit                  exit\n"

/-- What is shown for an error. -/
def errorText (limits : Limits) (kind : ErrorKind) : String :=
  if kind = .digitLimitExceeded then
    s!"Error: {kind.summary} ({limits.maxDigits} digits)"
  else s!"Error: {kind.summary}"

/-- An answer to a line, and whether it is free of errors. -/
structure Reply where
  ok : Bool
  output : String
  deriving DecidableEq

/-- What the session shows: an error first, then a result, then the expression. -/
def shown (limits : Limits) (session : Session) : Except Fault Reply :=
  match session.error, session.result with
  | some kind, _ => .ok ⟨false, errorText limits kind⟩
  | none, some value =>
    match Numeral.text? value with
    | some text => .ok ⟨true, String.ofList text⟩
    | none => .error .unwritable
  | none, none => .ok ⟨true, String.ofList (display session.expression)⟩

def entryText (entry : Entry) : Except Fault String :=
  match Numeral.text? entry.result with
  | some text => .ok s!"{String.ofList entry.expression} = {String.ofList text}"
  | none => .error .unwritable

def historyText (history : List Entry) : Except Fault String :=
  if history.isEmpty then .ok "(no history)"
  else do
    let lines ← history.mapM entryText
    return "\n".intercalate lines

/-- Why a line has no answer: it asks to leave, or an operation ended with a fault. -/
inductive Interruption
  | quit
  | fault (fault : Fault)
  deriving DecidableEq

def orFault (reply : Except Fault Reply) : Except Interruption Reply :=
  reply.mapError .fault

/-- A command is answered without an error, whatever the session shows. -/
def runCommand (limits : Limits) (session : Session) :
    Command → Session × Except Interruption Reply
  | .help => (session, .ok ⟨true, guide⟩)
  | .clear => (session.clear, .ok ⟨true, "(cleared)"⟩)
  | .delete =>
    (session.delete, orFault ((shown limits session.delete).map fun reply => ⟨true, reply.output⟩))
  | .history => (session, orFault ((historyText session.history).map fun text => ⟨true, text⟩))
  | .forget => (session.forget, .ok ⟨true, "(history cleared)"⟩)
  | .quit => (session, .error .quit)
  | .unknown name => (session, .ok ⟨true, s!"Unknown command: {name}"⟩)

/-- The characters that a line may be made of, besides white space. -/
def isTypable (c : Char) : Bool :=
  (keySymbol? c).isSome || c == '×' || c == '÷' || c == '='

/-- What a character of a line does; a display glyph is pressed as it is. -/
def actionOf (c : Char) : Action :=
  if c = '=' then .equals else .press [(keySymbol? c).getD c]

def foreign? (line : Text) : Option Char :=
  line.withoutBlanks.find? (!isTypable ·)

def actions (line : Text) : List Action :=
  line.withoutBlanks.map actionOf

/-- The answer to a line, and the session after it. -/
def enter (stack : Stack) (limits : Limits) (session : Session) (line : Text) :
    Session × Except Interruption Reply :=
  match Command.ofLine? line with
  | some command => runCommand limits session command
  | none =>
    match foreign? line with
    | some c =>
      let output := s!"Error: {ErrorKind.invalidCharacter.summary} {Text.quoted [c]}"
      (session, .ok ⟨false, output⟩)
    | none =>
      match session.performAll stack limits (actions line) with
      | (after, none) => (after, orFault (shown limits after))
      | (after, some fault) => (after, .error (.fault fault))

/-- What is noted while a line is answered. -/
def events (stack : Stack) (limits : Limits) (session : Session) (line : Text) : List Event :=
  match Command.ofLine? line, foreign? line with
  | none, none => session.allEvents stack limits (actions line)
  | _, _ => []

end Console

end Reckoner
