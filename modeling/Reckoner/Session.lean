import Reckoner.Calculation
import Reckoner.Display
import Reckoner.Keystroke

namespace Reckoner

structure Entry where
  expression : Text
  result : Int
  deriving DecidableEq

/-- The history is kept newest first. -/
structure Session where
  expression : Text := []
  result : Option Int := none
  error : Option ErrorKind := none
  history : List Entry := []
  deriving DecidableEq

/-- What can be done at the keypad. -/
inductive Action
  | press (symbol : Text)
  | equals
  | clear
  | delete
  | forget
  deriving DecidableEq

/-- The symbol that a key of the keyboard stands for. -/
def keySymbol? (key : Char) : Option Char :=
  if key.isDigit then some key
  else
    match key with
    | '+' | '-' | '(' | ')' => some key
    | '*' => some '×'
    | '/' => some '÷'
    | _ => none

/-- What a key of the keyboard does, if it does anything. -/
def Action.ofKey? (key : Text) : Option Action :=
  match key with
  | [c] => if c = '=' then some .equals else (keySymbol? c).map fun symbol => .press [symbol]
  | _ =>
    match String.ofList key with
    | "Enter" => some .equals
    | "Escape" => some .clear
    | "Backspace" => some .delete
    | _ => none

namespace Session

/-- One symbol. A result on show is written out first; an operator continues from it, and a digit
or an opening parenthesis begins anew. -/
def press (session : Session) (symbol : Text) : Except Fault Session :=
  match session.result with
  | none =>
    .ok { session with
      expression :=
        if accepts session.expression symbol then session.expression ++ symbol
        else session.expression
      error := none }
  | some result =>
    match Numeral.text? result with
    | none => .error .unwritable
    | some carried =>
      if accepts [] symbol then
        .ok { session with expression := symbol, result := none, error := none }
      else if accepts carried symbol then
        .ok { session with expression := carried ++ symbol, result := none, error := none }
      else .ok { session with error := none }

/-- An error takes the place of the result. -/
def showError (session : Session) (kind : ErrorKind) : Session :=
  { session with
    expression := if kind.discardsExpression then [] else session.expression
    result := none
    error := some kind }

/-- A result is shown and remembered with the expression as it is displayed. -/
def showResult (limits : Limits) (session : Session) (value : Int) : Session :=
  { session with
    result := some value
    error := none
    history := (⟨display session.expression, value⟩ :: session.history).take limits.historyCount }

/-- Evaluation; an empty expression is left alone. -/
def equals (stack : Stack) (limits : Limits) (session : Session) : Except Fault Session :=
  if session.expression.isEmpty then .ok session
  else do
    match ← calculate stack limits session.expression with
    | .result value => return session.showResult limits value
    | .rejected kind | .failed kind _ => return session.showError kind
    | .tooLong _ => return session.showError .digitLimitExceeded

def clear (session : Session) : Session :=
  { history := session.history }

/-- Takes a result off the display, or else the last character off the expression. -/
def delete (session : Session) : Session :=
  if session.result.isSome then { session with result := none, error := none }
  else { session with expression := session.expression.dropLast, error := none }

def forget (session : Session) : Session :=
  { session with history := [] }

def perform (stack : Stack) (limits : Limits) (session : Session) :
    Action → Except Fault Session
  | .press symbol => session.press symbol
  | .equals => session.equals stack limits
  | .clear => .ok session.clear
  | .delete => .ok session.delete
  | .forget => .ok session.forget

/-- A key of the keyboard; a key without an action changes nothing. -/
def pressKey (stack : Stack) (limits : Limits) (session : Session) (key : Text) :
    Except Fault Session :=
  match Action.ofKey? key with
  | some action => session.perform stack limits action
  | none => .ok session

/-- Actions in order, up to the first that fails; the session is the one it failed on. -/
def performAll (stack : Stack) (limits : Limits) (session : Session) :
    List Action → Session × Option Fault
  | [] => (session, none)
  | action :: rest =>
    match session.perform stack limits action with
    | .ok next => performAll stack limits next rest
    | .error fault => (session, some fault)

/-- What is noted when a symbol is dropped. -/
def pressEvents (session : Session) (symbol : Text) : List Event :=
  match session.result with
  | none =>
    if accepts session.expression symbol then []
    else [⟨.session, s!"Rejected {symbol.quoted} after {session.expression.quoted}"⟩]
  | some result =>
    match Numeral.text? result with
    | none => []
    | some carried =>
      if accepts [] symbol || accepts carried symbol then []
      else [⟨.session, s!"Rejected {symbol.quoted} after result {String.ofList carried}"⟩]

/-- What is noted while an action is performed. -/
def events (stack : Stack) (limits : Limits) (session : Session) : Action → List Event
  | .press symbol => session.pressEvents symbol
  | .equals =>
    if session.expression.isEmpty then [] else calculationEvents stack limits session.expression
  | .clear | .delete | .forget => []

def allEvents (stack : Stack) (limits : Limits) (session : Session) : List Action → List Event
  | [] => []
  | action :: rest =>
    session.events stack limits action ++
      match session.perform stack limits action with
      | .ok next => allEvents stack limits next rest
      | .error _ => []

end Session

end Reckoner
