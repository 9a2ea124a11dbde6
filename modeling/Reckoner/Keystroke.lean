import Reckoner.Operator
import Reckoner.Text.Blank

namespace Reckoner

/-- Only a single character is ever a digit. -/
def isDigitSymbol : Text → Bool
  | [c] => c.isDigit
  | _ => false

/-- Only a single character is ever an operator. -/
def isOperatorSymbol : Text → Bool
  | [c] => isOperator c
  | _ => false

/-- An operand may end with this character. -/
def endsOperand (c : Char) : Bool :=
  c.isDigit || c = ')'

/-- An operand is still to come after this character. -/
def awaitsOperand (c : Char) : Bool :=
  isOperator c || c = '('

/-- Whether a character may follow a text without blanks. -/
def mayFollow (typed : Text) (c : Char) : Bool :=
  if c.isDigit then true
  else if isOperator c then typed.getLast?.any endsOperand
  else if c = '(' then typed.getLast?.all awaitsOperand
  else if c = ')' then
    decide (typed.count ')' < typed.count '(') && typed.getLast?.any endsOperand
  else false

/-- Whether a symbol may be appended to an expression. Only single characters ever may. -/
def accepts (current symbol : Text) : Bool :=
  match symbol with
  | [c] => mayFollow current.withoutBlanks c
  | _ => false

/-- What may be appended is told by the class of the symbol. -/
theorem accepts_eq (current symbol : Text) :
    accepts current symbol =
      let typed := current.withoutBlanks
      if isDigitSymbol symbol then true
      else if isOperatorSymbol symbol then typed.getLast?.any endsOperand
      else if symbol = ['('] then typed.getLast?.all awaitsOperand
      else if symbol = [')'] then
        decide (typed.count ')' < typed.count '(') && typed.getLast?.any endsOperand
      else false := by
  match symbol with
  | [] => simp [accepts, isDigitSymbol, isOperatorSymbol]
  | [c] => simp [accepts, mayFollow, isDigitSymbol, isOperatorSymbol]
  | _ :: _ :: _ => simp [accepts, isDigitSymbol, isOperatorSymbol]

end Reckoner
