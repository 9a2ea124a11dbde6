import Reckoner.ErrorKind
import Reckoner.Token

namespace Reckoner

/-- What can go wrong between a text and its value. A fault with a kind is reported to the user; the
others end the operation that meets them. -/
inductive Fault
  | emptyExpression
  | foreignCharacter (char : Char) (pos : Nat)
  | unterminated
  | operandExpected (found : Token)
  | closingExpected (found : Token)
  | trailing (found : Token)
  | tooDeep
  /-- The stack gave out inside a rule that does not report it. -/
  | overflow
  | divisionByZero
  /-- A number is needed as text and has too many digits. -/
  | unwritable
  /-- The tokens ended before the grammar did. -/
  | exhausted
  deriving DecidableEq

namespace Fault

def kind? : Fault → Option ErrorKind
  | emptyExpression => some .emptyExpression
  | foreignCharacter _ _ => some .invalidCharacter
  | unterminated | operandExpected _ | trailing _ | tooDeep => some .malformedExpression
  | closingExpected _ => some .unmatchedParenthesis
  | divisionByZero => some .divisionByZero
  | overflow | unwritable | exhausted => none

/-- The message about a text that should have been a character of the alphabet. -/
def invalidCharacterMessage (text : Text) (pos : Int) : String :=
  s!"Invalid character {text.quoted} at position {pos}"

/-- The message about a token that is no operand. -/
def operandMessage (className : String) (pos : Int) : String :=
  s!"Expected number or '(' at position {pos}, got {className}"

/-- The message about a token that should close a parenthesis. -/
def closingMessage (pos : Int) : String :=
  s!"Expected ')' at position {pos}"

/-- The message about a token behind a complete expression. -/
def trailingMessage (shown : String) (pos : Int) : String :=
  s!"Unexpected token {shown} at position {pos}"

def message : Fault → String
  | emptyExpression => ErrorKind.message .emptyExpression none
  | foreignCharacter char pos => invalidCharacterMessage [char] pos
  | unterminated => "Token sequence must end with END"
  | operandExpected found => operandMessage found.lexeme.className found.pos
  | closingExpected found => closingMessage found.pos
  | trailing found => trailingMessage found.lexeme.shown found.pos
  | tooDeep => "Parentheses nested too deeply"
  | overflow => "The stack gave out"
  | divisionByZero => ErrorKind.message .divisionByZero none
  | unwritable => s!"Numbers of more than {Numeral.pieceLimit} digits cannot be written"
  | exhausted => "Token sequence ended too early"

end Fault

end Reckoner
