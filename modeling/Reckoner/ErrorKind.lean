namespace Reckoner

inductive ErrorKind
  | invalidCharacter
  | divisionByZero
  | malformedExpression
  | unmatchedParenthesis
  | unbalancedParentheses
  | leadingOperator
  | trailingOperator
  | consecutiveOperators
  | emptyParentheses
  | emptyExpression
  | digitLimitExceeded
  deriving DecidableEq

namespace ErrorKind

def all : List ErrorKind :=
  [invalidCharacter, divisionByZero, malformedExpression, unmatchedParenthesis,
    unbalancedParentheses, leadingOperator, trailingOperator, consecutiveOperators,
    emptyParentheses, emptyExpression, digitLimitExceeded]

def name : ErrorKind → String
  | invalidCharacter => "invalid_character"
  | divisionByZero => "division_by_zero"
  | malformedExpression => "malformed_expression"
  | unmatchedParenthesis => "unmatched_parenthesis"
  | unbalancedParentheses => "unbalanced_parentheses"
  | leadingOperator => "leading_operator"
  | trailingOperator => "trailing_operator"
  | consecutiveOperators => "consecutive_operators"
  | emptyParentheses => "empty_parentheses"
  | emptyExpression => "empty_expression"
  | digitLimitExceeded => "digit_limit_exceeded"

def ofName? (name : String) : Option ErrorKind :=
  all.find? (·.name == name)

/-- The sentence shown when nothing more precise is known. -/
def summary : ErrorKind → String
  | invalidCharacter => "Invalid character"
  | divisionByZero => "Division by zero"
  | malformedExpression => "Malformed expression"
  | unmatchedParenthesis => "Missing closing parenthesis"
  | unbalancedParentheses => "Unbalanced parentheses"
  | leadingOperator => "Expression starts with an operator"
  | trailingOperator => "Expression ends with an operator"
  | consecutiveOperators => "Consecutive operators"
  | emptyParentheses => "Empty parentheses"
  | emptyExpression => "Expression is empty"
  | digitLimitExceeded => "Result exceeds the digit limit"

/-- The message of an error: the one that it comes with, unless there is none or an empty one. -/
def message (kind : ErrorKind) (given : Option String) : String :=
  (given.filter (!·.isEmpty)).getD kind.summary

/-- An error that leaves nothing worth editing takes the expression away with it. -/
def discardsExpression : ErrorKind → Bool
  | divisionByZero | digitLimitExceeded => true
  | _ => false

theorem mem_all (kind : ErrorKind) : kind ∈ all := by
  cases kind <;> decide

end ErrorKind

end Reckoner
