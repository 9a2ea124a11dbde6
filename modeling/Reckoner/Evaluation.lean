import Reckoner.Stack
import Reckoner.Token.Lexer

namespace Reckoner

namespace Evaluation

/-- A sum broken off before a term. A term on its own is added to zero. -/
structure PartialSum where
  total : Int := 0
  op : Additive := .plus
  deriving DecidableEq

/-- A product broken off before a factor. A factor on its own is multiplied with one. -/
structure PartialProduct where
  total : Int := 1
  op : Multiplicative := .times
  deriving DecidableEq

/-- What has been read since the last open parenthesis, up to an operand still to come. -/
structure Level where
  sum : PartialSum := {}
  product : PartialProduct := {}
  deriving DecidableEq

def PartialSum.close (sum : PartialSum) (term : Int) : Int :=
  sum.op.combine sum.total term

def PartialProduct.close? (product : PartialProduct) (factor : Int) : Option Int :=
  product.op.combine? product.total factor

/-- The innermost level, with an operand still to come or just read, and the levels around it. -/
inductive State
  | expecting (level : Level) (outer : List Level)
  | holding (sum : PartialSum) (product : Int) (outer : List Level)
  deriving DecidableEq

def State.start : State :=
  .expecting {} []

/-- Where a run enters the grammar; `whole` is an expression that nothing follows. -/
inductive Rule
  | whole
  | expression
  | term
  | factor
  deriving DecidableEq

/-- Whether an operator outside all parentheses belongs to what the rule reads. -/
def Rule.takes : Rule → Operator → Bool
  | .whole, _ | .expression, _ => true
  | .term, .multiplicative _ => true
  | .term, .additive _ | .factor, _ => false

/-- What a token makes of a state: the token is read, or the run stops in front of it, or the run
fails on having read it. -/
inductive Step
  | read (next : State)
  | stop (result : Except Fault Int)
  | fail (fault : Fault)

/-- What is wrong when parentheses nest too deeply. Only the whole expression reports it. -/
def Rule.depthFault : Rule → Fault
  | .whole => .tooDeep
  | .expression | .term | .factor => .overflow

/-- A quotient is taken as soon as its divisor is complete. -/
def supply (level : Level) (outer : List Level) (operand : Int) : Step :=
  match level.product.close? operand with
  | some product => .read (.holding level.sum product outer)
  | none => .fail .divisionByZero

/-- The answer when a complete value is followed by a token that does not belong to it. -/
def Rule.answer (rule : Rule) (value : Int) (token : Token) : Except Fault Int :=
  if rule = .whole ∧ token.terminal ≠ .stop then
    if token.lexeme.isWritable then .error (.trailing token) else .error .unwritable
  else .ok value

/-- `limit` is the number of parentheses that may be open, if it is bounded. -/
def step (rule : Rule) (limit : Option Nat) (token : Token) : State → Step
  | .expecting level outer =>
    match token.terminal with
    | .number value => supply level outer value
    | .opening =>
      if limit.any (· ≤ outer.length) then .fail rule.depthFault
      else .read (.expecting {} (level :: outer))
    | _ => .stop (.error (.operandExpected token))
  | .holding sum product outer =>
    match token.terminal, outer with
    | .operator op, outer =>
      if outer = [] ∧ rule.takes op = false then .stop (rule.answer (sum.close product) token)
      else
        match op with
        | .additive op => .read (.expecting { sum := ⟨sum.close product, op⟩ } outer)
        | .multiplicative op => .read (.expecting { sum, product := ⟨product, op⟩ } outer)
    | .closing, level :: outer => supply level outer (sum.close product)
    | _, [] => .stop (rule.answer (sum.close product) token)
    | _, _ :: _ => .stop (.error (.closingExpected token))

/-- How a run ended, and how many tokens it has read. -/
structure Outcome where
  result : Except Fault Int
  cursor : Nat

def runFrom (rule : Rule) (limit : Option Nat) (state : State) (cursor : Nat) :
    List Token → Outcome
  | [] => ⟨.error .exhausted, cursor⟩
  | token :: rest =>
    match step rule limit token state with
    | .read next => runFrom rule limit next (cursor + 1) rest
    | .stop result => ⟨result, cursor⟩
    | .fail fault => ⟨.error fault, cursor + 1⟩

def run (rule : Rule) (limit : Option Nat) (tokens : List Token) : Outcome :=
  runFrom rule limit .start 0 tokens

/-- A run needs an end mark to stop at, so only tokens with one at their end are accepted. -/
def isTerminated (tokens : List Token) : Bool :=
  tokens.getLast?.any (·.terminal == .stop)

/-- The outcome of a rule on tokens that an end mark closes. -/
def Rule.evaluate (rule : Rule) (stack : Stack) (tokens : List Token) : Except Fault Outcome :=
  if isTerminated tokens then .ok (run rule (some stack.room) tokens)
  else .error .unterminated

end Evaluation

/-- The value of tokens that form one expression up to their end mark. -/
def evaluateTokens (stack : Stack) (tokens : List Token) : Except Fault Int := do
  let outcome ← Evaluation.Rule.evaluate .whole stack tokens
  outcome.result

/-- The value of a text. -/
def evaluate (stack : Stack) (t : Text) : Except Fault Int :=
  if t.isAllBlank then .error .emptyExpression
  else do
    let tokens ← Token.ofText t
    evaluateTokens stack tokens

end Reckoner
