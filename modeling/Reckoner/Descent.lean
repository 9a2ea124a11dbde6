import Reckoner.Evaluation
import Reckoner.Token.Given

namespace Reckoner

/-- Tokens that end with an end mark; a parser accepts no others. -/
structure Sequence where
  tokens : List GivenToken
  terminated : tokens.getLast?.map (·.kind) = some .stop

def Sequence.ofTokens? (tokens : List GivenToken) : Except Failure Sequence :=
  if terminated : tokens.getLast?.map (·.kind) = some .stop then .ok ⟨tokens, terminated⟩
  else .error (.ofFault .unterminated)

namespace Descent

/-- A parser moves a cursor and comes to a result or to a failure, if it ever ends. -/
abbrev Parser (α : Type) : Type :=
  ExceptT Failure (StateT Nat Option) α

/-- A sum joins products by additive operators, and a product joins factors by the others. -/
inductive Tier
  | sum
  | product
  deriving DecidableEq

def Tier.takes : Tier → Operator → Bool
  | sum, .additive _ | product, .multiplicative _ => true
  | sum, .multiplicative _ | product, .additive _ => false

/-- The operator of a tier that a token is, if it is one. Only what an operator token holds is
looked up. -/
def operator? (tier : Tier) (token : GivenToken) : Except Failure (Option Operator) :=
  if token.kind = .operator then return (← token.content.operator?).filter tier.takes
  else .ok none

/-- The token at the cursor. -/
def current (tokens : List GivenToken) : Parser GivenToken := do
  match tokens[← get]? with
  | some token => return token
  | none => throw .exhausted

/-- The token at the cursor, which is moved behind it. -/
def advance (tokens : List GivenToken) : Parser GivenToken := do
  let token ← current tokens
  modify (· + 1)
  return token

mutual

/-- Operands of a tier of the tokens `t`, joined from the left. The stack has room for so many levels
of parentheses further in. -/
def chain (tier : Tier) (room : Nat) (t : List GivenToken) : Parser Content := do
  let first ← (operand (t := t)) tier room
  (fold (t := t)) tier room first
partial_fixpoint

/-- What has been joined so far, with all that follows joined to it. -/
def fold (tier : Tier) (room : Nat) (left : Content) (t : List GivenToken) : Parser Content := do
  match ← operator? tier (← current t) with
  | none => return left
  | some op =>
    let _ ← advance t
    let right ← (operand (t := t)) tier room
    let joined ← Content.combine op left right
    (fold (t := t)) tier room joined
partial_fixpoint

def operand (tier : Tier) (room : Nat) (t : List GivenToken) : Parser Content :=
  match tier with
  | .sum => (chain (t := t)) .product room
  | .product => (factor (t := t)) room
partial_fixpoint

def factor (room : Nat) (t : List GivenToken) : Parser Content := do
  let token ← current t
  match token.kind with
  | .number =>
    let _ ← advance t
    return token.content
  | .opening =>
    let _ ← advance t
    match room with
    | 0 => throw .overflow
    | room + 1 =>
      let value ← (chain (t := t)) .sum room
      let closing ← current t
      if closing.kind = .closing then
        let _ ← advance t
        return value
      else throw closing.closingExpected
  | _ => throw token.operandExpected
partial_fixpoint

end

/-- An expression that nothing follows. Only here a stack that gives out is reported. -/
def whole (room : Nat) (tokens : List GivenToken) : Parser Content := do
  let value ← tryCatch (chain .sum room tokens) fun failure => throw failure.reportingDepth
  let token ← current tokens
  if token.kind = .stop then return value else throw token.trailing

def parser (room : Nat) (tokens : List GivenToken) : Evaluation.Rule → Parser Content
  | .whole => whole room tokens
  | .expression => chain .sum room tokens
  | .term => chain .product room tokens
  | .factor => factor room tokens

end Descent

/-- The value of a rule at the beginning of a sequence, or how reading it fails, and the cursor
then; nothing if the reading never ends. -/
def Evaluation.Rule.descend (rule : Evaluation.Rule) (stack : Stack) (sequence : Sequence) :
    Option (Except Failure Content × Nat) :=
  Descent.parser stack.room sequence.tokens rule 0

/-- The same for any tokens, if an end mark closes them. -/
def Evaluation.Rule.descendAll (rule : Evaluation.Rule) (stack : Stack) (tokens : List GivenToken) :
    Except Failure (Option (Except Failure Content × Nat)) := do
  return rule.descend stack (← Sequence.ofTokens? tokens)

end Reckoner
