import Reckoner.Fault
import Reckoner.Token

namespace Reckoner

/-- What a token may hold that does not come from the lexer. -/
inductive Content
  | nothing
  | integer (value : Int)
  | text (t : Text)
  | list (items : List Text)
  deriving DecidableEq

inductive TokenClass
  | number
  | operator
  | opening
  | closing
  | stop
  | other (name : String)
  deriving DecidableEq

def TokenClass.name : TokenClass → String
  | number => "NUMBER"
  | operator => "OPERATOR"
  | opening => "LPAREN"
  | closing => "RPAREN"
  | stop => "END"
  | other name => name

/-- A token that a caller has made: whatever its class, it may hold anything. -/
structure GivenToken where
  kind : TokenClass
  content : Content := .nothing
  pos : Int := 0
  deriving DecidableEq

/-- How reading given tokens fails. -/
inductive Failure
  /-- An error of a kind, reported by its message. -/
  | reported (kind : ErrorKind) (message : String)
  /-- The stack gave out. -/
  | overflow
  /-- The tokens ended before the grammar did. -/
  | exhausted
  /-- An integer is needed as text and has too many digits. -/
  | unwritable
  /-- A list cannot be looked up among the operators. -/
  | unhashable
  /-- The operator does not join contents of these types. -/
  | mistyped (op : Operator) (left right : Content)
  /-- A text or a list would hold too many items. -/
  | oversized
  deriving DecidableEq

/-- What is wrong with a text, or with the tokens that the lexer makes of it. -/
def Failure.ofFault (fault : Fault) : Failure :=
  match fault.kind?, fault with
  | some kind, _ => .reported kind fault.message
  | none, .overflow => .overflow
  | none, .exhausted => .exhausted
  | none, _ => .unwritable

/-- A failure as the whole expression reports it: the stack gives out in parentheses only. -/
def Failure.reportingDepth : Failure → Failure
  | overflow => .ofFault .tooDeep
  | failure => failure

namespace Content

/-- Whether the content can be written out, which only a long integer prevents. -/
def isWritable : Content → Bool
  | integer value => Numeral.isWritable value
  | nothing | text _ | list _ => true

/-- The content as messages show it. -/
def shown : Content → String
  | nothing => Lexeme.noText
  | integer value => String.ofList (Numeral.text value)
  | text t => t.quoted
  | list items => "[" ++ ", ".intercalate (items.map Text.quoted) ++ "]"

/-- The operator that the content is the canonical glyph of, if it is one. -/
def operator? : Content → Except Failure (Option Operator)
  | text t => .ok (Operator.ofCanonical? t)
  | list _ => .error .unhashable
  | nothing | integer _ => .ok none

/-- As many items as a text or a list cannot hold, and as many times as it cannot be repeated. -/
def capacity : Nat := Nat.pow 2 63

def joined {α : Type} (left right : List α) : Except Failure (List α) :=
  if left.length + right.length < capacity then .ok (left ++ right) else .error .oversized

/-- A number of times below zero counts as none. -/
def repeated {α : Type} (items : List α) (times : Int) : Except Failure (List α) :=
  if -capacity ≤ times ∧ times < capacity ∧ items.length * times.toNat < capacity then
    .ok (List.replicate times.toNat items).flatten
  else .error .oversized

/-- Integers are calculated with. Texts and lists can be put together and repeated, and dividing by
zero is dividing by zero whatever is divided. -/
def combine (op : Operator) (left right : Content) : Except Failure Content :=
  match op, left, right with
  | op, integer left, integer right =>
    match op.combine? left right with
    | some value => .ok (integer value)
    | none => .error (.ofFault .divisionByZero)
  | .additive .plus, text left, text right => return text (← joined left right)
  | .additive .plus, list left, list right => return list (← joined left right)
  | .multiplicative .times, text t, integer times
  | .multiplicative .times, integer times, text t => return text (← repeated t times)
  | .multiplicative .times, list items, integer times
  | .multiplicative .times, integer times, list items => return list (← repeated items times)
  | .multiplicative .dividedBy, _, integer 0 => .error (.ofFault .divisionByZero)
  | op, left, right => .error (.mistyped op left right)

end Content

namespace GivenToken

/-- The failure to find an operand or an opening parenthesis. -/
def operandExpected (token : GivenToken) : Failure :=
  if Numeral.isWritable token.pos then
    .reported .malformedExpression (Fault.operandMessage token.kind.name token.pos)
  else .unwritable

/-- The failure to find the closing parenthesis. -/
def closingExpected (token : GivenToken) : Failure :=
  if Numeral.isWritable token.pos then
    .reported .unmatchedParenthesis (Fault.closingMessage token.pos)
  else .unwritable

/-- The failure of a complete expression to be the last. -/
def trailing (token : GivenToken) : Failure :=
  if token.content.isWritable && Numeral.isWritable token.pos then
    .reported .malformedExpression (Fault.trailingMessage token.content.shown token.pos)
  else .unwritable

/-- A token with its class, content and place, if they can be written out. -/
def shown? (token : GivenToken) : Option String :=
  if token.content.isWritable && Numeral.isWritable token.pos then
    some s!"Token({token.kind.name}, {token.content.shown}, pos={token.pos})"
  else none

end GivenToken

/-- A token of the lexer as a given one. -/
def Lexeme.kind : Lexeme → TokenClass
  | number _ => .number
  | operator _ => .operator
  | opening _ => .opening
  | closing _ => .closing
  | stop _ => .stop
  | other name _ => .other name

def Lexeme.content : Lexeme → Content
  | number value => .integer value
  | operator text | opening text | closing text | stop text | other _ text =>
    text.elim .nothing .text

/-- A token that the lexer could have made, like any that a caller might have made. -/
def Token.given (token : Token) : GivenToken :=
  ⟨token.lexeme.kind, token.lexeme.content, token.pos⟩

end Reckoner
