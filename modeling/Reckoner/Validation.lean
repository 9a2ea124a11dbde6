import Reckoner.ErrorKind
import Reckoner.Operator
import Reckoner.Text.Blank

namespace Reckoner

/-- A text without blanks, its operators under their canonical glyphs. -/
def Text.canonical (t : Text) : Text :=
  t.withoutBlanks.map canonicalGlyph

/-- The number of parentheses left open, unless one is closed that was not open. -/
def finalDepth? (depth : Nat) : Text → Option Nat
  | [] => some depth
  | c :: rest =>
    if c = '(' then finalDepth? (depth + 1) rest
    else if c = ')' then
      match depth with
      | 0 => none
      | depth + 1 => finalDepth? depth rest
    else finalDepth? depth rest

def isBalanced (t : Text) : Bool :=
  finalDepth? 0 t == some 0

/-- Characters that stand next to each other. -/
def neighbours (t : Text) : List (Char × Char) :=
  t.zip t.tail

/-- The first flaw of a canonical text. -/
def flaw? (t : Text) : Option ErrorKind :=
  if !isBalanced t then some .unbalancedParentheses
  else if t.head?.any isOperator then some .leadingOperator
  else if (neighbours t).any fun (a, b) => isOperator a && isOperator b then
    some .consecutiveOperators
  else if t.getLast?.any isOperator then some .trailingOperator
  else if (neighbours t).contains ('(', ')') then some .emptyParentheses
  else if t.isEmpty then some .emptyExpression
  else none

/-- The flaw of an expression, if it has one. An operator after an opening parenthesis is none:
that is left to the grammar. -/
def validate (t : Text) : Option ErrorKind :=
  flaw? t.canonical

end Reckoner
