namespace Reckoner

inductive Additive
  | plus
  | minus
  deriving DecidableEq

inductive Multiplicative
  | times
  | dividedBy
  deriving DecidableEq

inductive Operator
  | additive (op : Additive)
  | multiplicative (op : Multiplicative)
  deriving DecidableEq

/-- The greatest integer not above the exact quotient; there is none by zero. -/
def quotient? (left right : Int) : Option Int :=
  if right = 0 then none else some (left.fdiv right)

def Additive.combine : Additive → Int → Int → Int
  | plus, left, right => left + right
  | minus, left, right => left - right

def Multiplicative.combine? : Multiplicative → Int → Int → Option Int
  | times, left, right => some (left * right)
  | dividedBy, left, right => quotient? left right

namespace Operator

def combine? : Operator → Int → Int → Option Int
  | additive op, left, right => some (op.combine left right)
  | multiplicative op, left, right => op.combine? left right

def ofGlyph? : Char → Option Operator
  | '+' => some (additive .plus)
  | '-' => some (additive .minus)
  | '*' | '×' => some (multiplicative .times)
  | '/' | '÷' => some (multiplicative .dividedBy)
  | _ => none

/-- The canonical glyph. -/
def glyph : Operator → Char
  | additive .plus => '+'
  | additive .minus => '-'
  | multiplicative .times => '*'
  | multiplicative .dividedBy => '/'

/-- The operator that a text names by its canonical glyph. -/
def ofCanonical? : List Char → Option Operator
  | ['+'] => some (additive .plus)
  | ['-'] => some (additive .minus)
  | ['*'] => some (multiplicative .times)
  | ['/'] => some (multiplicative .dividedBy)
  | _ => none

theorem ofGlyph?_glyph (op : Operator) : ofGlyph? op.glyph = some op := by
  rcases op with (_ | _) | (_ | _) <;> rfl

theorem ofCanonical?_glyph (op : Operator) : ofCanonical? [op.glyph] = some op := by
  rcases op with (_ | _) | (_ | _) <;> rfl

end Operator

/-- Whether a character is an operator, in either glyph. -/
def isOperator (c : Char) : Bool :=
  (Operator.ofGlyph? c).isSome

def canonicalGlyph : Char → Char
  | '×' => '*'
  | '÷' => '/'
  | c => c

def displayGlyph : Char → Char
  | '*' => '×'
  | '/' => '÷'
  | c => c

theorem canonicalGlyph_displayGlyph (c : Char) :
    canonicalGlyph (displayGlyph c) = canonicalGlyph c := by
  fun_cases displayGlyph c <;> rfl

theorem ofGlyph?_canonicalGlyph (c : Char) :
    Operator.ofGlyph? (canonicalGlyph c) = Operator.ofGlyph? c := by
  fun_cases canonicalGlyph c <;> rfl

end Reckoner
