import Reckoner.Token

namespace Reckoner

/-- Why tokens cannot be written: a number is too long, or an operator shown by its display glyph
has no text. The index counts the tokens in front of it. -/
inductive RenderingFault
  | unwritable
  | missingText (index : Nat)
  deriving DecidableEq

namespace Lexeme

/-- The text of a lexeme, plain or for display; an operator without text has none to display. -/
def rendered (display : Bool) : Lexeme → Option Text
  | number value => some (Numeral.text value)
  | operator text =>
    if display then
      text.map fun t => match t with
        | ['*'] => ['×']
        | ['/'] => ['÷']
        | t => t
    else some (text.getD noText.toList)
  | opening text | closing text | stop text | other _ text => some (text.getD noText.toList)

end Lexeme

namespace Token

/-- The tokens before the first end mark. -/
def beforeStop (tokens : List Token) : List Token :=
  tokens.takeWhile fun token => token.terminal != .stop

/-- The text of the tokens before the first end mark. A number that is too long wins over an
operator without text, wherever the two stand. -/
def render (display : Bool) (tokens : List Token) : Except RenderingFault Text :=
  let lexemes := (beforeStop tokens).map (·.lexeme)
  if !lexemes.all (·.isWritable) then .error .unwritable
  else
    match lexemes.findIdx? fun lexeme => (lexeme.rendered display).isNone with
    | some index => .error (.missingText index)
    | none => .ok (lexemes.filterMap (·.rendered display)).flatten

end Token

end Reckoner
