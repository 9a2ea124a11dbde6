import Reckoner.Operator
import Reckoner.Text.Quoted
import Reckoner.Numeral

namespace Reckoner

inductive Lexeme
  | number (value : Int)
  | operator (text : Option Text)
  | opening (text : Option Text)
  | closing (text : Option Text)
  | stop (text : Option Text)
  | other (name : String) (text : Option Text)
  deriving DecidableEq

/-- A lexeme with its place in the text without blanks. -/
structure Token where
  lexeme : Lexeme
  pos : Int
  deriving DecidableEq

/-- What the grammar tells apart. -/
inductive Terminal
  | number (value : Int)
  | operator (op : Operator)
  | opening
  | closing
  | stop
  | foreign
  deriving DecidableEq

namespace Lexeme

/-- An operator counts as one only under its canonical glyph. -/
def terminal : Lexeme → Terminal
  | number value => .number value
  | operator text =>
    match text.bind Operator.ofCanonical? with
    | some op => .operator op
    | none => .foreign
  | opening _ => .opening
  | closing _ => .closing
  | stop _ => .stop
  | other _ _ => .foreign

def className : Lexeme → String
  | number _ => "NUMBER"
  | operator _ => "OPERATOR"
  | opening _ => "LPAREN"
  | closing _ => "RPAREN"
  | stop _ => "END"
  | other name _ => name

/-- The text of a lexeme that has none. -/
def noText : String := "None"

/-- Whether the content can be written out, which only a long number prevents. -/
def isWritable : Lexeme → Bool
  | number value => Numeral.isWritable value
  | _ => true

/-- The content as messages show it: numbers in digits, texts in quotation marks. -/
def shown : Lexeme → String
  | number value => String.ofList (Numeral.text value)
  | operator text | opening text | closing text | stop text | other _ text =>
    (text.map Text.quoted).getD noText

end Lexeme

namespace Token

def terminal (token : Token) : Terminal :=
  token.lexeme.terminal

end Token

end Reckoner
