import Reckoner.Text.Blank
import Reckoner.Text.Printable

namespace Reckoner.Text

/-- The lower case hexadecimal digits of a number, with zeros in front up to the width. -/
def hexDigits (width n : Nat) : Text :=
  (Nat.toDigits 16 n).leftpad width '0'

/-- One character between quotation marks; the shortest of the three numeric forms is taken. -/
def escape (mark c : Char) : Text :=
  if c = mark ∨ c = '\\' then ['\\', c]
  else if c = '\n' then ['\\', 'n']
  else if c = '\r' then ['\\', 'r']
  else if c = '\t' then ['\\', 't']
  else if isPrintable c then [c]
  else if c.toNat < 0x100 then '\\' :: 'x' :: hexDigits 2 c.toNat
  else if c.toNat < 0x10000 then '\\' :: 'u' :: hexDigits 4 c.toNat
  else '\\' :: 'U' :: hexDigits 8 c.toNat

/-- Double marks are for a text that holds single ones and no double one. -/
def quotationMark (t : Text) : Char :=
  if t.contains '\x27' && !t.contains '"' then '"' else '\x27'

def quoted (t : Text) : String :=
  let mark := quotationMark t
  String.ofList (mark :: t.flatMap (escape mark) ++ [mark])

end Reckoner.Text
