import Reckoner.Numeral
import Reckoner.Text.DecimalDigit

namespace Reckoner.Numeral

/-- White space allowed around an integer; the separators of files, groups, records and units do
not belong to it. -/
def isMargin (c : Char) : Bool :=
  Text.isBlank c && !('\x1C' ≤ c && c ≤ '\x1F')

/-- The values of the digits, if every underscore stands between two of them. -/
def digitValues? (afterDigit : Bool) : Text → Option (List Nat)
  | [] => if afterDigit then some [] else none
  | c :: rest =>
    if c = '_' then if afterDigit then digitValues? false rest else none
    else do
      let digit ← Text.decimalDigit? c
      let digits ← digitValues? true rest
      return digit :: digits

/-- Leading zeros count among the digits that can be read in one piece. -/
def unsigned? (t : Text) : Option Nat := do
  let digits ← digitValues? false t
  if digits.length ≤ pieceLimit then
    return digits.foldl (fun value digit => 10 * value + digit) 0
  else none

def signed? (t : Text) : Option Int :=
  let inner := ((t.dropWhile isMargin).reverse.dropWhile isMargin).reverse
  match inner with
  | '-' :: digits => (unsigned? digits).map fun value => -(value : Int)
  | '+' :: digits => (unsigned? digits).map fun value => (value : Int)
  | digits => (unsigned? digits).map fun value => (value : Int)

end Reckoner.Numeral
