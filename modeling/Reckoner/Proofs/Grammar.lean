import Reckoner.Evaluation
import Reckoner.Proofs.Formula

namespace Reckoner.Evaluation

/-- The tokens that a rule derives, with the formula they form. Operators of one class are joined
from the left. A token counts through its terminal only. -/
inductive Derives : Rule → List Token → Formula → Prop
  | number {token : Token} {value : Int} : token.terminal = .number value →
      Derives .factor [token] (.number value)
  | group {first last : Token} {tokens : List Token} {formula : Formula} :
      first.terminal = .opening → Derives .expression tokens formula → last.terminal = .closing →
      Derives .factor (first :: (tokens ++ [last])) formula
  | factor {tokens : List Token} {formula : Formula} : Derives .factor tokens formula →
      Derives .term tokens formula
  | product {front back : List Token} {sign : Token} {op : Multiplicative} {left right : Formula} :
      Derives .term front left → sign.terminal = .operator (.multiplicative op) →
      Derives .factor back right →
      Derives .term (front ++ sign :: back) (.binary (.multiplicative op) left right)
  | term {tokens : List Token} {formula : Formula} : Derives .term tokens formula →
      Derives .expression tokens formula
  | sum {front back : List Token} {sign : Token} {op : Additive} {left right : Formula} :
      Derives .expression front left → sign.terminal = .operator (.additive op) →
      Derives .term back right →
      Derives .expression (front ++ sign :: back) (.binary (.additive op) left right)
  | whole {tokens : List Token} {formula : Formula} : Derives .expression tokens formula →
      Derives .whole tokens formula

/-- Every rule derives what a factor is. -/
theorem Derives.ofFactor {tokens : List Token} {formula : Formula}
    (derived : Derives .factor tokens formula) (rule : Rule) : Derives rule tokens formula := by
  cases rule with
  | whole => exact .whole (.term (.factor derived))
  | expression => exact .term (.factor derived)
  | term => exact .factor derived
  | factor => exact derived

end Reckoner.Evaluation
