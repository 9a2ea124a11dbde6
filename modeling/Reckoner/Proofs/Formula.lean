import Mathlib.Data.Rat.Floor
import Reckoner.Operator

namespace Reckoner

/-- A number, or two formulas joined by an operator. -/
inductive Formula
  | number (value : Int)
  | binary (op : Operator) (left right : Formula)
  deriving DecidableEq

/-- What an operator means for integers. A quotient is exact first and rounded down then. -/
def Operator.result? : Operator → Int → Int → Option Int
  | .additive .plus, left, right => some (left + right)
  | .additive .minus, left, right => some (left - right)
  | .multiplicative .times, left, right => some (left * right)
  | .multiplicative .dividedBy, left, right =>
    if right = 0 then none else some ⌊(left : ℚ) / right⌋

namespace Formula

/-- The value of a formula; it has none if it divides by zero anywhere. -/
def value? : Formula → Option Int
  | number value => some value
  | binary op left right => do
    let leftValue ← left.value?
    let rightValue ← right.value?
    op.result? leftValue rightValue

/-- Some divisor in the tree has the value zero. -/
inductive DividesByZero : Formula → Prop
  | here {left right : Formula} : right.value? = some 0 →
      DividesByZero (binary (.multiplicative .dividedBy) left right)
  | left {op : Operator} {left right : Formula} : DividesByZero left →
      DividesByZero (binary op left right)
  | right {op : Operator} {left right : Formula} : DividesByZero right →
      DividesByZero (binary op left right)

end Formula

theorem floor_div_eq_fdiv (left right : Int) : ⌊(left : ℚ) / right⌋ = left.fdiv right := by
  rcases Int.eq_nat_or_neg right with ⟨n, rfl | rfl⟩
  · rw [Int.fdiv_eq_ediv_of_nonneg left (Int.natCast_nonneg n)]
    exact_mod_cast Rat.floor_intCast_div_natCast left n
  · have flipped := Rat.floor_intCast_div_natCast (-left) n
    rw [← Int.neg_fdiv_neg, neg_neg, Int.fdiv_eq_ediv_of_nonneg (-left) (Int.natCast_nonneg n),
      ← flipped]
    push_cast
    rw [neg_div, div_neg]

/-- The evaluator combines operands as the operators mean it. -/
theorem Operator.combine?_eq (op : Operator) (left right : Int) :
    op.combine? left right = op.result? left right := by
  rcases op with (_ | _) | (_ | _)
  · rfl
  · rfl
  · rfl
  · simp only [combine?, Multiplicative.combine?, quotient?, result?, floor_div_eq_fdiv]

theorem Operator.result?_eq_none_iff {op : Operator} {left right : Int} :
    op.result? left right = none ↔ op = .multiplicative .dividedBy ∧ right = 0 := by
  rcases op with (_ | _) | (_ | _) <;> simp [result?]

/-- Only a zero divisor takes the value away. -/
theorem Formula.value?_eq_none_iff {formula : Formula} :
    formula.value? = none ↔ formula.DividesByZero := by
  constructor
  · intro missing
    induction formula with
    | number value => simp [value?] at missing
    | binary op left right leftIh rightIh =>
      cases leftValue : left.value? with
      | none => exact .left (leftIh leftValue)
      | some a =>
        cases rightValue : right.value? with
        | none => exact .right (rightIh rightValue)
        | some b =>
          simp only [value?, leftValue, rightValue, Option.bind_eq_bind, Option.bind_some,
            Operator.result?_eq_none_iff] at missing
          obtain ⟨rfl, rfl⟩ := missing
          exact .here rightValue
  · intro divides
    induction divides with
    | @here left right zero =>
      cases leftValue : left.value? <;> simp [value?, leftValue, zero, Operator.result?]
    | left _ ih => simp [value?, ih]
    | @right op left right _ ih => cases leftValue : left.value? <;> simp [value?, leftValue, ih]

end Reckoner
