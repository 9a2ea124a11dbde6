import Reckoner.Proofs.Grammar
import Reckoner.Proofs.Transition

namespace Reckoner.Evaluation

variable {rule : Rule} {limit : Option Nat}

/-- A step continued from the state it leads to, if it leads to one. -/
def Step.andThen (onward : State → Step) : Step → Step
  | read next => onward next
  | stop result => stop result
  | fail fault => fail fault

/-- What several tokens make of a state, up to the first that is not read. -/
def readAll (rule : Rule) (limit : Option Nat) (state : State) : List Token → Step
  | [] => .read state
  | token :: rest => (step rule limit token state).andThen fun next => readAll rule limit next rest

theorem readAll_append (state : State) (front back : List Token) :
    readAll rule limit state (front ++ back) =
      (readAll rule limit state front).andThen fun next => readAll rule limit next back := by
  induction front generalizing state with
  | nil => rfl
  | cons token rest ih =>
    simp only [List.cons_append, readAll]
    cases step rule limit token state with
    | read next => exact ih next
    | stop | fail => rfl

/-- Tokens that are all read only move the run on. -/
theorem runFrom_append {state next : State} {front : List Token} (cursor : Nat) (back : List Token)
    (read : readAll rule limit state front = .read next) :
    runFrom rule limit state cursor (front ++ back) =
      runFrom rule limit next (cursor + front.length) back := by
  induction front generalizing state cursor with
  | nil =>
    cases read
    rfl
  | cons token rest ih =>
    cases here : step rule limit token state with
    | read mid =>
      simp only [readAll, here, Step.andThen] at read
      simp only [List.cons_append, runFrom, here, List.length_cons]
      rw [ih (cursor + 1) read, Nat.add_right_comm, Nat.add_assoc]
    | stop | fail => simp [readAll, here, Step.andThen] at read

theorem runFrom_result_of_fail {state : State} {front : List Token} {fault : Fault} (cursor : Nat)
    (back : List Token) (failed : readAll rule limit state front = .fail fault) :
    (runFrom rule limit state cursor (front ++ back)).result = .error fault := by
  induction front generalizing state cursor with
  | nil => cases failed
  | cons token rest ih =>
    cases here : step rule limit token state with
    | read mid =>
      simp only [readAll, here, Step.andThen] at failed
      simp only [List.cons_append, runFrom, here]
      exact ih (cursor + 1) failed
    | stop => simp [readAll, here, Step.andThen] at failed
    | fail =>
      simp only [readAll, here, Step.andThen] at failed
      simp only [List.cons_append, runFrom, here]
      cases failed
      rfl

/-- An operand taken up, if it has a value. -/
def supply? (level : Level) (outer : List Level) : Option Int → Step
  | some operand => supply level outer operand
  | none => .fail .divisionByZero

/-- A term held, if it has a value. -/
def hold? (sum : PartialSum) (outer : List Level) : Option Int → Step
  | some term => .read (.holding sum term outer)
  | none => .fail .divisionByZero

/-- A state that holds the given value, or the failure to have one. -/
def Step.Holds (outer : List Level) : Option Int → Step → Prop
  | some value, step => ∃ sum term, sum.close term = value ∧ step = .read (.holding sum term outer)
  | none, step => step = .fail .divisionByZero

/-- What the tokens of a rule do where they are expected. Outside all parentheses the run has to
take the operators that the rule joins operands with. -/
def ReadAs : Rule → List Token → Option Int → Prop
  | .factor, tokens, value? => ∀ entry level outer,
    readAll entry none (.expecting level outer) tokens = supply? level outer value?
  | .term, tokens, value? => ∀ entry sum outer,
    (∀ op, outer = [] → entry.takes (.multiplicative op) = true) →
    readAll entry none (.expecting { sum } outer) tokens = hold? sum outer value?
  | .expression, tokens, value? | .whole, tokens, value? => ∀ entry outer,
    (∀ op, outer = [] → entry.takes op = true) →
    Step.Holds outer value? (readAll entry none (.expecting {} outer) tokens)

theorem supply?_first (sum : PartialSum) (outer : List Level) (value? : Option Int) :
    supply? { sum } outer value? = hold? sum outer value? := by
  cases value? with
  | none => rfl
  | some value =>
    simp [supply?, hold?, supply, PartialProduct.close?, Multiplicative.combine?]

theorem ReadAs.group {first last : Token} {tokens : List Token} {value? : Option Int}
    (opening : first.terminal = .opening) (closing : last.terminal = .closing)
    (inner : ReadAs .expression tokens value?) :
    ReadAs .factor (first :: (tokens ++ [last])) value? := by
  intro entry level outer
  have enter : step entry none first (.expecting level outer) =
      .read (.expecting {} (level :: outer)) := by
    simp [step, opening]
  have inside := inner entry (level :: outer) (by simp)
  rw [readAll, enter, Step.andThen, readAll_append]
  cases value? with
  | none =>
    rw [show readAll entry none _ tokens = .fail .divisionByZero from inside]
    rfl
  | some value =>
    obtain ⟨sum, term, closed, reached⟩ := inside
    rw [reached, ← closed]
    simp only [Step.andThen, readAll, step, closing, supply?]
    cases supply level outer (sum.close term) <;> rfl

/-- An operator that the run takes breaks off the sum or the product that it joins to. -/
theorem step_operator {entry : Rule} {sign : Token} {op : Operator} {sum : PartialSum}
    {product : Int} {outer : List Level} (joined : sign.terminal = .operator op)
    (takes : outer = [] → entry.takes op = true) :
    step entry none sign (.holding sum product outer) =
      .read (.expecting
        (match op with
        | .additive op => { sum := ⟨sum.close product, op⟩ }
        | .multiplicative op => { sum, product := ⟨product, op⟩ }) outer) := by
  have taken : ¬(outer = [] ∧ entry.takes op = false) := by
    rintro ⟨outermost, refused⟩
    simp [takes outermost] at refused
  simp only [step, joined, if_neg taken]
  cases op <;> rfl

theorem ReadAs.product {front back : List Token} {sign : Token} {op : Multiplicative}
    {left? right? : Option Int} (left : ReadAs .term front left?)
    (joined : sign.terminal = .operator (.multiplicative op)) (right : ReadAs .factor back right?) :
    ReadAs .term (front ++ sign :: back)
      (left?.bind fun a => right?.bind fun b => op.combine? a b) := by
  intro entry sum outer takes
  rw [readAll_append, left entry sum outer takes]
  cases left? with
  | none => rfl
  | some a =>
    have next : step entry none sign (.holding sum a outer) =
        .read (.expecting { sum, product := ⟨a, op⟩ } outer) :=
      step_operator joined (takes op)
    simp only [hold?, Step.andThen, readAll, next, right entry _ outer]
    cases right? with
    | none => rfl
    | some b =>
      cases combined : op.combine? a b <;>
        simp [supply?, supply, PartialProduct.close?, combined]

theorem ReadAs.sum {front back : List Token} {sign : Token} {op : Additive}
    {left? right? : Option Int} (left : ReadAs .expression front left?)
    (joined : sign.terminal = .operator (.additive op)) (right : ReadAs .term back right?) :
    ReadAs .expression (front ++ sign :: back)
      (left?.bind fun a => right?.bind fun b => some (op.combine a b)) := by
  intro entry outer takes
  have before := left entry outer takes
  rw [readAll_append]
  cases left? with
  | none =>
    rw [show readAll entry none _ front = .fail .divisionByZero from before]
    rfl
  | some a =>
    obtain ⟨sum, term, closed, reached⟩ := before
    have next : step entry none sign (.holding sum term outer) =
        .read (.expecting { sum := ⟨a, op⟩ } outer) := by
      rw [step_operator joined (takes _), closed]
    rw [reached]
    simp only [Step.andThen, readAll, next,
      right entry ⟨a, op⟩ outer fun op outermost => takes _ outermost]
    cases right? with
    | none => rfl
    | some b => exact ⟨⟨a, op⟩, b, rfl, rfl⟩

/-- Derived tokens are read with the value of their formula. -/
theorem Derives.readAs {rule : Rule} {tokens : List Token} {formula : Formula}
    (derived : Derives rule tokens formula) : ReadAs rule tokens formula.value? := by
  induction derived with
  | @number token value terminal =>
    intro entry level outer
    simp only [readAll, step, terminal, Formula.value?, supply?]
    cases supply level outer value <;> rfl
  | group opening _ closing ih => exact ih.group opening closing
  | factor _ ih =>
    intro entry sum outer _
    rw [ih entry { sum } outer, supply?_first]
  | @product front back sign op left right _ joined _ leftIh rightIh =>
    have value : (Formula.binary (.multiplicative op) left right).value? =
        left.value?.bind fun a => right.value?.bind fun b => op.combine? a b := by
      simp only [Formula.value?, ← Operator.combine?_eq]
      rfl
    rw [value]
    exact leftIh.product joined rightIh
  | @term tokens formula _ ih =>
    intro entry outer takes
    rw [ih entry {} outer fun op outermost => takes _ outermost]
    cases formula.value? with
    | none => rfl
    | some value => exact ⟨{}, value, by simp [PartialSum.close, Additive.combine], rfl⟩
  | @sum front back sign op left right _ joined _ leftIh rightIh =>
    have value : (Formula.binary (.additive op) left right).value? =
        left.value?.bind fun a => right.value?.bind fun b => some (op.combine a b) := by
      simp only [Formula.value?, ← Operator.combine?_eq]
      rfl
    rw [value]
    exact leftIh.sum joined rightIh
  | whole _ ih => exact ih

end Reckoner.Evaluation
