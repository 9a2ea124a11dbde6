import Reckoner.Proofs.GivenLexeme
import Reckoner.Proofs.Transition

namespace Reckoner

open Evaluation

/-- The failure that the whole expression, or another rule, makes of one inside. -/
def Evaluation.Rule.letsOut (rule : Rule) (failure : Failure) : Failure :=
  if rule = .whole then failure.reportingDepth else failure

theorem Evaluation.Rule.letsOut_ofFault (rule : Rule) {fault : Fault} (other : fault ≠ .overflow) :
    rule.letsOut (.ofFault fault) = .ofFault fault := by
  have known : (Failure.ofFault fault).reportingDepth = .ofFault fault := by
    cases fault with
    | overflow => exact absurd rfl other
    | _ => rfl
  rw [Rule.letsOut, known, ite_self]

theorem Evaluation.Rule.letsOut_operandExpected (rule : Rule) {token : Token}
    (placed : token.IsPlaced) :
    rule.letsOut token.given.operandExpected = .ofFault (.operandExpected token) := by
  rw [Token.given_operandExpected placed]
  exact rule.letsOut_ofFault nofun

theorem Evaluation.Rule.letsOut_closingExpected (rule : Rule) {token : Token}
    (placed : token.IsPlaced) :
    rule.letsOut token.given.closingExpected = .ofFault (.closingExpected token) := by
  rw [Token.given_closingExpected placed]
  exact rule.letsOut_ofFault nofun

theorem Evaluation.Rule.letsOut_overflow (rule : Rule) :
    rule.letsOut .overflow = .ofFault rule.depthFault := by
  cases rule <;> rfl

/-- What a rule reads, but for the end mark behind a whole expression. -/
def Evaluation.Rule.goal : Rule → Descent.Goal
  | .whole | .expression => .chain .sum
  | .term => .chain .product
  | .factor => .factor

theorem Evaluation.Rule.takes_eq_binds (rule : Rule) (op : Operator) :
    rule.takes op = rule.goal.binds op := by
  rcases rule with _ | _ | _ | _ <;> cases op <;> rfl

theorem Evaluation.Rule.goal_ne_fold (rule : Rule) (tier : Descent.Tier) (left : Content) :
    rule.goal ≠ .fold tier left := by
  cases rule <;> nofun

namespace Descent

variable {tokens : List Token} {rule : Rule} {limit : Nat} {tier : Tier} {goal : Goal}
  {room cursor place : Nat} {result : Except Failure Content} {state next : State} {token : Token}
  {outer : List Level}

/-- The states in which a run begins a goal; of what is around it, a chain needs nothing. -/
inductive Begins (outer : List Level) : Goal → State → Prop
  | factor (level : Level) : Begins outer .factor (.expecting level outer)
  | product (sum : PartialSum) : Begins outer (.chain .product) (.expecting { sum } outer)
  | sum : Begins outer (.chain .sum) (.expecting {} outer)
  | factors (sum : PartialSum) (left : Int) :
      Begins outer (.fold .product (.integer left)) (.holding sum left outer)
  | terms (sum : PartialSum) (product : Int) :
      Begins outer (.fold .sum (.integer (sum.close product))) (.holding sum product outer)

/-- What the result of a goal makes of the state that the run began it in. -/
inductive Makes (rule : Rule) (outer : List Level) :
    Goal → State → Except Failure Content → Step → Prop
  | factor (level : Level) (value : Int) :
      Makes rule outer .factor (.expecting level outer) (.ok (.integer value))
        (supply level outer value)
  | product (sum : PartialSum) (value : Int) :
      Makes rule outer (.chain .product) (.expecting { sum } outer) (.ok (.integer value))
        (.read (.holding sum value outer))
  | sum (sum : PartialSum) (product : Int) :
      Makes rule outer (.chain .sum) (.expecting {} outer) (.ok (.integer (sum.close product)))
        (.read (.holding sum product outer))
  | factors {left : Content} (sum : PartialSum) (product value : Int) :
      Makes rule outer (.fold .product left) (.holding sum product outer) (.ok (.integer value))
        (.read (.holding sum value outer))
  | terms {left : Content} {sum : PartialSum} {product : Int} (next : PartialSum) (term : Int) :
      Makes rule outer (.fold .sum left) (.holding sum product outer)
        (.ok (.integer (next.close term))) (.read (.holding next term outer))
  | failure {goal : Goal} {state : State} {failure : Failure} {fault : Fault} :
      rule.letsOut failure = .ofFault fault →
      Makes rule outer goal state (.error failure) (.fail fault)

theorem Begins.exists_holding {left : Content} (begins : Begins outer (.fold tier left) state) :
    ∃ sum product, state = .holding sum product outer := by
  cases begins with
  | factors | terms => exact ⟨_, _, rfl⟩

/-- An operand that cannot be read ends what it is part of. -/
theorem Makes.of_failure {within : List Level} {inner : Goal} {mid : State} {made : Step}
    {failure : Failure} (makes : Makes rule within inner mid (.error failure) made) :
    Makes rule outer goal state (.error failure) made := by
  cases makes with
  | failure same => exact .failure same

theorem Makes.exists_fault {made : Step} {failure : Failure}
    (makes : Makes rule outer goal state (.error failure) made) :
    ∃ fault, made = .fail fault ∧ rule.letsOut failure = .ofFault fault := by
  cases makes with
  | failure same => exact ⟨_, rfl, same⟩

/-- A value that the run comes to is held when it has been read. -/
theorem Makes.exists_holding {value : Content} {made : Step}
    (makes : Makes rule [] goal .start (.ok value) made) :
    ∃ sum product, made = .read (.holding sum product []) ∧
      value = .integer (sum.close product) := by
  have first (value : Int) : Content.integer value = .integer (PartialSum.close {} value) :=
    congrArg Content.integer (Int.zero_add value).symm
  cases makes with
  | sum sum product => exact ⟨sum, product, rfl, rfl⟩
  | product _ value => exact ⟨{}, value, rfl, first value⟩
  | factor _ value =>
    have alone : PartialProduct.close? {} value = some value := congrArg some (Int.one_mul value)
    exact ⟨{}, value, by rw [supply, alone], first value⟩

theorem begins_start (rule : Rule) : Begins [] rule.goal .start := by
  cases rule with
  | whole | expression => exact .sum
  | term => exact .product {}
  | factor => exact .factor {}

/-- A run from a place on. -/
def runAt (rule : Rule) (limit : Nat) (tokens : List Token) (state : State) (cursor : Nat) :
    Outcome :=
  runFrom rule (some limit) state cursor (tokens.drop cursor)

/-- The outcome of a run that some step has brought to a place. -/
def resume (rule : Rule) (limit : Nat) (tokens : List Token) (place : Nat) : Step → Outcome
  | .read next => runAt rule limit tokens next place
  | .stop result => ⟨result, place⟩
  | .fail fault => ⟨.error fault, place⟩

theorem exists_token_given {given : GivenToken}
    (found : (tokens.map Token.given)[cursor]? = some given) :
    ∃ token ∈ tokens, token.given = given ∧
      tokens.drop cursor = token :: tokens.drop (cursor + 1) := by
  rw [List.getElem?_map, Option.map_eq_some_iff] at found
  obtain ⟨token, found, rfl⟩ := found
  obtain ⟨inside, rfl⟩ := List.getElem?_eq_some_iff.mp found
  exact ⟨_, List.getElem_mem inside, rfl, List.drop_eq_getElem_cons inside⟩

theorem runAt_of_read (here : tokens.drop cursor = token :: tokens.drop (cursor + 1))
    (read : step rule (some limit) token state = .read next) :
    runAt rule limit tokens state cursor = runAt rule limit tokens next (cursor + 1) := by
  rw [runAt, here, runFrom, read]
  rfl

theorem runAt_of_supply {level : Level} {value : Int}
    (here : tokens.drop cursor = token :: tokens.drop (cursor + 1))
    (taken : step rule (some limit) token state = supply level outer value) :
    runAt rule limit tokens state cursor =
      resume rule limit tokens (cursor + 1) (supply level outer value) := by
  rw [runAt, here, runFrom, taken, supply]
  cases level.product.close? value <;> rfl

theorem runAt_of_stop {stopped : Except Fault Int}
    (here : tokens.drop cursor = token :: tokens.drop (cursor + 1))
    (stop : step rule (some limit) token state = .stop stopped) :
    runAt rule limit tokens state cursor = ⟨stopped, cursor⟩ := by
  rw [runAt, here, runFrom, stop]

theorem runAt_of_fail {fault : Fault}
    (here : tokens.drop cursor = token :: tokens.drop (cursor + 1))
    (fail : step rule (some limit) token state = .fail fault) :
    runAt rule limit tokens state cursor = ⟨.error fault, cursor + 1⟩ := by
  rw [runAt, here, runFrom, fail]

/-- Where a chain begins, its first operand does. -/
theorem Begins.operand (begins : Begins outer (.chain tier) state) :
    Begins outer tier.operand state := by
  cases begins with
  | sum => exact .product {}
  | product sum => exact .factor { sum }

/-- The first operand of a chain is all that is joined so far. -/
theorem Makes.first {first : Content} {made : Step} (begins : Begins outer (.chain tier) state)
    (makes : Makes rule outer tier.operand state (.ok first) made) :
    ∃ next, made = .read next ∧ Begins outer (.fold tier first) next ∧
      ∀ result whole, Makes rule outer (.fold tier first) next result whole →
        Makes rule outer (.chain tier) state result whole := by
  cases begins with
  | sum =>
    cases makes with
    | product _ value =>
      have alone : PartialSum.close {} value = value := Int.zero_add value
      refine ⟨_, rfl, ?_, ?_⟩
      · simpa only [alone] using (Begins.terms {} value : Begins outer _ _)
      · intro result whole later
        cases later with
        | failure same => exact .failure same
        | terms => exact .sum _ _
  | product sum =>
    cases makes with
    | factor _ value =>
      have alone : PartialProduct.close? {} value = some value := congrArg some (Int.one_mul value)
      refine ⟨.holding sum value outer, by rw [supply, alone], .factors sum value, ?_⟩
      intro result whole later
      cases later with
      | failure same => exact .failure same
      | factors => exact .product _ _

/-- Where a run is behind an operator. -/
def behind (sum : PartialSum) (product : Int) (outer : List Level) : Operator → State
  | .additive op => .expecting { sum := ⟨sum.close product, op⟩ } outer
  | .multiplicative op => .expecting { sum, product := ⟨product, op⟩ } outer

theorem step_behind {sum : PartialSum} {product : Int} {op : Operator}
    (terminal : token.terminal = .operator op) (taken : outer = [] → rule.takes op = true) :
    step rule (some limit) token (.holding sum product outer) =
      .read (behind sum product outer op) := by
  have kept : ¬ (outer = [] ∧ rule.takes op = false) := fun ⟨top, refused⟩ => by
    simp [taken top] at refused
  simp only [step, terminal, if_neg kept]
  cases op <;> rfl

theorem begins_behind {left : Content} {sum : PartialSum} {product : Int} {op : Operator}
    (begins : Begins outer (.fold tier left) (.holding sum product outer))
    (takes : tier.takes op = true) : Begins outer tier.operand (behind sum product outer op) := by
  cases begins with
  | factors =>
    cases op with
    | additive => cases takes
    | multiplicative op => exact .factor _
  | terms =>
    cases op with
    | additive op => exact .product _
    | multiplicative => cases takes

/-- What the right operand makes of a run, the descent makes by combining it. -/
theorem Makes.joined {left right : Content} {sum : PartialSum} {product : Int} {op : Operator}
    {made : Step} (begins : Begins outer (.fold tier left) (.holding sum product outer))
    (takes : tier.takes op = true)
    (makes : Makes rule outer tier.operand (behind sum product outer op) (.ok right) made) :
    (∃ value next, Content.combine op left right = .ok value ∧ made = .read next ∧
      Begins outer (.fold tier value) next ∧
      ∀ result whole, Makes rule outer (.fold tier value) next result whole →
        Makes rule outer (.fold tier left) (.holding sum product outer) result whole) ∨
    Content.combine op left right = .error (.ofFault .divisionByZero) ∧
      made = .fail .divisionByZero := by
  cases begins with
  | factors =>
    cases op with
    | additive => cases takes
    | multiplicative op =>
      cases makes with
      | factor _ value =>
        cases joined : op.combine? product value with
        | none =>
          refine .inr ⟨?_, ?_⟩
          · simp only [Content.combine, Operator.combine?, joined]
          · simp only [supply, PartialProduct.close?, joined]
        | some total =>
          refine .inl ⟨.integer total, .holding sum total outer, ?_, ?_, .factors sum total, ?_⟩
          · simp only [Content.combine, Operator.combine?, joined]
          · simp only [supply, PartialProduct.close?, joined]
          · intro result whole later
            cases later with
            | failure same => exact .failure same
            | factors => exact .factors _ _ _
  | terms =>
    cases op with
    | additive op =>
      cases makes with
      | product _ value =>
        refine .inl ⟨_, _, rfl, rfl, .terms ⟨sum.close product, op⟩ value, ?_⟩
        intro result whole later
        cases later with
        | failure same => exact .failure same
        | terms => exact .terms _ _
    | multiplicative => cases takes

end Descent

end Reckoner
