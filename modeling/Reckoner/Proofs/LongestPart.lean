import Reckoner.Proofs.FlatAgreement
import Reckoner.Proofs.Reading

namespace Reckoner

open Evaluation

/-- Whatever the rule, what a run reads is read by the scan. -/
theorem Flat.step_of_read {rule : Rule} {limit : Option Nat} {token : Token}
    {state next : Evaluation.State} (read : Evaluation.step rule limit token state = .read next) :
    Flat.step token state.flat = .read next.flat := by
  have transition := step_transition rule limit token state
  rw [read] at transition
  cases transition <;> simp [Flat.step, Evaluation.State.flat, *]

namespace Evaluation

variable {rule : Rule} {limit : Option Nat} {sign token : Token}
  {tokens front back : List Token} {state next : State} {formula : Formula}

theorem flat_of_readAll (read : readAll rule limit state tokens = .read next) :
    Flat.readAll? state.flat tokens = some next.flat := by
  induction tokens generalizing state with
  | nil =>
    cases read
    rfl
  | cons token rest ih =>
    cases here : step rule limit token state with
    | read mid =>
      simp only [readAll, here, Step.andThen] at read
      simp only [Flat.readAll?, Flat.step_of_read here]
      exact ih read
    | stop | fail => simp [readAll, here, Step.andThen] at read

/-- A value comes only of a state that holds it outside all parentheses. -/
theorem exists_holding_of_stop {value : Int}
    (stopped : step rule limit token state = .stop (.ok value)) :
    ∃ sum product, state = .holding sum product [] ∧ sum.close product = value := by
  have transition := step_transition rule limit token state
  rw [stopped] at transition
  generalize answered : Except.ok value = result at transition
  cases transition with
  | @answer sum product =>
    unfold Rule.answer at answered
    split at answered
    · split at answered <;> cases answered
    · exact ⟨sum, product, rfl, (Except.ok.inj answered).symm⟩
  | unexpected | unclosed => cases answered

/-- As long as there is a token, a step does not miss one. -/
theorem step_ne_exhausted :
    step rule limit token state ≠ .stop (.error .exhausted) ∧
      step rule limit token state ≠ .fail .exhausted := by
  constructor
  all_goals
    intro here
    have transition := step_transition rule limit token state
    rw [here] at transition
  · generalize answered : Except.error Fault.exhausted = result at transition
    cases transition with
    | answer =>
      unfold Rule.answer at answered
      split at answered
      · split at answered <;> cases answered
      · cases answered
    | unexpected | unclosed => cases answered
  · cases transition with
    | tooDeep _ _ cut => cases rule <;> cases cut

/-- Tokens that an end mark closes never run out. -/
theorem result_ne_exhausted {cursor : Nat} (terminated : isTerminated tokens = true) :
    (runFrom rule limit state cursor tokens).result ≠ .error .exhausted := by
  induction tokens generalizing state cursor with
  | nil => cases terminated
  | cons token rest ih =>
    cases here : step rule limit token state with
    | read next =>
      have scanned := Flat.step_of_read here
      have rested := isTerminated_of_cons terminated (Flat.terminal_ne_stop_of_read scanned)
      simpa only [runFrom, here] using ih rested
    | stop result =>
      simp only [runFrom, here]
      rintro rfl
      exact step_ne_exhausted.1 here
    | fail fault =>
      simp only [runFrom, here]
      rintro ⟨⟩
      exact step_ne_exhausted.2 here

/-- A run with a value has stopped in front of a token, with all before it read. -/
theorem exists_stop_of_value {cursor : Nat} {value : Int}
    (valued : (runFrom rule limit state cursor tokens).result = .ok value) :
    ∃ front token back last, tokens = front ++ token :: back ∧
      (runFrom rule limit state cursor tokens).cursor = cursor + front.length ∧
      readAll rule limit state front = .read last ∧
      step rule limit token last = .stop (.ok value) := by
  induction tokens generalizing state cursor with
  | nil => cases valued
  | cons token rest ih =>
    cases here : step rule limit token state with
    | read mid =>
      simp only [runFrom, here] at valued ⊢
      obtain ⟨front, found, back, last, rfl, place, read, stopped⟩ := ih valued
      refine ⟨token :: front, found, back, last, rfl, ?_, ?_, stopped⟩
      · rw [place, List.length_cons]
        omega
      · simpa only [readAll, here, Step.andThen] using read
    | stop result =>
      simp only [runFrom, here] at valued ⊢
      subst valued
      exact ⟨[], token, rest, state, rfl, rfl, rfl, here⟩
    | fail fault =>
      simp only [runFrom, here] at valued
      cases valued

/-- A rule takes the operators that it joins operands with, so a part is read to its end. -/
theorem Derives.holds (derived : Derives rule tokens formula) :
    Step.Holds [] formula.value? (readAll rule none .start tokens) := by
  have held (value? : Option Int) : Step.Holds [] value? (hold? {} [] value?) := by
    cases value? with
    | none => rfl
    | some value => exact ⟨{}, value, by simp [PartialSum.close, Additive.combine], rfl⟩
  have reading := derived.readAs
  cases rule with
  | whole | expression => exact reading _ [] fun _ _ => rfl
  | term =>
    rw [State.start, reading .term {} [] fun _ _ => rfl]
    exact held _
  | factor =>
    rw [State.start, reading .factor {} [], supply?_first]
    exact held _

/-- The tokens begin with a part that the rule derives and go on with an operator that it does not
take. -/
def LeavesOver (rule : Rule) (tokens : List Token) : Prop :=
  ∃ front sign back op part, tokens = front ++ sign :: back ∧ Derives rule front part ∧
    sign.terminal = .operator op ∧ rule.takes op = false

theorem leavesOver_of_refused {op : Operator}
    (before : (∃ part, Derives rule front part) ∨ LeavesOver rule front)
    (joined : sign.terminal = .operator op) (refused : rule.takes op = false) :
    LeavesOver rule (front ++ sign :: back) := by
  rcases before with
    ⟨part, derived⟩ | ⟨start, other, rest, otherOp, part, rfl, derived, first, left⟩
  · exact ⟨front, sign, back, op, part, rfl, derived, joined, refused⟩
  · exact ⟨start, other, rest ++ sign :: back, otherOp, part, by simp, derived, first, left⟩

/-- Of what any rule derives, each rule derives all or leaves something over. -/
theorem Derives.derives_or_leavesOver {entered : Rule} (derived : Derives entered tokens formula)
    (rule : Rule) : (∃ part, Derives rule tokens part) ∨ LeavesOver rule tokens := by
  induction derived with
  | number terminal => exact Or.inl ⟨_, (Derives.number terminal).ofFactor rule⟩
  | group opening inner closing =>
    exact Or.inl ⟨_, (Derives.group opening inner closing).ofFactor rule⟩
  | factor _ ih | term _ ih | whole _ ih => exact ih
  | product before joined after ih =>
    have product := Derives.product before joined after
    cases rule with
    | whole => exact Or.inl ⟨_, .whole (.term product)⟩
    | expression => exact Or.inl ⟨_, .term product⟩
    | term => exact Or.inl ⟨_, product⟩
    | factor => exact Or.inr (leavesOver_of_refused ih joined rfl)
  | sum before joined after ih =>
    have sum := Derives.sum before joined after
    cases rule with
    | whole => exact Or.inl ⟨_, .whole sum⟩
    | expression => exact Or.inl ⟨_, sum⟩
    | term | factor => exact Or.inr (leavesOver_of_refused ih joined rfl)

/-- A rule does not read past an operator that it does not take. -/
theorem not_leavesOver_of_readAll (read : readAll rule none .start tokens = .read next) :
    ¬ LeavesOver rule tokens := by
  rintro ⟨front, sign, back, op, part, rfl, derived, joined, refused⟩
  have holds := derived.holds
  rw [readAll_append] at read
  cases known : part.value? with
  | none =>
    rw [known] at holds
    rw [show readAll rule none .start front = .fail .divisionByZero from holds] at read
    cases read
  | some value =>
    rw [known] at holds
    obtain ⟨sum, term, _, reached⟩ := holds
    rw [reached] at read
    simp [Step.andThen, readAll, step, joined, refused] at read

/-- What a rule has read when it holds a value at the end is a part that it derives, with that
value. -/
theorem exists_derives_of_readAll {sum : PartialSum} {product : Int}
    (read : readAll rule none .start front = .read (.holding sum product [])) :
    ∃ formula, Derives rule front formula ∧ formula.value? = some (sum.close product) := by
  obtain ⟨whole, expression⟩ := Flat.derives_iff_readAll?.mpr (flat_of_readAll read)
  obtain ⟨formula, derived⟩ : ∃ formula, Derives rule front formula :=
    (expression.derives_or_leavesOver rule).resolve_right (not_leavesOver_of_readAll read)
  have holds := derived.holds
  rw [read] at holds
  refine ⟨formula, derived, ?_⟩
  cases known : formula.value? with
  | none =>
    rw [known] at holds
    cases holds
  | some value =>
    rw [known] at holds
    obtain ⟨_, _, closed, same⟩ := holds
    cases same
    rw [closed]

/-- The longest part at the beginning of the tokens that a rule derives. -/
structure IsLongestPart (rule : Rule) (tokens front : List Token) (formula : Formula) : Prop where
  initial : front <+: tokens
  derived : Derives rule front formula
  longest : ∀ other whole, other <+: tokens → Derives rule other whole →
    other.length ≤ front.length

theorem exists_longest_part (initial : front <+: tokens) (derived : Derives rule front formula) :
    ∃ longest whole, IsLongestPart rule tokens longest whole := by
  classical
  let derivable (count : Nat) : Prop := ∃ whole, Derives rule (tokens.take count) whole
  have derivable_length {other : List Token} {whole : Formula} (initial : other <+: tokens)
      (derived : Derives rule other whole) : derivable other.length :=
    ⟨whole, by rwa [← List.prefix_iff_eq_take.mp initial]⟩
  have within := Nat.findGreatest_le (P := derivable) tokens.length
  obtain ⟨whole, greatest⟩ :=
    Nat.findGreatest_spec initial.length_le (derivable_length initial derived)
  refine ⟨_, whole, List.take_prefix _ _, greatest, fun other _ initial derived => ?_⟩
  rw [List.length_take, Nat.min_eq_left within]
  exact Nat.le_findGreatest initial.length_le (derivable_length initial derived)

/-- A part at the beginning is read to its end, unless it divides by zero. -/
theorem run_of_derives_initial (derived : Derives rule front formula) (back : List Token) :
    (run rule none (front ++ back)).result = .error .divisionByZero ∨
      ∃ sum term, run rule none (front ++ back) =
        runFrom rule none (.holding sum term []) front.length back := by
  have holds := derived.holds
  cases known : formula.value? with
  | none =>
    rw [known] at holds
    exact Or.inl (runFrom_result_of_fail 0 back holds)
  | some value =>
    rw [known] at holds
    obtain ⟨sum, term, _, reached⟩ := holds
    exact Or.inr ⟨sum, term, by rw [run, runFrom_append 0 back reached, Nat.zero_add]⟩

theorem length_le_cursor_of_derives (initial : front <+: tokens)
    (derived : Derives rule front formula)
    (other : (run rule none tokens).result ≠ .error .divisionByZero) :
    front.length ≤ (run rule none tokens).cursor := by
  obtain ⟨back, rfl⟩ := initial
  rcases run_of_derives_initial derived back with byZero | ⟨sum, term, same⟩
  · exact absurd byZero other
  · rw [same]
    exact cursor_le_runFrom ..

/-- A value is that of the longest part, which ends at the cursor. -/
theorem longest_part_of_value {value : Int} (valued : (run rule none tokens).result = .ok value) :
    ∃ front formula, IsLongestPart rule tokens front formula ∧
      (run rule none tokens).cursor = front.length ∧ formula.value? = some value := by
  obtain ⟨front, token, back, last, shape, place, read, stopped⟩ := exists_stop_of_value valued
  obtain ⟨sum, product, rfl, rfl⟩ := exists_holding_of_stop stopped
  obtain ⟨formula, derived, known⟩ := exists_derives_of_readAll read
  have cursor : (run rule none tokens).cursor = front.length := by rw [run, place, Nat.zero_add]
  refine ⟨front, formula, ⟨⟨token :: back, shape.symm⟩, derived, ?_⟩, cursor, known⟩
  intro other _ initial derived
  rw [← cursor]
  exact length_le_cursor_of_derives initial derived (by simp [valued])

/-- Behind a value a part of an expression either ends or goes on with an operator of its rule. -/
theorem step_behind_part (part : rule ≠ .whole) (token : Token) (sum : PartialSum) (term : Int) :
    step rule none token (.holding sum term []) = .stop (.ok (sum.close term)) ∨
      ∃ op next, token.terminal = .operator op ∧ rule.takes op = true ∧
        step rule none token (.holding sum term []) = .read next := by
  have transition := step_transition rule none token (.holding sum term [])
  generalize step rule none token (.holding sum term []) = moved at transition
  cases transition with
  | additive joined takes | multiplicative joined takes =>
    exact Or.inr ⟨_, _, joined, takes rfl, rfl⟩
  | answer =>
    rw [Rule.answer, if_neg fun whole => part whole.1]
    exact Or.inl rfl

/-- A failure behind the longest part is one behind an operator that has been read. -/
theorem operator_of_failure {fault : Fault} (part : rule ≠ .whole)
    (terminated : isTerminated tokens = true) (longest : IsLongestPart rule tokens front formula)
    (failed : (run rule none tokens).result = .error fault) (other : fault ≠ .divisionByZero) :
    ∃ sign op, tokens[front.length]? = some sign ∧ sign.terminal = .operator op ∧
      rule.takes op = true ∧ front.length < (run rule none tokens).cursor := by
  have exhausted : (run rule none tokens).result ≠ .error .exhausted :=
    result_ne_exhausted terminated
  obtain ⟨back, rfl⟩ := longest.initial
  rcases run_of_derives_initial longest.derived back with byZero | ⟨sum, term, same⟩
  · exact absurd (Except.error.inj (failed.symm.trans byZero)) other
  rw [same] at failed exhausted ⊢
  cases back with
  | nil => exact absurd rfl exhausted
  | cons sign back =>
    rcases step_behind_part part sign sum term with stopped | ⟨op, next, joined, takes, read⟩
    · simp [runFrom, stopped] at failed
    · refine ⟨sign, op, by simp, joined, takes, ?_⟩
      simp only [runFrom, read]
      exact cursor_le_runFrom ..

/-- On tokens that an end mark closes and that do not nest too deeply, each rule of the grammar is
evaluated to the value of the longest part that it derives at the beginning, and has read just that.
Where it fails for another reason than a division by zero, it derives no part at the beginning, or
it has read on behind the longest one because an operator follows that it joins operands with: a
factor never does. -/
theorem rules_read_longest_parts (stack : Stack) {rule : Rule} (part : rule ≠ .whole)
    {tokens : List Token}
    (terminated : isTerminated tokens = true) (nests : Token.NestWithin 300 tokens) :
    ∃ outcome, rule.evaluate stack tokens = .ok outcome ∧
      (∀ value, outcome.result = .ok value →
        ∃ front formula, IsLongestPart rule tokens front formula ∧
          outcome.cursor = front.length ∧ formula.value? = some value) ∧
      ∀ fault, outcome.result = .error fault → fault ≠ .divisionByZero →
        (∀ front formula, front <+: tokens → ¬ Derives rule front formula) ∨
        ∃ front formula sign op, IsLongestPart rule tokens front formula ∧
          tokens[front.length]? = some sign ∧ sign.terminal = .operator op ∧
          rule.takes op = true ∧ front.length < outcome.cursor := by
  have unlimited : run rule (some stack.room) tokens = run rule none tokens :=
    run_of_nests (NestsWithin.mono nests stack.ample)
  refine ⟨run rule none tokens, ?_, fun value => longest_part_of_value, ?_⟩
  · rw [Rule.evaluate, if_pos terminated, unlimited]
  · intro fault failed other
    by_cases some_part : ∃ front formula, front <+: tokens ∧ Derives rule front formula
    · obtain ⟨_, _, initial, derived⟩ := some_part
      obtain ⟨front, formula, longest⟩ := exists_longest_part initial derived
      obtain ⟨sign, op, behind⟩ := operator_of_failure part terminated longest failed other
      exact Or.inr ⟨front, formula, sign, op, longest, behind⟩
    · exact Or.inl fun front formula initial derived =>
        some_part ⟨front, formula, initial, derived⟩

/-- The tokens of `2*3+*4`, in which an operand is missing. -/
def brokenOff : List Token :=
  [⟨.number 2, 0⟩, ⟨.operator (some ['*']), 1⟩, ⟨.number 3, 2⟩, ⟨.operator (some ['+']), 3⟩,
    ⟨.operator (some ['*']), 4⟩, ⟨.number 4, 5⟩, ⟨.stop none, 6⟩]

theorem brokenOff_longest_parts :
    (Rule.term ≠ .whole ∧ Rule.expression ≠ .whole) ∧ isTerminated brokenOff = true ∧
      Token.NestWithin 300 brokenOff ∧
      (∃ front formula, IsLongestPart .term brokenOff front formula ∧ front.length = 3 ∧
        formula.value? = some 6) ∧
      ∃ front formula, IsLongestPart .expression brokenOff front formula ∧ front.length = 3 := by
  have terminated : isTerminated brokenOff = true := by decide
  have nests : Token.NestWithin 300 brokenOff := by decide
  have partTerm : Rule.term ≠ .whole := by simp
  have partExpression : Rule.expression ≠ .whole := by simp
  obtain ⟨_, term, valued, _⟩ := rules_read_longest_parts .shallow partTerm terminated nests
  obtain ⟨_, expression, _, failed⟩ :=
    rules_read_longest_parts .shallow partExpression terminated nests
  cases term
  cases expression
  obtain ⟨front, formula, longest, place, known⟩ := valued 6 rfl
  have product : Derives .expression (brokenOff.take 3)
      (.binary (.multiplicative .times) (.number 2) (.number 3)) :=
    .term (.product (.factor (.number rfl)) rfl (.number rfl))
  have initial : brokenOff.take 3 <+: brokenOff := List.take_prefix 3 brokenOff
  refine ⟨⟨partTerm, partExpression⟩, terminated, nests,
    ⟨front, formula, longest, place.symm, known⟩, ?_⟩
  rcases failed (.operandExpected ⟨.operator (some ['*']), 4⟩) rfl (by simp) with
    none | ⟨front, formula, sign, op, longest, found, joined, _, early⟩
  · exact absurd product (none _ _ initial)
  · have late : 3 ≤ front.length := longest.longest _ _ initial product
    have before : front.length < 4 := early
    exact ⟨front, formula, longest, by omega⟩

end Evaluation

end Reckoner
