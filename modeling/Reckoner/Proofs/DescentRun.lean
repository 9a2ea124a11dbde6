import Reckoner.Proofs.DescentEnd
import Reckoner.Proofs.DescentStep
import Reckoner.Proofs.Meaning

namespace Reckoner

open Evaluation

/-- An outcome of the run as one of the descent. -/
def Evaluation.Outcome.given (outcome : Outcome) : Except Failure Content × Nat :=
  ((outcome.result.map Content.integer).mapError Failure.ofFault, outcome.cursor)

namespace Descent

variable {tokens : List Token} {rule : Rule} {limit : Nat} {tier : Tier} {goal : Goal}
  {room cursor place : Nat} {result : Except Failure Content} {state next : State} {token : Token}
  {outer : List Level}

/-- Outside all parentheses the run takes the operators that a goal would read. -/
def Fits (rule : Rule) (outer : List Level) (goal : Goal) : Prop :=
  outer = [] → ∀ op, goal.binds op = true → rule.takes op = true

theorem Fits.operand (fits : Fits rule outer (.chain tier)) : Fits rule outer tier.operand := by
  intro top op binds
  cases tier with
  | sum => exact fits top op rfl
  | product => cases binds

theorem Fits.fold (fits : Fits rule outer (.chain tier)) (left : Content) :
    Fits rule outer (.fold tier left) := by
  intro top op binds
  cases tier <;> exact fits top op binds

theorem Fits.chain {left : Content} (fits : Fits rule outer (.fold tier left)) :
    Fits rule outer (.chain tier) := by
  intro top op binds
  cases tier <;> exact fits top op binds

theorem fits_inside (level : Level) (goal : Goal) : Fits rule (level :: outer) goal :=
  nofun

/-- The operator of a tier behind something that is joined so far is read. -/
theorem runAt_of_operator {left : Content} {op : Operator} {given : GivenToken}
    (begins : Begins outer (.fold tier left) state) (fits : Fits rule outer (.fold tier left))
    (found : (tokens.map Token.given)[cursor]? = some given)
    (known : operator? tier given = .ok (some op)) :
    ∃ sum product, state = .holding sum product outer ∧ tier.takes op = true ∧
      Begins outer tier.operand (behind sum product outer op) ∧
      runAt rule limit tokens state cursor =
        runAt rule limit tokens (behind sum product outer op) (cursor + 1) := by
  obtain ⟨token, member, rfl, here⟩ := exists_token_given found
  obtain ⟨sum, product, rfl⟩ := begins.exists_holding
  cases lookup_of_eq known with
  | operator terminal takes =>
    have binds : (Goal.fold tier left).binds op = true := by
      cases tier with
      | sum => rfl
      | product => exact takes
    have read : step rule (some limit) token (.holding sum product outer) =
        .read (behind sum product outer op) :=
      step_behind (Token.given_operator.mp terminal) fun top => fits top op binds
    exact ⟨sum, product, rfl, takes, begins_behind begins takes, runAt_of_read here read⟩

theorem letsOut_byZero {op : Operator} {left right : Content} {failure : Failure} (rule : Rule)
    (refused : Content.combine op left right = .error failure)
    (same : Content.combine op left right = .error (.ofFault .divisionByZero)) :
    rule.letsOut failure = .ofFault .divisionByZero := by
  cases refused.symm.trans same
  exact rule.letsOut_ofFault nofun

/-- With room left, the run opens a level where a factor begins with a parenthesis. -/
theorem runAt_of_opening (rule : Rule) {given : GivenToken} (begins : Begins outer .factor state)
    (bounded : outer.length + (room + 1) = limit)
    (found : (tokens.map Token.given)[cursor]? = some given) (opening : given.kind = .opening) :
    ∃ level, state = .expecting level outer ∧ (level :: outer).length + room = limit ∧
      runAt rule limit tokens state cursor =
        runAt rule limit tokens (.expecting {} (level :: outer)) (cursor + 1) := by
  obtain ⟨token, member, rfl, here⟩ := exists_token_given found
  cases begins with
  | factor level =>
    have open? : ¬ limit ≤ outer.length := by omega
    refine ⟨level, rfl, by simp only [List.length_cons]; omega, runAt_of_read here ?_⟩
    simp [step, Token.given_opening.mpr opening, open?]

/-- Each goal of a descent is what the run makes of its tokens, from whatever state it begins the
goal in. -/
theorem Descends.runs
    (descends : Descends (tokens.map Token.given) goal room cursor result place)
    (placed : ∀ token ∈ tokens, token.IsPlaced) (begins : Begins outer goal state)
    (bounded : outer.length + room = limit) (fits : Fits rule outer goal) :
    ∃ made, Makes rule outer goal state result made ∧
      runAt rule limit tokens state cursor = resume rule limit tokens place made := by
  induction descends generalizing outer state with
  | operandFails _ ih =>
    obtain ⟨made, makes, ran⟩ := ih begins.operand bounded fits.operand
    exact ⟨made, makes.of_failure, ran⟩
  | operandRead _ _ ih later =>
    obtain ⟨made, makes, ran⟩ := ih begins.operand bounded fits.operand
    obtain ⟨next, rfl, begins, whole⟩ := makes.first begins
    obtain ⟨made, makes, ranOn⟩ := later begins bounded (fits.fold _)
    exact ⟨made, whole _ _ makes, ran.trans ranOn⟩
  | complete =>
    cases begins with
    | factors sum left => exact ⟨_, .factors sum left left, rfl⟩
    | terms sum product => exact ⟨_, .terms sum product, rfl⟩
  | @lookupFails tier _ _ _ _ _ found known =>
    obtain ⟨token, member, rfl, here⟩ := exists_token_given found
    cases lookup_of_eq known with
    | unhashable unhashable => exact absurd unhashable token.not_isUnhashable_given
  | rightFails found known _ ih =>
    obtain ⟨sum, product, rfl, _, right, read⟩ := runAt_of_operator begins fits found known
    obtain ⟨made, makes, ran⟩ := ih right bounded fits.chain.operand
    exact ⟨made, makes.of_failure, read.trans ran⟩
  | combineFails found known _ refused ih =>
    obtain ⟨sum, product, rfl, takes, right, read⟩ := runAt_of_operator begins fits found known
    obtain ⟨made, makes, ran⟩ := ih right bounded fits.chain.operand
    obtain ⟨_, _, joined, _⟩ | ⟨byZero, rfl⟩ := makes.joined begins takes
    · cases refused.symm.trans joined
    · exact ⟨_, .failure (letsOut_byZero rule refused byZero), read.trans ran⟩
  | combined found known _ joined _ ih later =>
    obtain ⟨sum, product, rfl, takes, right, read⟩ := runAt_of_operator begins fits found known
    obtain ⟨made, makes, ran⟩ := ih right bounded fits.chain.operand
    obtain ⟨_, next, same, rfl, begins, whole⟩ | ⟨byZero, _⟩ := makes.joined begins takes
    · cases joined.symm.trans same
      obtain ⟨made, makes, ranOn⟩ := later begins bounded (fits.chain.fold _)
      exact ⟨made, whole _ _ makes, (read.trans ran).trans ranOn⟩
    · cases joined.symm.trans byZero
  | number found number =>
    obtain ⟨token, member, rfl, here⟩ := exists_token_given found
    obtain ⟨value, content⟩ := token.exists_integer_given number
    have terminal := Token.given_number.mpr ⟨number, content⟩
    cases begins with
    | factor level =>
      rw [content]
      exact ⟨_, .factor level value, runAt_of_supply here (by simp only [step, terminal])⟩
  | tooDeep found opening =>
    obtain ⟨token, member, rfl, here⟩ := exists_token_given found
    cases begins with
    | factor level =>
      refine ⟨_, .failure rule.letsOut_overflow, runAt_of_fail here ?_⟩
      have full : limit ≤ outer.length := by omega
      simp [step, Token.given_opening.mpr opening, full]
  | groupFails found opening _ ih =>
    obtain ⟨level, rfl, bounded, read⟩ := runAt_of_opening rule begins bounded found opening
    obtain ⟨made, makes, ran⟩ := ih .sum bounded (fits_inside level _)
    exact ⟨made, makes.of_failure, read.trans ran⟩
  | unclosed found opening inner behind other ih =>
    obtain ⟨level, rfl, bounded, read⟩ := runAt_of_opening rule begins bounded found opening
    obtain ⟨made, makes, ran⟩ := ih .sum bounded (fits_inside level _)
    obtain ⟨token, member, rfl, there⟩ := exists_token_given behind
    cases makes with
    | sum sum product =>
      have noOperator (op : Operator) : token.terminal ≠ .operator op := fun terminal => by
        cases inner.clear_of_chain _ op behind (Token.given_operator.mpr terminal)
      have unclosed : Transition rule (some limit) token (.holding sum product (level :: outer)) _ :=
        .unclosed noOperator (mt Token.given_closing.mp other)
      exact ⟨_, .failure (rule.letsOut_closingExpected (placed token member)),
        (read.trans ran).trans (runAt_of_stop there unclosed.step_eq)⟩
  | group found opening inner behind closing ih =>
    obtain ⟨level, rfl, bounded, read⟩ := runAt_of_opening rule begins bounded found opening
    obtain ⟨made, makes, ran⟩ := ih .sum bounded (fits_inside level _)
    obtain ⟨token, member, rfl, there⟩ := exists_token_given behind
    have terminal := Token.given_closing.mpr closing
    cases makes with
    | sum sum product =>
      refine ⟨_, .factor level (sum.close product), (read.trans ran).trans ?_⟩
      exact runAt_of_supply there (by simp [step, terminal])
  | unexpected found number opening =>
    obtain ⟨token, member, rfl, here⟩ := exists_token_given found
    cases begins with
    | factor level =>
      have unexpected : Transition rule (some limit) token (.expecting level outer) _ :=
        .unexpected (fun value terminal => number (Token.given_number.mp terminal).1)
          (mt Token.given_opening.mp opening)
      exact ⟨_, .failure (rule.letsOut_operandExpected (placed token member)),
        runAt_of_stop here unexpected.step_eq⟩

theorem Descends.runs_start
    (descends : Descends (tokens.map Token.given) rule.goal room 0 result place)
    (placed : ∀ token ∈ tokens, token.IsPlaced) :
    ∃ made, Makes rule [] rule.goal .start result made ∧
      run rule (some room) tokens = resume rule room tokens place made :=
  descends.runs placed (begins_start rule) (Nat.zero_add room) fun _ op binds =>
    (rule.takes_eq_binds op).trans binds

theorem run_of_failure (rule : Rule) {failure : Failure}
    (descends : Descends (tokens.map Token.given) rule.goal room 0 (.error failure) place)
    (placed : ∀ token ∈ tokens, token.IsPlaced) :
    ∃ fault, rule.letsOut failure = .ofFault fault ∧
      run rule (some room) tokens = ⟨.error fault, place⟩ := by
  obtain ⟨made, makes, ran⟩ := descends.runs_start placed
  obtain ⟨fault, rfl, same⟩ := makes.exists_fault
  exact ⟨fault, same, ran⟩

theorem run_of_value (rule : Rule) {value : Content} {given : GivenToken}
    (descends : Descends (tokens.map Token.given) rule.goal room 0 (.ok value) place)
    (placed : ∀ token ∈ tokens, token.IsPlaced)
    (found : (tokens.map Token.given)[place]? = some given) :
    ∃ whole, ∃ token ∈ tokens, token.given = given ∧ value = .integer whole ∧
      run rule (some room) tokens = ⟨rule.answer whole token, place⟩ := by
  obtain ⟨made, makes, ran⟩ := descends.runs_start placed
  obtain ⟨sum, product, rfl, rfl⟩ := makes.exists_holding
  obtain ⟨token, member, rfl, here⟩ := exists_token_given found
  have clear := descends.clear rfl fun _ _ same => absurd same (rule.goal_ne_fold _ _)
  have refused (op : Operator) (terminal : token.terminal = .operator op) :
      rule.takes op = false := by
    rw [rule.takes_eq_binds]
    exact clear _ op found (Token.given_operator.mpr terminal)
  exact ⟨_, token, member, rfl, rfl,
    ran.trans (runAt_of_stop here (Transition.answer refused).step_eq)⟩

theorem Reads.run_eq (reads : Reads (tokens.map Token.given) room rule result place)
    (placed : ∀ token ∈ tokens, token.IsPlaced)
    (found : ∀ value, result = .ok value →
      ∃ given, (tokens.map Token.given)[place]? = some given) :
    (run rule (some room) tokens).given = (result, place) := by
  have part (descends : Descends (tokens.map Token.given) rule.goal room 0 result place)
      (inner : rule ≠ .whole) : (run rule (some room) tokens).given = (result, place) := by
    cases result with
    | error failure =>
      obtain ⟨fault, same, ran⟩ := run_of_failure rule descends placed
      have kept : rule.letsOut failure = failure := if_neg inner
      rw [ran, ← kept, same]
      rfl
    | ok value =>
      obtain ⟨given, found⟩ := found value rfl
      obtain ⟨whole, token, _, _, rfl, ran⟩ := run_of_value rule descends placed found
      have answer : rule.answer whole token = .ok whole := if_neg fun reported => inner reported.1
      rw [ran, answer]
      rfl
  cases reads with
  | expression descends | term descends | factor descends => exact part descends (by decide)
  | fails descends =>
    obtain ⟨fault, same, ran⟩ := run_of_failure Rule.whole descends placed
    rw [ran]
    exact congrArg (fun failure => (Except.error failure, place)) same.symm
  | trailing descends found other =>
    obtain ⟨whole, token, member, rfl, rfl, ran⟩ := run_of_value Rule.whole descends placed found
    have behind : Rule.whole = .whole ∧ token.terminal ≠ .stop :=
      ⟨rfl, mt Token.given_stop.mp other⟩
    rw [ran, Token.given_trailing (placed token member), Rule.answer, if_pos behind]
    split <;> rfl
  | whole descends found stop =>
    obtain ⟨whole, token, _, rfl, rfl, ran⟩ := run_of_value Rule.whole descends placed found
    have answer : Rule.whole.answer whole token = .ok whole :=
      if_neg fun reported => reported.2 (Token.given_stop.mpr stop)
    rw [ran, answer]
    rfl

end Descent

/-- On tokens that the lexer could have made, the run comes to what the descent comes to, and as
far, by every rule of the grammar and on every stack: one pass over the tokens with a stack of levels
does what the rules do that call each other. -/
theorem Evaluation.Rule.descendAll_given (rule : Rule) (stack : Stack) {tokens : List Token}
    (placed : ∀ token ∈ tokens, token.IsPlaced) :
    rule.descendAll stack (tokens.map Token.given) =
      ((rule.evaluate stack tokens).map fun outcome => some outcome.given).mapError
        Failure.ofFault := by
  by_cases terminated : isTerminated tokens = true
  · let sequence : Sequence := ⟨_, (Token.getLast?_given tokens).mpr terminated⟩
    have accepted : Sequence.ofTokens? (tokens.map Token.given) = .ok sequence :=
      dif_pos sequence.terminated
    obtain ⟨result, place, reads⟩ := Descent.exists_reads sequence stack.room rule
    have ran := reads.run_eq placed fun value _ =>
      (sequence.exists_token reads.le_firstStop).imp fun _ found => found.1
    rw [Rule.descendAll, accepted, Rule.evaluate, if_pos terminated]
    change Except.ok (rule.descend stack sequence) = Except.ok (some (run rule _ tokens).given)
    rw [ran, Rule.descend, reads.parser_eq]
  · have refused : Sequence.ofTokens? (tokens.map Token.given) = .error (.ofFault .unterminated) :=
      dif_neg (mt (Token.getLast?_given tokens).mp terminated)
    rw [Rule.descendAll, refused, Rule.evaluate, if_neg terminated]
    rfl

/-- The tokens of a text stand at places that can be written out, if the text is not longer than any
that could be kept anywhere. -/
theorem Token.isPlaced_of_ofText {t : Text} {tokens : List Token} (made : ofText t = .ok tokens)
    (short : t.length < Nat.pow 10 Numeral.pieceLimit) : ∀ token ∈ tokens, token.IsPlaced := by
  have shorter : t.withoutBlanks.length ≤ t.length := List.length_filter_le _ _
  have placed {token : Token} (within : ∃ place : Nat, token.pos = place ∧
      place ≤ t.withoutBlanks.length) : token.IsPlaced := by
    obtain ⟨place, same, bound⟩ := within
    rw [IsPlaced, same]
    exact decide_eq_true ((bound.trans shorter).trans_lt short)
  obtain ⟨others, cut, rfl⟩ := ofText_eq_ok_iff.mp made
  intro token member
  rcases List.mem_append.mp member with member | last
  · exact placed (by simpa only [Nat.zero_add] using cut.pos_le token member)
  · exact placed ⟨_, congrArg Token.pos (List.mem_singleton.mp last), Nat.le_refl _⟩

/-- So every rule makes of the tokens of a text what the run makes of them. -/
theorem Evaluation.Rule.descendAll_of_ofText (rule : Rule) (stack : Stack) {t : Text}
    {tokens : List Token} (made : Token.ofText t = .ok tokens)
    (short : t.length < Nat.pow 10 Numeral.pieceLimit) :
    rule.descendAll stack (tokens.map Token.given) =
      .ok (some (run rule (some stack.room) tokens).given) := by
  obtain ⟨others, cut, rfl⟩ := Token.ofText_eq_ok_iff.mp made
  rw [rule.descendAll_given stack (Token.isPlaced_of_ofText made short), Rule.evaluate,
    if_pos (isTerminated_marked others _)]
  rfl

end Reckoner
