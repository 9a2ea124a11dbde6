import Reckoner.Proofs.Reading

namespace Reckoner.Evaluation

variable {rule : Rule} {bound : Nat} {token : Token} {state next : State}

/-- With only so many of the tokens read, the unlimited run is inside so many parentheses. -/
def Enters (rule : Rule) (tokens : List Token) (level : Nat) : Prop :=
  ∃ front state, front <+: tokens ∧ readAll rule none .start front = .read state ∧
    state.depth = level

/-- A limit shows only at a parenthesis that leads beyond it. -/
theorem step_bounded (rule : Rule) (bound : Nat) (token : Token) (state : State) :
    step rule (some bound) token state = step rule none token state ∨
      step rule (some bound) token state = .fail rule.depthFault ∧
        ∃ next, step rule none token state = .read next ∧ bound < next.depth := by
  rcases step_limited rule (some bound) token state with same | ⟨cut, opening, met⟩
  · exact Or.inl same
  · cases state with
    | expecting level outer =>
      refine Or.inr ⟨cut, .expecting {} (level :: outer), by simp [step, opening], ?_⟩
      have full : bound ≤ outer.length := of_decide_eq_true met
      simp only [State.depth, List.length_cons]
      omega
    | holding sum product outer => exact Or.inl rfl

/-- Within the limit no step leads out of it. -/
theorem depth_le_of_read (read : step rule (some bound) token state = .read next)
    (within : state.depth ≤ bound) : next.depth ≤ bound := by
  have transition := step_transition rule (some bound) token state
  rw [read] at transition
  cases transition with
  | @opening level outer _ free =>
    have room : outer.length < bound := by simpa using free
    simp only [State.depth, List.length_cons]
    omega
  | closing =>
    simp only [State.depth, List.length_cons] at within ⊢
    omega
  | number | additive | multiplicative => exact within

/-- An unlimited run that stays within the limit is the limited one. -/
theorem runFrom_of_shallow {tokens : List Token} (cursor : Nat)
    (shallow : ∀ front last, front <+: tokens → readAll rule none state front = .read last →
      last.depth ≤ bound) :
    runFrom rule (some bound) state cursor tokens = runFrom rule none state cursor tokens := by
  induction tokens generalizing state cursor with
  | nil => rfl
  | cons token rest ih =>
    rcases step_bounded rule bound token state with same | ⟨_, next, read, deep⟩
    · simp only [runFrom, same]
      cases read : step rule none token state with
      | read next =>
        refine ih (cursor + 1) fun front last initial reached => ?_
        refine shallow (token :: front) last (List.cons_prefix_cons.mpr ⟨rfl, initial⟩) ?_
        simpa only [readAll, read, Step.andThen] using reached
      | stop | fail => rfl
    · have within := shallow [token] next (List.cons_prefix_cons.mpr ⟨rfl, List.nil_prefix⟩)
        (by simp only [readAll, read, Step.andThen])
      omega

/-- A limited run ends where the unlimited one gets too deep, whatever stands behind. -/
theorem runFrom_of_deep {front : List Token} (cursor : Nat) (back : List Token)
    (within : state.depth ≤ bound) (reached : readAll rule none state front = .read next)
    (deep : bound < next.depth) :
    (runFrom rule (some bound) state cursor (front ++ back)).result = .error rule.depthFault ∧
      (runFrom rule (some bound) state cursor (front ++ back)).cursor ≤ cursor + front.length := by
  induction front generalizing state cursor with
  | nil =>
    cases reached
    omega
  | cons token rest ih =>
    rw [List.cons_append, runFrom, List.length_cons]
    rcases step_bounded rule bound token state with same | ⟨cut, _⟩
    · cases read : step rule none token state with
      | read mid =>
        rw [read] at same
        simp only [readAll, read, Step.andThen] at reached
        obtain ⟨failed, early⟩ := ih (cursor + 1) (depth_le_of_read same within) reached
        simp only [same]
        exact ⟨failed, by omega⟩
      | stop | fail => simp [readAll, read, Step.andThen] at reached
    · rw [cut]
      exact ⟨rfl, by dsimp only; omega⟩

/-- Tokens whose unlimited run stays within 300 levels of parentheses are evaluated as without a
limit, to the same result at the same place. Once the unlimited run enters a level of 400, the
nesting is at fault, whatever stands behind the tokens read so far. In between the limit cuts a run
off or makes no difference to it, so no value comes out that the unlimited run does not give. -/
theorem nesting_limit_only_cuts (stack : Stack) {tokens : List Token}
    (terminated : isTerminated tokens = true) :
    ((∀ level, Enters .whole tokens level → level ≤ 300) →
      Rule.whole.evaluate stack tokens = .ok (run .whole none tokens)) ∧
    (∀ front back, tokens = front ++ back → Enters .whole front 400 →
      ∀ other, isTerminated (front ++ other) = true →
        ∃ outcome, Rule.whole.evaluate stack (front ++ other) = .ok outcome ∧
          outcome.result = .error .tooDeep ∧ outcome.cursor ≤ front.length) ∧
    (∃ outcome, Rule.whole.evaluate stack tokens = .ok outcome ∧
      (outcome = run .whole none tokens ∨ outcome.result = .error .tooDeep) ∧
      ∀ value, outcome.result = .ok value → (run .whole none tokens).result = .ok value) ∧
    Fault.tooDeep.kind? = some .malformedExpression ∧
    Fault.tooDeep.message = "Parentheses nested too deeply" := by
  refine ⟨fun shallow => ?_, fun front _ _ deep other closed => ?_, ?_, rfl, rfl⟩
  · rw [Rule.evaluate, if_pos terminated]
    refine congrArg Except.ok (runFrom_of_shallow 0 fun front last initial reached => ?_)
    have within := shallow last.depth ⟨front, last, initial, reached, rfl⟩
    exact within.trans stack.ample
  · obtain ⟨entered, last, ⟨others, rfl⟩, reached, depth⟩ := deep
    have beyond : stack.room < last.depth := by
      rw [depth]
      exact stack.finite
    obtain ⟨failed, early⟩ := runFrom_of_deep 0 (others ++ other) (Nat.zero_le stack.room)
      reached beyond
    rw [List.append_assoc] at closed ⊢
    refine ⟨_, if_pos closed, failed, ?_⟩
    rw [List.length_append]
    exact early.trans (by omega)
  · refine ⟨_, if_pos terminated, ?_⟩
    -- Between 300 and 400 levels either may happen, but a run that is cut off gives no value.
    rcases runFrom_limited .whole (some stack.room) .start 0 tokens with same | cut
    · exact ⟨Or.inl same, fun value valued => by rwa [run, same] at valued⟩
    · exact ⟨Or.inr cut, fun value valued => by cases cut.symm.trans valued⟩

/-- So many parentheses that open. -/
def openings (count : Nat) : List Token :=
  List.replicate count ⟨.opening none, 0⟩

theorem readAll_openings (rule : Rule) (level : Level) (outer : List Level) (count : Nat) :
    ∃ last, readAll rule none (.expecting level outer) (openings count) = .read last ∧
      last.depth = outer.length + count := by
  induction count generalizing level outer with
  | zero => exact ⟨_, rfl, rfl⟩
  | succ count ih =>
    obtain ⟨last, reached, depth⟩ := ih {} (level :: outer)
    refine ⟨last, reached, ?_⟩
    rw [depth, List.length_cons]
    omega

theorem openings_too_deep :
    isTerminated (openings 400 ++ [⟨.stop none, 0⟩]) = true ∧ Enters .whole (openings 400) 400 ∧
      ∃ outcome, Rule.whole.evaluate .shallow (openings 400 ++ [⟨.stop none, 0⟩]) = .ok outcome ∧
        outcome.result = .error .tooDeep := by
  have terminated : isTerminated (openings 400 ++ [⟨.stop none, 0⟩]) = true := by decide
  obtain ⟨last, reached, depth⟩ := readAll_openings .whole {} [] 400
  have entered : Enters .whole (openings 400) 400 :=
    ⟨openings 400, last, List.prefix_rfl, reached, by rw [depth]; rfl⟩
  obtain ⟨_, cutOff, _⟩ := nesting_limit_only_cuts .shallow terminated
  obtain ⟨outcome, ended, failed, _⟩ := cutOff (openings 400) _ rfl entered _ terminated
  exact ⟨terminated, entered, outcome, ended, failed⟩

end Reckoner.Evaluation
