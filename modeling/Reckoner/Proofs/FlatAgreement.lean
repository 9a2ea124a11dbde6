import Reckoner.Proofs.DigitCount
import Reckoner.Proofs.FlatScan
import Reckoner.Proofs.Transition

namespace Reckoner

/-- The faults of the grammar that name the token they are found at. -/
inductive Fault.Blames (token : Token) : Fault → Prop
  | operandExpected : Blames token (.operandExpected token)
  | closingExpected : Blames token (.closingExpected token)
  | trailing : Blames token (.trailing token)

/-- The results that a verdict on a token allows. Outside all parentheses a long number has to be
written out to be blamed, and cannot be. -/
def Flat.Verdict.Allows (token : Token) : Flat.Verdict → Except Fault Int → Prop
  | .accepted, result => ∃ value, result = .ok value
  | .rejected depth kind, result =>
    (depth = 0 ∧ token.IsLongNumber ∧ result = .error .unwritable) ∨
      (¬(depth = 0 ∧ token.IsLongNumber) ∧
        ∃ fault, fault.Blames token ∧ fault.kind? = some kind ∧ result = .error fault)

theorem Flat.Verdict.allows_rejected {token : Token} {depth : Nat} {kind : ErrorKind}
    {fault : Fault} (short : ¬(depth = 0 ∧ token.IsLongNumber)) (blames : fault.Blames token)
    (same : fault.kind? = some kind) :
    (Flat.Verdict.rejected depth kind).Allows token (.error fault) :=
  Or.inr ⟨short, fault, blames, same, rfl⟩

namespace Evaluation

/-- A state without its values. -/
def State.flat : State → Flat.State
  | expecting _ outer => .expecting outer.length
  | holding _ _ outer => .holding outer.length

/-- What one token does to a run and to the scan. -/
inductive Mirrors (token : Token) : Step → Flat.Move → Prop
  | read (next : State) : Mirrors token (.read next) (.read next.flat)
  | divisionByZero (next : Flat.State) : Mirrors token (.fail .divisionByZero) (.read next)
  | settle {result : Except Fault Int} {verdict : Flat.Verdict} :
      verdict.Allows token result → Mirrors token (.stop result) (.settle verdict)

theorem mirrors_answer {token : Token} (value : Int)
    (noOperator : ∀ op, token.terminal ≠ .operator op) :
    Mirrors token (.stop (Rule.whole.answer value token)) (Flat.step token (.holding 0)) := by
  by_cases stopped : token.terminal = .stop
  · simp only [Flat.step, stopped, Rule.answer]
    exact .settle ⟨value, by simp⟩
  · have rejected : Flat.step token (.holding 0) =
        .settle (.rejected 0 .malformedExpression) := by
      cases terminal : token.terminal with
      | operator op => exact absurd terminal (noOperator op)
      | stop => exact absurd terminal stopped
      | number | opening | closing | foreign => simp [Flat.step, terminal]
    rw [rejected]
    cases writable : token.lexeme.isWritable with
    | true =>
      have short : ¬ token.IsLongNumber := by
        rw [← Token.isWritable_eq_false_iff, writable]
        simp
      rw [Rule.answer, if_pos ⟨rfl, stopped⟩, if_pos writable]
      exact .settle (Flat.Verdict.allows_rejected (fun both => short both.2) .trailing rfl)
    | false =>
      have long := Token.isWritable_eq_false_iff.mp writable
      rw [Rule.answer, if_pos ⟨rfl, stopped⟩, if_neg (by simp [writable])]
      exact .settle (Or.inl ⟨rfl, long, rfl⟩)

/-- Without a bound on the depth, each step of a run is a step of the scan. -/
theorem step_mirrors (token : Token) (state : State) :
    Mirrors token (step .whole none token state) (Flat.step token state.flat) := by
  have transition := step_transition .whole none token state
  generalize step .whole none token state = moved at transition
  cases transition with
  | number terminal =>
    simp only [Flat.step, State.flat, terminal]
    exact .read _
  | numberByZero terminal =>
    simp only [Flat.step, State.flat, terminal]
    exact .divisionByZero _
  | opening terminal =>
    simp only [Flat.step, State.flat, terminal]
    exact .read _
  | tooDeep _ met => simp at met
  | @unexpected level outer noNumber noOpening =>
    have rejected : Flat.step token (.expecting outer.length) =
        .settle (.rejected outer.length .malformedExpression) := by
      cases terminal : token.terminal with
      | number value => exact absurd terminal (noNumber value)
      | opening => exact absurd terminal noOpening
      | operator | closing | stop | foreign => simp [Flat.step, terminal]
    rw [State.flat, rejected]
    refine .settle (Flat.Verdict.allows_rejected ?_ .operandExpected rfl)
    rintro ⟨_, long⟩
    obtain ⟨value, terminal⟩ := long.terminal
    exact noNumber value terminal
  | additive terminal | multiplicative terminal =>
    simp only [Flat.step, State.flat, terminal]
    exact .read _
  | closing terminal =>
    simp only [Flat.step, State.flat, terminal, List.length_cons]
    exact .read _
  | closingByZero terminal =>
    simp only [Flat.step, State.flat, terminal, List.length_cons]
    exact .divisionByZero _
  | @answer sum product refuses =>
    refine mirrors_answer _ fun op terminal => ?_
    simp [Rule.takes] at refuses
    exact refuses op terminal
  | @unclosed sum product level outer noOperator noClosing =>
    have rejected : Flat.step token (.holding (outer.length + 1)) =
        .settle (.rejected (outer.length + 1) .unmatchedParenthesis) := by
      cases terminal : token.terminal with
      | operator op => exact absurd terminal (noOperator op)
      | closing => exact absurd terminal noClosing
      | number | opening | stop | foreign => simp [Flat.step, terminal]
    rw [State.flat, List.length_cons, rejected]
    exact .settle (Flat.Verdict.allows_rejected (by simp) .closingExpected rfl)

/-- The scan of tokens that an end mark closes comes to a verdict. -/
theorem exists_verdict {tokens : List Token} (terminated : isTerminated tokens = true)
    (state : Flat.State) (cursor : Nat) :
    ∃ verdict count, Flat.scanFrom state cursor tokens = some (verdict, cursor + count) := by
  induction tokens generalizing state cursor with
  | nil => simp [isTerminated] at terminated
  | cons token rest ih =>
    cases here : Flat.step token state with
    | read next =>
      have rested := isTerminated_of_cons terminated (Flat.terminal_ne_stop_of_read here)
      obtain ⟨verdict, count, found⟩ := ih rested next (cursor + 1)
      refine ⟨verdict, count + 1, ?_⟩
      simp only [Flat.scanFrom, here, found, Nat.add_assoc, Nat.add_comm 1]
    | settle verdict => exact ⟨verdict, 0, by simp [Flat.scanFrom, here]⟩

/-- The end of a run whose scan gives a verdict in front of a token at some place. -/
def Agrees (found? : Option Token) (verdict : Flat.Verdict) (place : Nat) (outcome : Outcome) :
    Prop :=
  (outcome.cursor = place ∧ ∃ token, found? = some token ∧ verdict.Allows token outcome.result) ∨
    (outcome.cursor ≤ place ∧ outcome.result = .error .divisionByZero)

theorem runFrom_agrees {tokens : List Token} {verdict : Flat.Verdict} {state : State}
    {cursor count : Nat}
    (found : Flat.scanFrom state.flat cursor tokens = some (verdict, cursor + count)) :
    Agrees tokens[count]? verdict (cursor + count) (runFrom .whole none state cursor tokens) := by
  induction tokens generalizing state cursor count with
  | nil => simp [Flat.scanFrom] at found
  | cons token rest ih =>
    have mirrors := step_mirrors token state
    generalize here : step .whole none token state = moved at mirrors
    generalize there : Flat.step token state.flat = move at mirrors
    cases mirrors with
    | settle allows =>
      simp only [Flat.scanFrom, there, Option.some.injEq, Prod.mk.injEq] at found
      obtain ⟨rfl, place⟩ := found
      obtain rfl : count = 0 := by omega
      rw [runFrom, here]
      exact Or.inl ⟨rfl, token, rfl, allows⟩
    | divisionByZero next =>
      simp only [Flat.scanFrom, there] at found
      have later := Flat.le_of_scanFrom found
      rw [runFrom, here]
      exact Or.inr ⟨later, rfl⟩
    | read next =>
      simp only [Flat.scanFrom, there] at found
      have later := Flat.le_of_scanFrom found
      obtain ⟨fewer, rfl⟩ : ∃ fewer, count = fewer + 1 := ⟨count - 1, by omega⟩
      have place : cursor + (fewer + 1) = cursor + 1 + fewer := by omega
      rw [place] at found
      rw [List.getElem?_cons_succ, place, runFrom, here]
      exact ih found

/-- A run that an end mark closes divides by zero, or it ends in front of a token that the scan
settles on, having read all that stands before. -/
theorem run_ends {tokens : List Token} (terminated : isTerminated tokens = true) :
    (run .whole none tokens).result = .error .divisionByZero ∨
      ∃ front token back last verdict, tokens = front ++ token :: back ∧
        (run .whole none tokens).cursor = front.length ∧
        Flat.readAll? (.expecting 0) front = some last ∧
        Flat.step token last = .settle verdict ∧
        verdict.Allows token (run .whole none tokens).result := by
  obtain ⟨verdict, count, found⟩ := exists_verdict terminated (.expecting 0) 0
  have agrees : Agrees tokens[count]? verdict (0 + count) (run .whole none tokens) :=
    runFrom_agrees found
  rcases agrees with ⟨place, token, met, allows⟩ | ⟨_, byZero⟩
  · obtain ⟨front, other, back, last, rfl, same, read, settled⟩ := Flat.readAll?_of_scanFrom found
    obtain rfl : count = front.length := by omega
    obtain rfl : other = token := by simpa using met
    rw [Nat.zero_add] at place
    exact Or.inr ⟨front, other, back, last, verdict, rfl, place, read, settled, allows⟩
  · exact Or.inl byZero

/-- It takes a division sign in front of the verdict to divide by zero. -/
theorem exists_division_of_agrees {tokens : List Token} {verdict : Flat.Verdict} {index : Nat}
    (agrees : Agrees tokens[index]? verdict index (run .whole none tokens))
    (failed : (run .whole none tokens).result = .error .divisionByZero) :
    ∃ token ∈ tokens.take index, token.IsDivision := by
  have within : (run .whole none tokens).cursor ≤ 0 + index := by
    rw [Nat.zero_add]
    rcases agrees with ⟨same, _⟩ | ⟨before, _⟩
    · exact same.le
    · exact before
  have free : State.start.DivisionFree := by
    simp [State.DivisionFree, State.start]
  exact exists_division_of_runFrom free failed within

end Evaluation

end Reckoner
