import Reckoner.Proofs.SessionExpression

namespace Reckoner

variable {stack : Stack}

/-- A number, if an operand is to come. -/
def Text.missingOperand (t : Text) : Text :=
  if t.getLast?.all awaitsOperand then ['1'] else []

/-- A closing parenthesis for each that is open. -/
def Text.missingClosings (t : Text) : Text :=
  List.replicate (t.count '(' - t.count ')') ')'

/-- The keys that finish an expression. -/
def Text.completion (t : Text) : Text :=
  t.missingOperand ++ t.missingClosings

namespace Keyed

variable {t : Text}

theorem any_endsOperand_of_all_awaitsOperand (keyed : Keyed t)
    (ended : t.getLast?.all awaitsOperand = false) : t.getLast?.any endsOperand = true := by
  cases shown : t.getLast? with
  | none =>
    rw [shown] at ended
    cases ended
  | some last =>
    have known := known_of_isKey (keyed.isKey_of_mem last (List.mem_of_getLast? shown))
    rw [shown, Option.all_some, awaitsOperand_eq_not_endsOperand known] at ended
    simpa using ended

/-- An operand that is missing can be typed, and opens or closes nothing. -/
theorem supplied (keyed : Keyed t) :
    acceptsAll t t.missingOperand = true ∧ (t ++ t.missingOperand).getLast?.any endsOperand = true ∧
      ∀ c, c ≠ '1' → (t ++ t.missingOperand).count c = t.count c := by
  unfold Text.missingOperand
  split
  · refine ⟨by simp [acceptsAll, accepts, mayFollow], by simp [endsOperand], fun c other => ?_⟩
    rw [List.count_append, List.count_singleton, if_neg (by simpa using other.symm), Nat.add_zero]
  · next ended =>
    rw [List.append_nil]
    exact ⟨rfl, keyed.any_endsOperand_of_all_awaitsOperand (Bool.eq_false_iff.mpr ended),
      fun _ _ => rfl⟩

theorem completion_accepted (keyed : Keyed t) : acceptsAll t t.completion = true := by
  obtain ⟨accepted, ended, same⟩ := keyed.supplied
  have closings := same ')' (by decide)
  have openings := same '(' (by decide)
  have tally := keyed.count_le
  rw [Text.completion, acceptsAll_append, accepted, Bool.true_and]
  exact (keyed.append accepted).acceptsAll_closings ended (by omega)

/-- What is completed ends with an operand, and all its parentheses are closed. -/
theorem completed (keyed : Keyed t) :
    (t ++ t.completion).getLast?.any endsOperand = true ∧
      (t ++ t.completion).count '(' = (t ++ t.completion).count ')' := by
  obtain ⟨_, ended, same⟩ := keyed.supplied
  have closings := same ')' (by decide)
  have openings := same '(' (by decide)
  have tally := keyed.count_le
  rw [Text.completion, ← List.append_assoc]
  generalize t ++ t.missingOperand = supplied at ended closings openings ⊢
  constructor
  · unfold Text.missingClosings
    cases t.count '(' - t.count ')' with
    | zero => simpa using ended
    | succ number => simp [List.getLast?_append, List.getLast?_replicate, endsOperand]
  · have opened : t.missingClosings.count '(' = 0 := by
      rw [Text.missingClosings, List.count_replicate, if_neg (by decide)]
    have closed : t.missingClosings.count ')' = t.count '(' - t.count ')' :=
      List.count_replicate_self
    rw [List.count_append, List.count_append]
    omega

/-- No key closes a parenthesis that is not open, so the depth is what the tally says. -/
theorem finalDepth?_eq (keyed : Keyed t) :
    finalDepth? 0 t = some (t.count '(' - t.count ')') := by
  obtain ⟨depth, level⟩ : ∃ depth, finalDepth? 0 t = some depth := by
    induction keyed with
    | start => exact ⟨0, rfl⟩
    | @press t c before accepted ih =>
      obtain ⟨depth, level⟩ := ih
      rw [finalDepth?_append, level, Option.bind_some]
      by_cases closing : c = ')'
      · subst closing
        have room := count_lt_of_mayFollow (before.mayFollow_of_accepts accepted)
        have tally := count_of_finalDepth? level
        obtain ⟨less, rfl⟩ : ∃ less, depth = less + 1 := ⟨depth - 1, by omega⟩
        exact ⟨less, rfl⟩
      · by_cases opening : c = '('
        · subst opening
          exact ⟨depth + 1, rfl⟩
        · exact ⟨depth, by simp [finalDepth?, closing, opening]⟩
  have tally := count_of_finalDepth? level
  rw [level, Option.some.injEq]
  omega

theorem isFlawless (keyed : Keyed t) (ended : t.getLast?.any endsOperand = true)
    (closed : t.count '(' = t.count ')') : t.IsFlawless where
  balanced := by rw [keyed.finalDepth?_eq, closed, Nat.sub_self]
  noLeadingOperator := keyed.head?_any_isOperator
  noOperators := keyed.isOrderly.noOperators
  noTrailingOperator := getLast?_any_isOperator ended
  noEmptyParentheses := keyed.isOrderly.noEmptyParentheses
  filled := by
    rintro rfl
    cases ended

theorem validate_eq_none (keyed : Keyed t) (flawless : t.IsFlawless) : validate t = none := by
  rw [validate_eq_flaw?, Text.withoutBlanks_of_visible keyed.visible]
  exact flaw?_eq_none_iff.mpr flawless

/-- Of what the keypad lets pass, the grammar rejects only digits behind a closing parenthesis. -/
theorem typed (keyed : Keyed t) (apart : ∀ c, (')', c) ∈ neighbours t → c.isDigit = false) :
    Typed t := by
  induction keyed with
  | start => exact .start
  | @press t c _ accepted ih =>
    refine .press (ih fun other member => ?_) accepted ?_
    · exact apart other (mem_neighbours_append_singleton.mpr (Or.inl member))
    · rintro ⟨shown, digit⟩
      cases digit.symm.trans (apart c (mem_neighbours_append_singleton.mpr (Or.inr ⟨shown, rfl⟩)))

theorem isDerivable (keyed : Keyed t) (flawless : t.IsFlawless)
    (ended : t.getLast?.any endsOperand = true)
    (apart : ∀ c, (')', c) ∈ neighbours t → c.isDigit = false) : t.IsDerivable := by
  obtain ⟨chain, _⟩ := typed_iff_isOpenEnded.mp (keyed.typed apart)
  rw [Text.isDerivable_iff, Text.withoutBlanks_of_visible keyed.visible]
  exact ⟨chain, flawless.balanced, ended⟩

end Keyed

namespace Session

variable {session : Session}

/-- A result is on show, or one of the two errors that even what the grammar derives can have. -/
def ShowsAnswer (session : Session) : Prop :=
  (∃ value, session.result = some value ∧ session.error = none) ∨
    session.result = none ∧
      (session.error = some .divisionByZero ∨ session.error = some .digitLimitExceeded)

theorem exists_answer (stack : Stack) (limits : Limits) (derivable : session.expression.IsDerivable)
    (nests : session.expression.NestsWithin stack.room) :
    ∃ next, session.equals stack limits = .ok next ∧ next.ShowsAnswer := by
  have valid := validate_of_isDerivable derivable
  have typed : session.expression ≠ [] := by
    intro blank
    rw [blank] at valid
    cases valid
  rcases valueOf_of_isDerivable derivable nests with ⟨value, valued⟩ | byZero
  · have calculated := calculate_of_value limits valid valued
    cases fits : Numeral.fits value limits.maxDigits with
    | true =>
      rw [fits, if_pos rfl] at calculated
      exact ⟨_, equals_of_result typed calculated, Or.inl ⟨value, rfl, rfl⟩⟩
    | false =>
      rw [fits, if_neg Bool.false_ne_true] at calculated
      exact ⟨_, equals_of_error typed calculated rfl, Or.inr ⟨rfl, Or.inr rfl⟩⟩
  · have calculated := calculate_of_kind limits valid byZero rfl
    exact ⟨_, equals_of_error typed calculated rfl, Or.inr ⟨rfl, Or.inl rfl⟩⟩

/-- No expression without a sign is a dead end: the keys that are missing are accepted one after the
other, and they make it valid. Unless a digit stands right behind a closing parenthesis, or the
parentheses nest too deep, its evaluation then shows an answer. -/
theorem expression_can_be_finished {steps : List Step} (typing : (reached steps).result = none)
    (unsigned : (reached steps).expression.head? ≠ some '-') :
    let session := reached steps
    let missing := session.expression.completion
    acceptsAll session.expression missing = true ∧
      validate (session.expression ++ missing) = none ∧
      ∀ stack limits,
        let finished := session.run (under limits (atop stack (keys missing)))
        finished.expression = session.expression ++ missing ∧ finished.result = none ∧
          ((∀ c, (')', c) ∈ neighbours finished.expression → c.isDigit = false) →
            finished.expression.NestsWithin 300 →
            ∀ other, ∃ next, finished.equals other limits = .ok next ∧ next.ShowsAnswer) := by
  intro session missing
  have typed : Keyed session.expression := by
    have keyed := keyed_reached steps
    rwa [withoutSign_eq_self unsigned] at keyed
  have accepted : acceptsAll session.expression missing = true := typed.completion_accepted
  have keyed := typed.append accepted
  obtain ⟨ended, closed⟩ := typed.completed
  have flawless := keyed.isFlawless ended closed
  refine ⟨accepted, keyed.validate_eq_none flawless, fun stack limits => ?_⟩
  intro finished
  have pressed : finished = _ := run_keys stack limits typing accepted
  have shown : finished.expression = session.expression ++ missing := by rw [pressed]
  refine ⟨shown, by rw [pressed]; exact typing, fun apart nests other => ?_⟩
  rw [shown] at apart
  have derivable : finished.expression.IsDerivable := by
    rw [shown]
    exact keyed.isDerivable flawless ended apart
  exact exists_answer other limits derivable (nests.mono other.ample)

/-- What leads from the empty session to the product `2×(3-`, which is not finished. -/
def unfinished : List (Stack × Input) :=
  atop .shallow (keys ['2', '×', '(', '3', '-'])

theorem unfinished_can_be_finished :
    (reached (under {} unfinished)).result = none ∧
      (reached (under {} unfinished)).expression.head? ≠ some '-' ∧
      let finished :=
        (reached (under {} unfinished)).run (under {} (atop .shallow (keys ['1', ')'])))
      finished.expression = ['2', '×', '(', '3', '-', '1', ')'] ∧
        (∀ c, (')', c) ∈ neighbours finished.expression → c.isDigit = false) ∧
        finished.expression.NestsWithin 300 ∧
        ∃ next, finished.equals .shallow {} = .ok next ∧ next.ShowsAnswer := by
  have typing : (reached (under {} unfinished)).result = none := rfl
  have unsigned : (reached (under {} unfinished)).expression.head? ≠ some '-' := by decide
  have typed : (reached (under {} unfinished)).expression = ['2', '×', '(', '3', '-'] := rfl
  have missing : (reached (under {} unfinished)).expression.completion = ['1', ')'] := rfl
  obtain ⟨_, _, finishes⟩ := expression_can_be_finished typing unsigned
  obtain ⟨shown, _, answers⟩ := finishes .shallow {}
  rw [missing] at shown answers
  rw [typed] at shown
  refine ⟨typing, unsigned, shown, ?_⟩
  have apart : ∀ c, (')', c) ∈ neighbours
      ((reached (under {} unfinished)).run
        (under {} (atop .shallow (keys ['1', ')'])))).expression →
        c.isDigit = false := by
    intro c member
    rw [shown] at member
    simp [neighbours] at member
  have nests : ((reached (under {} unfinished)).run
      (under {} (atop .shallow (keys ['1', ')'])))).expression.NestsWithin 300 := by
    rw [shown]
    decide
  exact ⟨apart, nests, answers apart nests .shallow⟩

end Session

end Reckoner
