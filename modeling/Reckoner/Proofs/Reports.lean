import Reckoner.Proofs.Validity

namespace Reckoner

variable {stack : Stack}

namespace Evaluation

variable {rule : Rule} {limit : Option Nat} {token : Token} {state : State} {fault : Fault}

/-- The kinds of error that the grammar and its operations know. -/
def Reports (kind : ErrorKind) : Prop :=
  kind = .malformedExpression ∨ kind = .unmatchedParenthesis ∨ kind = .divisionByZero

theorem reports_of_answer {value : Int} {kind : ErrorKind}
    (answered : rule.answer value token = .error fault) (known : fault.kind? = some kind) :
    Reports kind := by
  unfold Rule.answer at answered
  split at answered
  · split at answered
    · cases answered
      cases known
      exact Or.inl rfl
    · cases answered
      cases known
  · cases answered

theorem reports_of_stop {kind : ErrorKind}
    (stopped : step rule limit token state = .stop (.error fault))
    (known : fault.kind? = some kind) : Reports kind := by
  have transition := step_transition rule limit token state
  rw [stopped] at transition
  generalize ended : Except.error fault = result at transition
  cases transition with
  | answer => exact reports_of_answer ended.symm known
  | unexpected =>
    cases ended
    cases known
    exact Or.inl rfl
  | unclosed =>
    cases ended
    cases known
    exact Or.inr (Or.inl rfl)

theorem reports_of_fail {kind : ErrorKind} (failed : step rule limit token state = .fail fault)
    (known : fault.kind? = some kind) : Reports kind := by
  have transition := step_transition rule limit token state
  rw [failed] at transition
  cases transition with
  | numberByZero | closingByZero =>
    cases known
    exact Or.inr (Or.inr rfl)
  | tooDeep _ _ cut =>
    subst cut
    cases rule with
    | whole =>
      cases known
      exact Or.inl rfl
    | expression | term | factor => cases known

theorem reports_of_runFrom {cursor : Nat} {tokens : List Token} {kind : ErrorKind}
    (failed : (runFrom rule limit state cursor tokens).result = .error fault)
    (known : fault.kind? = some kind) : Reports kind := by
  induction tokens generalizing state cursor with
  | nil =>
    cases failed
    cases known
  | cons token rest ih =>
    cases here : step rule limit token state with
    | read next =>
      simp only [runFrom, here] at failed
      exact ih failed
    | stop result =>
      simp only [runFrom, here] at failed
      rw [failed] at here
      exact reports_of_stop here known
    | fail other =>
      simp only [runFrom, here, Except.error.injEq] at failed
      rw [failed] at here
      exact reports_of_fail here known

end Evaluation

/-- Tokens that were made are evaluated with one of the errors of the grammar or with none. -/
theorem reports_of_valueOf {t : Text} {tokens : List Token} {fault : Fault} {kind : ErrorKind}
    (made : Token.ofText t = .ok tokens) (failed : valueOf stack t = .error fault)
    (known : fault.kind? = some kind) : Evaluation.Reports kind := by
  have evaluated : evaluateTokens stack tokens = .error fault := by
    rw [← failed, valueOf, made]
    rfl
  unfold evaluateTokens Evaluation.Rule.evaluate at evaluated
  split at evaluated
  · exact Evaluation.reports_of_runFrom evaluated known
  · cases evaluated
    cases known
    exact Or.inl rfl

/-- The flaws of a text, each with what it says of the text. A later one is found only where the
earlier ones are not. -/
inductive Flawed (t : Text) : ErrorKind → Prop
  | unbalanced : isBalanced t = false → Flawed t .unbalancedParentheses
  | leading : t.head?.any isOperator = true → Flawed t .leadingOperator
  | consecutive {a b : Char} : t.head?.any isOperator = false → (a, b) ∈ neighbours t →
      isOperator a = true → isOperator b = true → Flawed t .consecutiveOperators
  | trailing : t.getLast?.any isOperator = true → Flawed t .trailingOperator
  | hollow : t.head?.any isOperator = false → ('(', ')') ∈ neighbours t → Flawed t .emptyParentheses
  | empty : t = [] → Flawed t .emptyExpression

theorem flawed_of_flaw? {t : Text} {kind : ErrorKind} (found : flaw? t = some kind) :
    Flawed t kind := by
  unfold flaw? at found
  split at found
  · rename_i unbalanced
    cases found
    exact .unbalanced (by simpa using unbalanced)
  · split at found
    · rename_i leading
      cases found
      exact .leading leading
    · rename_i head
      have notLeading : t.head?.any isOperator = false := Bool.eq_false_iff.mpr head
      split at found
      · rename_i consecutive
        cases found
        obtain ⟨⟨a, b⟩, member, both⟩ := List.any_eq_true.mp consecutive
        rw [Bool.and_eq_true] at both
        exact .consecutive notLeading member both.1 both.2
      · split at found
        · rename_i trailing
          cases found
          exact .trailing trailing
        · split at found
          · rename_i hollow
            cases found
            exact .hollow notLeading (List.contains_iff_mem.mp hollow)
          · split at found
            · rename_i empty
              cases found
              exact .empty (List.isEmpty_iff.mp empty)
            · cases found

/-- Where the error of a calculation comes from. -/
theorem error_of_calculate {limits : Limits} {t : Text} {verdict : Verdict} {kind : ErrorKind}
    (calculated : calculate stack limits t = .ok verdict) (rejected : verdict.error? = some kind) :
    Flawed t.canonical kind ∨ (∃ fault, valueOf stack t = .error fault ∧ fault.kind? = some kind) ∨
      kind = .digitLimitExceeded := by
  have ways := calculate_calculated stack limits t
  rw [calculated] at ways
  cases ways with
  | rejected found =>
    cases rejected
    exact Or.inl (flawed_of_flaw? found)
  | @failed fault _ _ failed known =>
    cases rejected
    exact Or.inr (Or.inl ⟨fault, failed, known⟩)
  | result => cases rejected
  | tooLong =>
    cases rejected
    exact Or.inr (Or.inr rfl)

/-- A run that an end mark closes ends with a fault of a kind, or because a number has to be
written out and is too long. -/
theorem eq_unwritable_of_run {tokens : List Token} {fault : Fault}
    (terminated : Evaluation.isTerminated tokens = true)
    (failed : (Evaluation.run .whole none tokens).result = .error fault)
    (unknown : fault.kind? = none) : fault = .unwritable := by
  rcases Evaluation.run_ends terminated with byZero | ⟨_, _, _, _, verdict, _, _, _, _, allows⟩
  · cases failed.symm.trans byZero
    cases unknown
  · cases verdict with
    | accepted =>
      obtain ⟨value, valued⟩ := allows
      cases failed.symm.trans valued
    | rejected depth kind =>
      rcases allows with ⟨_, _, long⟩ | ⟨_, other, _, known, blamed⟩
      · cases failed.symm.trans long
        rfl
      · cases failed.symm.trans blamed
        cases unknown.symm.trans known

theorem eq_unwritable_of_valueOf {t : Text} {fault : Fault}
    (failed : valueOf stack t = .error fault)
    (unknown : fault.kind? = none) : fault = .unwritable := by
  rcases Token.ofText_cases t with ⟨tokens, cut⟩ | ⟨front, c, rest, _, _, _, refused⟩
  · have terminated := Evaluation.isTerminated_marked tokens t.withoutBlanks.length
    rw [valueOf_of_cut cut] at failed
    rcases Evaluation.runFrom_limited .whole (some stack.room) .start 0
      (tokens ++ [Token.mark t.withoutBlanks.length]) with same | deep
    · rw [Evaluation.run, same] at failed
      exact eq_unwritable_of_run terminated failed unknown
    · cases failed.symm.trans deep
      cases unknown
  · rw [valueOf, refused] at failed
    cases failed
    cases unknown

/-- A calculation lets out the faults of the evaluation that have no kind. -/
theorem valueOf_of_calculate_error {limits : Limits} {t : Text} {fault : Fault}
    (failed : calculate stack limits t = .error fault) :
    validate t = none ∧ valueOf stack t = .error fault ∧ fault.kind? = none := by
  have ways := calculate_calculated stack limits t
  rw [failed] at ways
  cases ways with
  | letOut valid valued unknown => exact ⟨valid, valued, unknown⟩

/-- There is only one such fault. -/
theorem eq_unwritable_of_calculate {limits : Limits} {t : Text} {fault : Fault}
    (failed : calculate stack limits t = .error fault) : fault = .unwritable := by
  obtain ⟨_, valued, unknown⟩ := valueOf_of_calculate_error failed
  exact eq_unwritable_of_valueOf valued unknown

/-- A result is never longer than the limits allow. -/
theorem fits_of_calculate {limits : Limits} {t : Text} {value : Int}
    (calculated : calculate stack limits t = .ok (.result value)) :
    Numeral.fits value limits.maxDigits = true := by
  have ways := calculate_calculated stack limits t
  rw [calculated] at ways
  cases ways with
  | result _ _ fits => exact fits

end Reckoner
