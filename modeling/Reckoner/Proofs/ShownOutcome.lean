import Reckoner.Proofs.Reports
import Reckoner.Proofs.SessionRun

namespace Reckoner

/-- The expression, the result and the error that a session may hold at one time. -/
inductive Shown (stack : Stack) (limits : Limits) :
    Text → Option Int → Option ErrorKind → Prop
  | typing {expression : Text} : Shown stack limits expression none none
  | result {expression : Text} {value : Int} : expression ≠ [] →
      calculate stack limits expression = .ok (.result value) →
      Shown stack limits expression (some value) none
  | discarded {kind : ErrorKind} : kind.discardsExpression = true →
      Shown stack limits [] none (some kind)
  | kept {expression : Text} {verdict : Verdict} {kind : ErrorKind} :
      kind.discardsExpression = false → expression ≠ [] →
      calculate stack limits expression = .ok verdict → verdict.error? = some kind →
      Shown stack limits expression none (some kind)

theorem ErrorKind.discardsExpression_iff {kind : ErrorKind} :
    kind.discardsExpression = true ↔ kind = .divisionByZero ∨ kind = .digitLimitExceeded := by
  cases kind <;> simp [discardsExpression]

namespace Shown

variable {stack : Stack} {limits : Limits} {expression : Text} {result : Option Int}
  {error : Option ErrorKind}

/-- An error can be taken off the display at any time. -/
theorem withoutError (shown : Shown stack limits expression result error) :
    Shown stack limits expression result none := by
  cases shown with
  | result typed calculated => exact .result typed calculated
  | typing | discarded | kept => exact .typing

theorem ofError {verdict : Verdict} {kind : ErrorKind} (typed : expression ≠ [])
    (calculated : calculate stack limits expression = .ok verdict)
    (rejected : verdict.error? = some kind) :
    Shown stack limits (if kind.discardsExpression then [] else expression) none (some kind) := by
  cases discards : kind.discardsExpression with
  | true => exact .discarded discards
  | false => exact .kept discards typed calculated rejected

theorem calculate_eq_of_result {value : Int}
    (shown : Shown stack limits expression (some value) error) :
    expression ≠ [] ∧ calculate stack limits expression = .ok (.result value) := by
  cases shown with
  | result typed calculated => exact ⟨typed, calculated⟩

theorem filled (shown : Shown stack limits expression result error) (some : result ≠ none) :
    expression ≠ [] := by
  cases shown with
  | result typed => exact typed
  | typing | discarded | kept => exact absurd rfl some

theorem eq_nil_iff {kind : ErrorKind} (shown : Shown stack limits expression result (some kind)) :
    expression = [] ↔ kind = .divisionByZero ∨ kind = .digitLimitExceeded := by
  rw [← ErrorKind.discardsExpression_iff]
  cases shown with
  | discarded discards => simp [discards]
  | kept stays typed => simp [stays, typed]

theorem calculate_of_error {kind : ErrorKind}
    (shown : Shown stack limits expression result (some kind)) (typed : expression ≠ []) :
    ∃ verdict, calculate stack limits expression = .ok verdict ∧ verdict.error? = some kind := by
  cases shown with
  | discarded => exact absurd rfl typed
  | kept _ _ calculated rejected => exact ⟨_, calculated, rejected⟩

end Shown

namespace Session

/-- What the session shows is what it may show on the stack and under the limits. -/
def IsSettled (stack : Stack) (limits : Limits) (session : Session) : Prop :=
  Shown stack limits session.expression session.result session.error

/-- After an action the display is settled as before or as the action settles it. -/
theorem IsSettled.change {here there : Stack} {limits others : Limits} {session next : Session}
    {action : Action} (settled : session.IsSettled here limits)
    (change : Change there others session action next) :
    next.IsSettled here limits ∨ next.IsSettled there others := by
  cases change with
  | evaluated typed calculated => exact Or.inr (.result typed calculated)
  | failed typed calculated rejected => exact Or.inr (Shown.ofError typed calculated rejected)
  | idle | forgotten => exact Or.inl settled
  | begun | carried | cleared | dismissed => exact Or.inl .typing
  | ignored => exact Or.inl (Shown.withoutError settled)
  | typed showing | refused showing | shortened showing =>
    rw [IsSettled, showing]
    exact Or.inl .typing

theorem isSettled_empty (stack : Stack) (limits : Limits) : ({} : Session).IsSettled stack limits :=
  .typing

/-- A session that is got to under changing limits is settled by some of them. -/
theorem exists_isSettled_reached (steps : List Step) :
    ∃ stack limits, (reached steps).IsSettled stack limits := by
  refine run_induction (P := fun session => ∃ stack limits, session.IsSettled stack limits)
    ⟨.shallow, {}, isSettled_empty _ {}⟩ fun step _ {_ _ _} settled change => ?_
  obtain ⟨stack, limits, settled⟩ := settled
  rcases settled.change change with same | same <;> exact ⟨_, _, same⟩

/-- Every result on show can be written out. -/
theorem text?_of_reached {steps : List Step} {result : Int}
    (showing : (reached steps).result = some result) :
    Numeral.text? result = some (Numeral.text result) := by
  obtain ⟨stack, limits, settled⟩ := exists_isSettled_reached steps
  rw [IsSettled, showing] at settled
  have fits := fits_of_calculate settled.calculate_eq_of_result.2
  have few := (Numeral.fits_iff limits.maxDigits_pos).mp fits
  exact Numeral.text?_of_digitCount_le (few.trans limits.maxDigits_le)

/-- Evaluating again what is on show changes nothing but the history. -/
theorem IsSettled.equals {stack : Stack} {limits : Limits} {session : Session}
    (settled : session.IsSettled stack limits)
    (showing : session.result ≠ none ∨ session.error ≠ none) :
    ∃ next, session.equals stack limits = .ok next ∧ next.expression = session.expression ∧
      next.result = session.result ∧ next.error = session.error := by
  obtain ⟨expression, result, error, history⟩ := session
  unfold IsSettled at settled
  cases settled with
  | typing => simp at showing
  | discarded => exact ⟨_, rfl, rfl, rfl, rfl⟩
  | result typed calculated => exact ⟨_, equals_of_result typed calculated, rfl, rfl, rfl⟩
  | kept stays typed calculated rejected =>
    exact ⟨_, equals_of_error typed calculated rejected, by simp [showError, stays], rfl, rfl⟩

end Session

end Reckoner
