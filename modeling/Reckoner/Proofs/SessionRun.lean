import Reckoner.Proofs.KeyedText
import Reckoner.Session

namespace Reckoner

/-- An action at the keypad, or a key of the keyboard. -/
inductive Input
  | action (action : Action)
  | key (key : Text)
  deriving DecidableEq

/-- The action that is meant, if there is one. -/
def Input.action? : Input → Option Action
  | action a => some a
  | key k => Action.ofKey? k

namespace Session

def receive (stack : Stack) (limits : Limits) (session : Session) : Input → Except Fault Session
  | .action action => session.perform stack limits action
  | .key key => session.pressKey stack limits key

/-- The session after an input. A fault leaves the session as it was. -/
def after (stack : Stack) (limits : Limits) (session : Session) (input : Input) : Session :=
  match session.receive stack limits input with
  | .ok next => next
  | .error _ => session

/-- An input with the stack that it meets and the limits that hold while it is received. -/
structure Step where
  stack : Stack
  limits : Limits
  input : Input

def run (session : Session) : List Step → Session
  | [] => session
  | step :: rest => (session.after step.stack step.limits step.input).run rest

/-- The session that a user gets to from the empty one. -/
def reached (steps : List Step) : Session :=
  ({} : Session).run steps

/-- The steps of one user who never changes the limits. -/
def under (limits : Limits) (inputs : List (Stack × Input)) : List Step :=
  inputs.map fun (stack, input) => ⟨stack, limits, input⟩

/-- Inputs that all meet the same stack. -/
def atop (stack : Stack) (inputs : List Input) : List (Stack × Input) :=
  inputs.map (stack, ·)

theorem under_append (limits : Limits) (front back : List (Stack × Input)) :
    under limits (front ++ back) = under limits front ++ under limits back :=
  List.map_append

theorem atop_append (stack : Stack) (front back : List Input) :
    atop stack (front ++ back) = atop stack front ++ atop stack back :=
  List.map_append

/-- The keys of a text, one after the other. -/
def keys (t : Text) : List Input :=
  t.map fun c => .action (.press [c])

theorem run_append (session : Session) (front back : List Step) :
    session.run (front ++ back) = (session.run front).run back := by
  induction front generalizing session with
  | nil => rfl
  | cons step rest ih => exact ih _

theorem limits_of_mem_under {limits : Limits} {inputs : List (Stack × Input)} {step : Step}
    (member : step ∈ under limits inputs) : step.limits = limits := by
  obtain ⟨input, _, rfl⟩ := List.mem_map.mp member
  rfl

theorem exists_singleton_of_accepts {current symbol : Text}
    (accepted : accepts current symbol = true) : ∃ c, symbol = [c] := by
  unfold accepts at accepted
  split at accepted
  · exact ⟨_, rfl⟩
  · cases accepted

/-- The ways in which an action can change a session. -/
inductive Change (stack : Stack) (limits : Limits) (session : Session) : Action → Session → Prop
  | typed {c : Char} : session.result = none → accepts session.expression [c] = true →
      Change stack limits session (.press [c])
        { session with expression := session.expression ++ [c], error := none }
  | begun {c : Char} {result : Int} : session.result = some result → accepts [] [c] = true →
      Change stack limits session (.press [c])
        { session with expression := [c], result := none, error := none }
  | carried {c : Char} {result : Int} {shown : Text} : session.result = some result →
      Numeral.text? result = some shown → accepts [] [c] = false → accepts shown [c] = true →
      Change stack limits session (.press [c])
        { session with expression := shown ++ [c], result := none, error := none }
  | refused {symbol : Text} : session.result = none → accepts session.expression symbol = false →
      Change stack limits session (.press symbol) { session with error := none }
  | ignored {symbol : Text} {result : Int} {shown : Text} : session.result = some result →
      Numeral.text? result = some shown → accepts [] symbol = false →
      accepts shown symbol = false →
      Change stack limits session (.press symbol) { session with error := none }
  | idle : session.expression = [] → Change stack limits session .equals session
  | evaluated {value : Int} : session.expression ≠ [] →
      calculate stack limits session.expression = .ok (.result value) →
      Change stack limits session .equals (session.showResult limits value)
  | failed {verdict : Verdict} {kind : ErrorKind} : session.expression ≠ [] →
      calculate stack limits session.expression = .ok verdict → verdict.error? = some kind →
      Change stack limits session .equals (session.showError kind)
  | cleared : Change stack limits session .clear session.clear
  | dismissed {result : Int} : session.result = some result →
      Change stack limits session .delete { session with result := none, error := none }
  | shortened : session.result = none →
      Change stack limits session .delete
        { session with expression := session.expression.dropLast, error := none }
  | forgotten : Change stack limits session .forget session.forget

variable {stack : Stack} {limits : Limits} {session next : Session}

theorem change_of_press {symbol : Text} (pressed : session.press symbol = .ok next) :
    Change stack limits session (.press symbol) next := by
  unfold press at pressed
  split at pressed
  · rename_i typing
    cases pressed
    split
    · rename_i accepted
      obtain ⟨c, rfl⟩ := exists_singleton_of_accepts accepted
      exact .typed typing accepted
    · rename_i notAccepted
      exact .refused typing (Bool.eq_false_iff.mpr notAccepted)
  · rename_i result showing
    split at pressed
    · cases pressed
    · rename_i shown written
      split at pressed
      · rename_i accepted
        cases pressed
        obtain ⟨c, rfl⟩ := exists_singleton_of_accepts accepted
        exact .begun showing accepted
      · rename_i notFirst
        have notBegun := Bool.eq_false_iff.mpr notFirst
        split at pressed
        · rename_i accepted
          cases pressed
          obtain ⟨c, rfl⟩ := exists_singleton_of_accepts accepted
          exact .carried showing written notBegun accepted
        · rename_i notCarried
          cases pressed
          exact .ignored showing written notBegun (Bool.eq_false_iff.mpr notCarried)

theorem change_of_equals (evaluated : session.equals stack limits = .ok next) :
    Change stack limits session .equals next := by
  unfold equals at evaluated
  split at evaluated
  · rename_i blank
    cases evaluated
    exact .idle (List.isEmpty_iff.mp blank)
  · rename_i filled
    have typed : session.expression ≠ [] := by simpa using filled
    cases calculated : calculate stack limits session.expression with
    | error fault => simp [calculated, bind, Except.bind] at evaluated
    | ok verdict =>
      rw [calculated] at evaluated
      cases verdict with
      | result value =>
        cases evaluated
        exact .evaluated typed calculated
      | rejected kind | failed kind message | tooLong value =>
        cases evaluated
        exact .failed typed calculated rfl

theorem equals_of_result {value : Int} (typed : session.expression ≠ [])
    (calculated : calculate stack limits session.expression = .ok (.result value)) :
    session.equals stack limits = .ok (session.showResult limits value) := by
  rw [equals, if_neg (by simpa using typed), calculated]
  rfl

theorem equals_of_error {verdict : Verdict} {kind : ErrorKind} (typed : session.expression ≠ [])
    (calculated : calculate stack limits session.expression = .ok verdict)
    (rejected : verdict.error? = some kind) :
    session.equals stack limits = .ok (session.showError kind) := by
  rw [equals, if_neg (by simpa using typed), calculated]
  cases verdict <;> cases rejected <;> rfl

theorem equals_of_fault {fault : Fault} (typed : session.expression ≠ [])
    (failed : calculate stack limits session.expression = .error fault) :
    session.equals stack limits = .error fault := by
  rw [equals, if_neg (by simpa using typed), failed]
  rfl

/-- An evaluation fails only where the calculation does. -/
theorem calculate_of_equals_error {fault : Fault}
    (failed : session.equals stack limits = .error fault) :
    calculate stack limits session.expression = .error fault := by
  unfold equals at failed
  split at failed
  · cases failed
  · cases calculated : calculate stack limits session.expression with
    | error other =>
      rw [calculated] at failed
      cases failed
      rfl
    | ok verdict =>
      rw [calculated] at failed
      cases verdict <;> cases failed

/-- There are no other ways. -/
theorem change_of_perform {action : Action}
    (performed : session.perform stack limits action = .ok next) :
    Change stack limits session action next := by
  cases action with
  | press symbol => exact change_of_press performed
  | equals => exact change_of_equals performed
  | clear =>
    cases performed
    exact .cleared
  | delete =>
    cases performed
    unfold delete
    split
    · rename_i showing
      obtain ⟨result, shown⟩ := Option.isSome_iff_exists.mp showing
      exact .dismissed shown
    · rename_i typing
      exact .shortened (by simpa using typing)
  | forget =>
    cases performed
    exact .forgotten

theorem receive_eq (stack : Stack) (limits : Limits) (session : Session) (input : Input) :
    session.receive stack limits input =
      match input.action? with
      | some action => session.perform stack limits action
      | none => .ok session := by
  cases input with
  | action action => rfl
  | key key =>
    cases meant : Action.ofKey? key <;> simp only [receive, pressKey, Input.action?, meant]

theorem after_of_perform {action : Action}
    (performed : session.perform stack limits action = .ok next) :
    session.after stack limits (.action action) = next := by
  simp only [after, receive, performed]

theorem shows_of_result {value : Int} (typed : session.expression ≠ [])
    (calculated : calculate stack limits session.expression = .ok (.result value)) :
    (session.after stack limits (.action .equals)).result = some value ∧
      (session.after stack limits (.action .equals)).error = none := by
  have performed : session.perform stack limits .equals = .ok (session.showResult limits value) :=
    equals_of_result typed calculated
  rw [after_of_perform performed]
  exact ⟨rfl, rfl⟩

theorem shows_of_error {verdict : Verdict} {kind : ErrorKind} (typed : session.expression ≠ [])
    (calculated : calculate stack limits session.expression = .ok verdict)
    (rejected : verdict.error? = some kind) :
    (session.after stack limits (.action .equals)).result = none ∧
      (session.after stack limits (.action .equals)).error = some kind := by
  have performed : session.perform stack limits .equals = .ok (session.showError kind) :=
    equals_of_error typed calculated rejected
  rw [after_of_perform performed]
  exact ⟨rfl, rfl⟩

/-- Keys that are accepted are added to the expression, and the first one takes the error away. -/
theorem run_keys (stack : Stack) (limits : Limits) {symbols : Text} (typing : session.result = none)
    (accepted : acceptsAll session.expression symbols = true) :
    session.run (under limits (atop stack (keys symbols))) =
      { session with
        expression := session.expression ++ symbols
        error := if symbols = [] then session.error else none } := by
  induction symbols generalizing session with
  | nil => simp [under, atop, keys, run]
  | cons c rest ih =>
    obtain ⟨here, later⟩ := Bool.and_eq_true_iff.mp accepted
    have pressed : session.after stack limits (.action (.press [c])) =
        { session with expression := session.expression ++ [c], error := none } := by
      simp [after, receive, perform, press, typing, here]
    have step : session.run (under limits (atop stack (keys (c :: rest)))) =
        (session.after stack limits (.action (.press [c]))).run
          (under limits (atop stack (keys rest))) := rfl
    have others := @ih { session with expression := session.expression ++ [c], error := none }
      typing later
    rw [step, pressed, others]
    simp only [List.append_assoc, List.singleton_append, ite_self, reduceCtorEq, if_false]

/-- An input either changes the session as its action can, or not at all. -/
theorem after_cases (stack : Stack) (limits : Limits) (session : Session) (input : Input) :
    session.after stack limits input = session ∨
      ∃ action, input.action? = some action ∧
        Change stack limits session action (session.after stack limits input) := by
  unfold after
  cases received : session.receive stack limits input with
  | error fault => exact Or.inl rfl
  | ok next =>
    rw [receive_eq] at received
    cases meant : input.action? with
    | none =>
      rw [meant] at received
      cases received
      exact Or.inl rfl
    | some action =>
      rw [meant] at received
      exact Or.inr ⟨action, rfl, change_of_perform received⟩

/-- What every change keeps is kept by a run. -/
theorem run_induction {P : Session → Prop} {steps : List Step} (start : P session)
    (keeps : ∀ step ∈ steps, ∀ {before action after}, P before →
      Change step.stack step.limits before action after → P after) : P (session.run steps) := by
  induction steps generalizing session with
  | nil => exact start
  | cons step rest ih =>
    refine ih ?_ fun later member => keeps later (List.mem_cons_of_mem _ member)
    rcases after_cases step.stack step.limits session step.input with same | ⟨action, _, change⟩
    · rw [same]
      exact start
    · exact keeps step (List.mem_cons_self ..) start change

end Session

end Reckoner
