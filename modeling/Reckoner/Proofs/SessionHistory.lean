import Reckoner.Proofs.Canonical
import Reckoner.Proofs.SessionRun

namespace Reckoner.Session

/-- What is done in a run, each time with the session that it is done at. -/
def journal (session : Session) : List Step → List (Session × Step)
  | [] => []
  | step :: rest =>
    (session, step) :: (session.after step.stack step.limits step.input).journal rest

/-- What an action evaluates to a result, as it is displayed. -/
def evaluation? (stack : Stack) (limits : Limits) (session : Session) : Action → Option Entry
  | .equals =>
    match calculate stack limits session.expression with
    | .ok (.result value) => some ⟨display session.expression, value⟩
    | _ => none
  | _ => none

/-- All that was evaluated to a result since the history was last forgotten, newest first. -/
def evaluations (visits : List (Session × Step)) : List Entry :=
  (visits.reverse.takeWhile fun visit => visit.2.input.action? != some .forget).filterMap
    fun visit => visit.2.input.action?.bind (visit.1.evaluation? visit.2.stack visit.2.limits)

theorem journal_append_singleton (session : Session) (steps : List Step) (step : Step) :
    session.journal (steps ++ [step]) = session.journal steps ++ [(session.run steps, step)] := by
  induction steps generalizing session with
  | nil => rfl
  | cons first rest ih => simp only [List.cons_append, journal, run, ih]

theorem evaluations_append_singleton (visits : List (Session × Step)) (session : Session)
    (step : Step) :
    evaluations (visits ++ [(session, step)]) =
      if step.input.action? = some .forget then []
      else (step.input.action?.bind (session.evaluation? step.stack step.limits)).toList ++
        evaluations visits := by
  rw [evaluations, List.reverse_append, List.reverse_singleton, List.singleton_append,
    List.takeWhile_cons]
  by_cases forgets : step.input.action? = some .forget
  · simp [forgets]
  · have evaluated : (step.input.action? != some .forget) = true := bne_iff_ne.mpr forgets
    rw [if_neg forgets, if_pos evaluated, List.filterMap_cons, ← evaluations]
    cases step.input.action?.bind (session.evaluation? step.stack step.limits) <;> rfl

variable {stack : Stack} {limits : Limits} {session next : Session} {action : Action}

theorem evaluation?_of_error {verdict : Verdict} {kind : ErrorKind}
    (calculated : calculate stack limits session.expression = .ok verdict)
    (rejected : verdict.error? = some kind) :
    session.evaluation? stack limits .equals = none := by
  rw [evaluation?, calculated]
  cases verdict <;> cases rejected <;> rfl

/-- Only evaluations to a result and forgetting touch the history. -/
theorem history_of_change (change : Change stack limits session action next) :
    next.history =
      if action = .forget then []
      else
        match session.evaluation? stack limits action with
        | some entry => (entry :: session.history).take limits.historyCount
        | none => session.history := by
  cases change with
  | evaluated _ calculated => simp [evaluation?, calculated, showResult]
  | failed _ calculated rejected => simp [evaluation?_of_error calculated rejected, showError]
  | idle blank =>
    have calculated : calculate stack limits session.expression =
        .ok (.rejected .emptyExpression) := by
      rw [blank]
      rfl
    simp [evaluation?_of_error calculated rfl]
  | typed | begun | carried | refused | ignored | cleared | dismissed | shortened | forgotten => rfl

theorem calculate_of_evaluation? {entry : Entry}
    (found : session.evaluation? stack limits action = some entry) :
    action = .equals ∧ entry.expression = display session.expression ∧
      calculate stack limits session.expression = .ok (.result entry.result) := by
  cases action with
  | equals =>
    simp only [evaluation?] at found
    split at found
    · rename_i value calculated
      cases found
      exact ⟨rfl, rfl, calculated⟩
    · cases found
  | press | clear | delete | forget => cases found

/-- What ends with a fault is neither an evaluation to a result nor forgetting. -/
theorem evaluation?_of_fault {fault : Fault}
    (failed : session.perform stack limits action = .error fault) :
    action ≠ .forget ∧ session.evaluation? stack limits action = none := by
  constructor
  · rintro rfl
    cases failed
  · rw [Option.eq_none_iff_forall_ne_some]
    intro entry found
    obtain ⟨rfl, _, calculated⟩ := calculate_of_evaluation? found
    have typed : session.expression ≠ [] := by
      intro blank
      rw [blank] at calculated
      cases calculated
    cases failed.symm.trans (equals_of_result typed calculated)

theorem history_after {past : List Entry} (step : Step)
    (kept : session.history = past.take step.limits.historyCount) :
    (session.after step.stack step.limits step.input).history =
      (if step.input.action? = some .forget then []
        else
          (step.input.action?.bind (session.evaluation? step.stack step.limits)).toList ++ past).take
        step.limits.historyCount := by
  -- The entries that were cut off stand too far back to be among the first after a push.
  have pushed (entry : Entry) : (entry :: session.history).take step.limits.historyCount =
      (entry :: past).take step.limits.historyCount := by
    rw [kept]
    cases step.limits.historyCount <;> simp [List.take_take]
  unfold after
  rw [receive_eq]
  cases meant : step.input.action? with
  | none => simpa using kept
  | some action =>
    cases performed : session.perform step.stack step.limits action with
    | error fault =>
      obtain ⟨stays, missing⟩ := evaluation?_of_fault performed
      simp [performed, stays, missing, kept]
    | ok next =>
      have history := history_of_change (change_of_perform performed)
      simp only [performed, history, Option.bind_some, Option.some.injEq]
      by_cases forgets : action = .forget
      · simp [forgets]
      · rw [if_neg forgets, if_neg forgets]
        cases found : session.evaluation? step.stack step.limits action with
        | none => simpa [found] using kept
        | some entry => simpa [found] using pushed entry

/-- Under limits that stay as they are, the history is the beginning of the list of evaluations. -/
theorem history_reached_under (limits : Limits) (inputs : List (Stack × Input)) :
    (reached (under limits inputs)).history =
      (evaluations (({} : Session).journal (under limits inputs))).take limits.historyCount := by
  -- By the input that was given last, since the history grows where the run ends.
  induction inputs using List.reverseRecOn with
  | nil => simp [under, reached, run, journal, evaluations]
  | append_singleton inputs input ih =>
    have split : under limits (inputs ++ [input]) =
        under limits inputs ++ [⟨input.1, limits, input.2⟩] :=
      under_append limits inputs [input]
    rw [split, journal_append_singleton, evaluations_append_singleton, reached, run_append]
    exact history_after ⟨input.1, limits, input.2⟩ ih

/-- What is remembered was calculated, and its display with it, on a stack that an input met. -/
theorem exists_stack_of_mem_history (limits : Limits) (inputs : List (Stack × Input)) :
    ∀ entry ∈ (reached (under limits inputs)).history, ∃ input ∈ inputs,
      calculate input.1 limits entry.expression = .ok (.result entry.result) := by
  refine run_induction (P := fun session => ∀ entry ∈ session.history, ∃ input ∈ inputs,
    calculate input.1 limits entry.expression = .ok (.result entry.result)) (by simp)
    fun step member {before action after} replays change => ?_
  obtain ⟨input, given, rfl⟩ := List.mem_map.mp member
  rw [history_of_change change]
  by_cases forgets : action = .forget
  · simp [forgets]
  · rw [if_neg forgets]
    cases found : before.evaluation? input.1 limits action with
    | none => simpa only [found] using replays
    | some entry =>
      obtain ⟨_, shown, calculated⟩ := calculate_of_evaluation? found
      intro other member
      rcases List.mem_cons.mp (List.mem_of_mem_take member) with rfl | older
      · exact ⟨input, given, by rw [shown, calculate_display, calculated]⟩
      · exact replays other older

/-- Under limits that stay as they are, the history is the beginning of the list of all evaluations
to a result since it was last forgotten, and each entry can be calculated again from its display:
on every stack with as much room as the one that it was evaluated on, and on all stacks if it nests
at most 300 levels deep. -/
theorem history_is_start_of_evaluations (limits : Limits) (inputs : List (Stack × Input)) :
    let steps := under limits inputs
    (reached steps).history =
        (evaluations (({} : Session).journal steps)).take limits.historyCount ∧
      ∀ entry ∈ (reached steps).history, ∃ input ∈ inputs,
        ∀ stack : Stack, entry.expression.NestsWithin 300 ∨ input.1.room ≤ stack.room →
          calculate stack limits entry.expression = .ok (.result entry.result) := by
  refine ⟨history_reached_under limits inputs, fun entry member => ?_⟩
  obtain ⟨input, given, calculated⟩ := exists_stack_of_mem_history limits inputs entry member
  refine ⟨input, given, fun stack enough => ?_⟩
  rcases enough with nests | roomier
  · rw [← calculated, calculate_of_shallow input.1 stack limits nests]
  · exact calculate_of_roomier roomier calculated

end Reckoner.Session
