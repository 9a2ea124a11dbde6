import Mathlib.Data.List.Forall2
import Reckoner.Proofs.SessionHistory

namespace Reckoner

/-- The length of the history does not matter to a calculation. -/
theorem calculate_congr {stack : Stack} {limits others : Limits}
    (same : limits.maxDigits = others.maxDigits) (t : Text) :
    calculate stack limits t = calculate stack others t := by
  unfold calculate
  rw [same]

namespace Session

/-- Sessions that may differ in what they remember only. -/
structure LooksLike (first second : Session) : Prop where
  expression : first.expression = second.expression
  result : first.result = second.result
  error : first.error = second.error

/-- The same fault, or sessions that look alike. -/
inductive EndAlike : Except Fault Session → Except Fault Session → Prop
  | fault (fault : Fault) : EndAlike (.error fault) (.error fault)
  | session {first second : Session} : first.LooksLike second → EndAlike (.ok first) (.ok second)

/-- The same input on the same stack, received under limits that may differ in the length of the
history only. -/
structure Step.Matches (step other : Step) : Prop where
  input : step.input = other.input
  stack : step.stack = other.stack
  maxDigits : step.limits.maxDigits = other.limits.maxDigits

variable {stack : Stack} {limits others : Limits} {first second : Session} {step other : Step}
  {steps counterparts : List Step}

theorem EndAlike.error_iff {ended counterpart : Except Fault Session}
    (alike : EndAlike ended counterpart) (fault : Fault) :
    ended = .error fault ↔ counterpart = .error fault := by
  cases alike with
  | fault => rfl
  | session => simp

theorem press_alike (alike : first.LooksLike second) (symbol : Text) :
    EndAlike (first.press symbol) (second.press symbol) := by
  unfold press
  rw [← alike.result, ← alike.expression]
  split
  · exact .session ⟨rfl, rfl, rfl⟩
  · split
    · exact .fault _
    · split
      · exact .session ⟨rfl, rfl, rfl⟩
      · split <;> exact .session ⟨rfl, rfl, rfl⟩

theorem equals_alike (same : limits.maxDigits = others.maxDigits)
    (alike : first.LooksLike second) :
    EndAlike (first.equals stack limits) (second.equals stack others) := by
  unfold equals
  rw [← alike.expression, calculate_congr same]
  split
  · exact .session alike
  · cases calculate stack others first.expression with
    | error fault => exact .fault fault
    | ok verdict =>
      cases verdict with
      | result value => exact .session ⟨alike.expression, rfl, rfl⟩
      | rejected kind | failed kind | tooLong =>
        refine .session ⟨?_, rfl, rfl⟩
        simp only [showError, alike.expression]

theorem perform_alike (same : limits.maxDigits = others.maxDigits)
    (alike : first.LooksLike second) (action : Action) :
    EndAlike (first.perform stack limits action) (second.perform stack others action) := by
  cases action with
  | press symbol => exact press_alike alike symbol
  | equals => exact equals_alike same alike
  | clear => exact .session ⟨rfl, rfl, rfl⟩
  | delete =>
    refine .session ?_
    unfold delete
    rw [← alike.result, ← alike.expression]
    split <;> exact ⟨rfl, rfl, rfl⟩
  | forget => exact .session ⟨alike.expression, alike.result, alike.error⟩

theorem receive_alike (matched : step.Matches other) (alike : first.LooksLike second) :
    EndAlike (first.receive step.stack step.limits step.input)
      (second.receive other.stack other.limits other.input) := by
  rw [receive_eq, receive_eq, ← matched.input, ← matched.stack]
  split
  · exact perform_alike matched.maxDigits alike _
  · exact .session alike

theorem after_alike (matched : step.Matches other) (alike : first.LooksLike second) :
    (first.after step.stack step.limits step.input).LooksLike
      (second.after other.stack other.limits other.input) := by
  have ended := receive_alike matched alike
  unfold after
  generalize first.receive step.stack step.limits step.input = here at ended
  generalize second.receive other.stack other.limits other.input = there at ended
  cases ended with
  | fault => exact alike
  | session later => exact later

theorem run_alike (matched : List.Forall₂ Step.Matches steps counterparts)
    (alike : first.LooksLike second) : (first.run steps).LooksLike (second.run counterparts) := by
  induction matched generalizing first second with
  | nil => exact alike
  | cons matched _ ih => exact ih (after_alike matched alike)

theorem evaluation?_alike (same : limits.maxDigits = others.maxDigits)
    (alike : first.LooksLike second) (action : Action) :
    first.evaluation? stack limits action = second.evaluation? stack others action := by
  unfold evaluation?
  rw [alike.expression, calculate_congr same]

/-- Two histories that are cut off one list are so after a step as well. -/
theorem histories_after {past : List Entry} (matched : step.Matches other)
    (alike : first.LooksLike second)
    (kept : first.history = past.take step.limits.historyCount)
    (keptToo : second.history = past.take other.limits.historyCount) :
    ∃ later : List Entry,
      (first.after step.stack step.limits step.input).history =
        later.take step.limits.historyCount ∧
      (second.after other.stack other.limits other.input).history =
        later.take other.limits.historyCount := by
  refine ⟨_, history_after step kept, ?_⟩
  rw [history_after other keptToo, matched.input, matched.stack]
  simp only [evaluation?_alike matched.maxDigits alike]

theorem histories_run {past : List Entry} {few many : Nat}
    (matched : List.Forall₂ Step.Matches steps counterparts) (alike : first.LooksLike second)
    (short : ∀ step ∈ steps, step.limits.historyCount = few)
    (long : ∀ other ∈ counterparts, other.limits.historyCount = many)
    (kept : first.history = past.take few) (keptToo : second.history = past.take many) :
    ∃ later : List Entry, (first.run steps).history = later.take few ∧
      (second.run counterparts).history = later.take many := by
  induction matched generalizing first second past with
  | nil => exact ⟨past, kept, keptToo⟩
  | cons here _ ih =>
    obtain ⟨fewHere, short⟩ := List.forall_mem_cons.mp short
    obtain ⟨manyHere, long⟩ := List.forall_mem_cons.mp long
    subst fewHere manyHere
    obtain ⟨later, kept, keptToo⟩ := histories_after here alike kept keptToo
    exact ih (after_alike here alike) short long kept keptToo

/-- Two runs of the same inputs under limits that agree on the digits start from sessions that look
alike, and may remember what they like. Then they look alike after every step, and whatever comes
next fails in one of them as it does in the other. With nothing remembered at the start, the run
that remembers less remembers at every step the newest part of what the other one does. -/
theorem history_has_no_influence (alike : first.LooksLike second)
    (matched : List.Forall₂ Step.Matches steps counterparts) (count : Nat) :
    let here := first.run (steps.take count)
    let there := second.run (counterparts.take count)
    here.LooksLike there ∧
    (∀ step other : Step, step.Matches other → ∀ fault,
      here.receive step.stack step.limits step.input = .error fault ↔
        there.receive other.stack other.limits other.input = .error fault) ∧
    ∀ few many, few ≤ many → (∀ step ∈ steps, step.limits.historyCount = few) →
      (∀ other ∈ counterparts, other.limits.historyCount = many) →
      first.history = [] → second.history = [] → here.history = there.history.take few := by
  intro here there
  have taken := List.forall₂_take count matched
  have looks : here.LooksLike there := run_alike taken alike
  refine ⟨looks, fun step other next => (receive_alike next looks).error_iff, ?_⟩
  intro few many fewer short long blank blankToo
  obtain ⟨later, kept, keptToo⟩ := histories_run taken alike
    (fun step member => short step (List.mem_of_mem_take member))
    (fun other member => long other (List.mem_of_mem_take member))
    (blank.trans List.take_nil.symm) (blankToo.trans List.take_nil.symm)
  rw [kept, keptToo, List.take_take, Nat.min_eq_left fewer]

theorem matches_under (same : limits.maxDigits = others.maxDigits) (inputs : List (Stack × Input)) :
    List.Forall₂ Step.Matches (under limits inputs) (under others inputs) := by
  induction inputs with
  | nil => exact .nil
  | cons input rest ih => exact .cons ⟨rfl, rfl, same⟩ ih

/-- Two sums, the first one taken off the display before the second. -/
def twoSums : List (Stack × Input) :=
  atop .shallow (keys ['1', '+', '2'] ++ [.action .equals, .action .clear] ++
    keys ['4', '+', '5'] ++ [.key ['=']])

/-- A session that remembers one result, beside one that remembers three. -/
theorem twoSums_remembered :
    let brief : Limits := { historyCount := 1 }
    let roomy : Limits := { historyCount := 3 }
    let here := reached (under brief twoSums)
    let there := reached (under roomy twoSums)
    here.LooksLike there ∧ here.history = there.history.take 1 ∧
      here.history = [⟨['4', '+', '5'], 9⟩] ∧
      there.history = [⟨['4', '+', '5'], 9⟩, ⟨['1', '+', '2'], 3⟩] := by
  intro brief roomy here there
  have alike : LooksLike {} {} := ⟨rfl, rfl, rfl⟩
  have same : brief.maxDigits = roomy.maxDigits := rfl
  have matched := matches_under same twoSums
  obtain ⟨looks, _, remembered⟩ := history_has_no_influence alike matched twoSums.length
  have part := remembered 1 3 (by decide) (fun _ member => by rw [limits_of_mem_under member])
    (fun _ member => by rw [limits_of_mem_under member]) rfl rfl
  exact ⟨looks, part, by decide +kernel, by decide +kernel⟩

end Session

end Reckoner
