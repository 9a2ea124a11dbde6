import Reckoner.Proofs.CarriedResult
import Reckoner.Proofs.StrandedNumber
import Reckoner.Proofs.TypedLine

namespace Reckoner

open Numeral

variable {stack : Stack}

namespace Console

theorem exists_entryText {entry : Entry} (few : digitCount entry.result ≤ pieceLimit) :
    ∃ line, entryText entry = .ok line := by
  unfold entryText
  rw [text?_of_digitCount_le few]
  exact ⟨_, rfl⟩

theorem exists_historyText {history : List Entry}
    (few : ∀ entry ∈ history, digitCount entry.result ≤ pieceLimit) :
    ∃ text, historyText history = .ok text := by
  have written : ∃ lines, history.mapM entryText = .ok lines := by
    induction history with
    | nil => exact ⟨[], rfl⟩
    | cons entry rest ih =>
      obtain ⟨here, others⟩ := List.forall_mem_cons.mp few
      obtain ⟨line, first⟩ := exists_entryText here
      obtain ⟨lines, later⟩ := ih others
      rw [List.mapM_cons, first, later]
      exact ⟨_, rfl⟩
  obtain ⟨lines, written⟩ := written
  rw [historyText, written]
  split <;> exact ⟨_, rfl⟩

end Console

namespace Session

/-- What a user does next, on the stack and under the limits that it meets: an input at the keypad
or a line at the prompt. -/
inductive Turn
  | input (stack : Stack) (limits : Limits) (input : Input)
  | line (stack : Stack) (limits : Limits) (line : Text)

/-- The session after a turn. A fault leaves the session as the last action before it did. -/
def afterTurn (session : Session) : Turn → Session
  | .input stack limits input => session.after stack limits input
  | .line stack limits line => (Console.enter stack limits session line).1

def afterTurns (session : Session) (turns : List Turn) : Session :=
  turns.foldl afterTurn session

variable {limits : Limits} {session next : Session}

theorem run_of_performAll {actions : List Action}
    (performed : session.performAll stack limits actions = (next, none)) :
    session.run (under limits (atop stack (actions.map .action))) = next := by
  induction actions generalizing session with
  | nil =>
    cases performed
    rfl
  | cons action rest ih =>
    rw [performAll] at performed
    cases here : session.perform stack limits action with
    | ok mid =>
      rw [here] at performed
      have moved := after_of_perform here
      rw [List.map_cons, atop, List.map_cons, under, List.map_cons, run, moved]
      exact ih performed
    | error fault =>
      rw [here] at performed
      cases performed

/-- Actions are performed to the end or up to one that fails. -/
theorem performAll_cases (stack : Stack) (session : Session) (limits : Limits)
    (actions : List Action) :
    (∃ next, session.performAll stack limits actions = (next, none)) ∨
      ∃ front action back next fault, actions = front ++ action :: back ∧
        session.performAll stack limits front = (next, none) ∧
        next.perform stack limits action = .error fault ∧
        session.performAll stack limits actions = (next, some fault) := by
  induction actions generalizing session with
  | nil => exact Or.inl ⟨session, rfl⟩
  | cons first rest ih =>
    cases here : session.perform stack limits first with
    | error fault =>
      exact Or.inr ⟨[], first, rest, session, fault, rfl, rfl, here, by simp [performAll, here]⟩
    | ok mid =>
      simp only [performAll, here]
      rcases ih mid with done | ⟨front, action, back, next, fault, rfl, performed, failed, ended⟩
      · exact Or.inl done
      · exact Or.inr ⟨first :: front, action, back, next, fault, rfl,
          by simp [performAll, here, performed], failed, ended⟩

end Session

namespace Console

/-- The ways in which a line can be answered. -/
inductive Answered (stack : Stack) (limits : Limits) (session : Session) (line : Text) :
    Session × Except Interruption Reply → Prop
  | command {command : Command} : Command.ofLine? line = some command →
      Answered stack limits session line (runCommand limits session command)
  | foreign {c : Char} : Command.ofLine? line = none → foreign? line = some c →
      Answered stack limits session line (session,
        .ok ⟨false, s!"Error: {ErrorKind.invalidCharacter.summary} {Text.quoted [c]}"⟩)
  | performed {next : Session} : Command.ofLine? line = none → foreign? line = none →
      session.performAll stack limits (actions line) = (next, none) →
      Answered stack limits session line (next, orFault (shown limits next))
  | failed {front back : List Action} {action : Action} {next : Session} {fault : Fault} :
      Command.ofLine? line = none → foreign? line = none →
      actions line = front ++ action :: back →
      session.performAll stack limits front = (next, none) →
      next.perform stack limits action = .error fault →
      Answered stack limits session line (next, .error (.fault fault))

/-- There are no other ways. -/
theorem enter_answered (stack : Stack) (limits : Limits) (session : Session) (line : Text) :
    Answered stack limits session line (enter stack limits session line) := by
  unfold enter
  split
  · exact .command ‹_›
  · split
    · exact .foreign ‹_› ‹_›
    · rename_i noCommand _ typable
      rcases Session.performAll_cases stack session limits (actions line) with ⟨next, performed⟩ |
        ⟨front, action, back, next, fault, shape, performed, refused, ended⟩
      · rw [performed]
        exact .performed noCommand typable performed
      · rw [ended]
        exact .failed noCommand typable shape performed refused

theorem enter_of_fault {limits : Limits} {session next : Session} {line : Text} {fault : Fault}
    (noCommand : Command.ofLine? line = none) (typable : foreign? line = none)
    (failed : session.performAll stack limits (actions line) = (next, some fault)) :
    enter stack limits session line = (next, .error (.fault fault)) := by
  simp only [enter, noCommand, typable, failed]

end Console

namespace Session

variable {limits : Limits} {session next : Session}

/-- A command does what one action at the keypad does, or nothing. -/
theorem exists_run_of_runCommand (limits : Limits) (session : Session) (command : Command) :
    ∃ steps, (Console.runCommand limits session command).1 = session.run steps := by
  cases command with
  | clear => exact ⟨under limits (atop .shallow [.action .clear]), rfl⟩
  | delete => exact ⟨under limits (atop .shallow [.action .delete]), rfl⟩
  | forget => exact ⟨under limits (atop .shallow [.action .forget]), rfl⟩
  | help | history | quit | unknown => exact ⟨[], rfl⟩

/-- A line changes a session as some inputs at the keypad do. -/
theorem exists_run_of_enter (stack : Stack) (limits : Limits) (session : Session) (line : Text) :
    ∃ steps, (Console.enter stack limits session line).1 = session.run steps := by
  have answered := Console.enter_answered stack limits session line
  generalize Console.enter stack limits session line = answer at answered
  cases answered with
  | command => exact exists_run_of_runCommand limits session _
  | foreign => exact ⟨[], rfl⟩
  | performed _ _ performed | failed _ _ _ performed =>
    exact ⟨_, (run_of_performAll performed).symm⟩

theorem exists_run_of_afterTurns (session : Session) (turns : List Turn) :
    ∃ steps, session.afterTurns turns = session.run steps := by
  induction turns generalizing session with
  | nil => exact ⟨[], rfl⟩
  | cons turn rest ih =>
    obtain ⟨here, first⟩ : ∃ steps, session.afterTurn turn = session.run steps := by
      cases turn with
      | input stack limits input => exact ⟨[⟨stack, limits, input⟩], rfl⟩
      | line stack limits line => exact exists_run_of_enter stack limits session line
    obtain ⟨later, others⟩ := ih (session.afterTurn turn)
    exact ⟨here ++ later, by rw [run_append, ← first, ← others]; rfl⟩

/-- All numbers on show and in the history can be written out. -/
structure IsWritable (session : Session) : Prop where
  result : ∀ value, session.result = some value → digitCount value ≤ pieceLimit
  history : ∀ entry ∈ session.history, digitCount entry.result ≤ pieceLimit

theorem IsWritable.empty : ({} : Session).IsWritable where
  result _ showing := by cases showing
  history _ member := by cases member

/-- A new number has been held against the limits, and they are never wider than what can be
written out. -/
theorem IsWritable.change {action : Action} (writable : session.IsWritable)
    (change : Change stack limits session action next) : next.IsWritable := by
  cases change with
  | idle => exact writable
  | refused | ignored => exact ⟨writable.result, writable.history⟩
  | typed showing | shortened showing =>
    refine ⟨fun value shown => ?_, writable.history⟩
    cases showing.symm.trans shown
  | begun | carried | cleared | dismissed | failed =>
    refine ⟨?_, writable.history⟩
    rintro _ ⟨⟩
  | forgotten => exact ⟨writable.result, by rintro _ ⟨⟩⟩
  | @evaluated value typed calculated =>
    have few : digitCount value ≤ pieceLimit :=
      isWritable_iff.mp (isWritable_of_calculate calculated)
    constructor
    · rintro _ ⟨⟩
      exact few
    · intro entry member
      rcases List.mem_cons.mp (List.mem_of_mem_take member) with rfl | older
      · exact few
      · exact writable.history entry older

theorem IsWritable.run (writable : session.IsWritable) (steps : List Step) :
    (session.run steps).IsWritable :=
  run_induction writable fun _ _ {_ _ _} before change => before.change change

theorem IsWritable.afterTurns (writable : session.IsWritable) (turns : List Turn) :
    (session.afterTurns turns).IsWritable := by
  obtain ⟨steps, same⟩ := exists_run_of_afterTurns session turns
  rw [same]
  exact writable.run steps

namespace IsWritable

theorem exists_text (writable : session.IsWritable) {value : Int}
    (showing : session.result = some value) : text? value = some (text value) :=
  text?_of_digitCount_le (writable.result value showing)

theorem exists_press (writable : session.IsWritable) (symbol : Text) :
    ∃ next, session.press symbol = .ok next := by
  unfold press
  split
  · exact ⟨_, rfl⟩
  · rename_i value showing
    rw [writable.exists_text showing]
    dsimp only
    split
    · exact ⟨_, rfl⟩
    · split <;> exact ⟨_, rfl⟩

theorem exists_perform (writable : session.IsWritable) (stack : Stack) (limits : Limits)
    {action : Action} (other : action ≠ .equals) :
    ∃ next, session.perform stack limits action = .ok next := by
  cases action with
  | press symbol => exact writable.exists_press symbol
  | equals => exact absurd rfl other
  | clear | delete | forget => exact ⟨_, rfl⟩

theorem exists_shown (writable : session.IsWritable) (limits : Limits) :
    ∃ reply, Console.shown limits session = .ok reply := by
  unfold Console.shown
  split
  · exact ⟨_, rfl⟩
  · rename_i value _ showing
    rw [writable.exists_text showing]
    exact ⟨_, rfl⟩
  · exact ⟨_, rfl⟩

theorem exists_reply (writable : session.IsWritable) (limits : Limits) {command : Command}
    (stays : command ≠ .quit) :
    ∃ reply, (Console.runCommand limits session command).2 = .ok reply := by
  cases command with
  | quit => exact absurd rfl stays
  | help | clear | forget | unknown => exact ⟨_, rfl⟩
  | delete =>
    have deleted : session.delete.IsWritable :=
      writable.run (under limits (atop .shallow [.action .delete]))
    obtain ⟨reply, shown⟩ := deleted.exists_shown limits
    rw [Console.runCommand, shown]
    exact ⟨_, rfl⟩
  | history =>
    obtain ⟨text, written⟩ := Console.exists_historyText writable.history
    rw [Console.runCommand, written]
    exact ⟨_, rfl⟩

theorem eq_equals_of_fault (writable : session.IsWritable) {action : Action} {fault : Fault}
    (failed : session.perform stack limits action = .error fault) :
    action = .equals ∧ fault = .unwritable := by
  by_cases evaluates : action = .equals
  · subst evaluates
    exact ⟨rfl, eq_unwritable_of_calculate (calculate_of_equals_error failed)⟩
  · obtain ⟨next, performed⟩ := writable.exists_perform stack limits evaluates
    cases failed.symm.trans performed

theorem equals_of_receive (writable : session.IsWritable) {input : Input} {fault : Fault}
    (failed : session.receive stack limits input = .error fault) :
    input.action? = some .equals ∧ fault = .unwritable := by
  rw [receive_eq] at failed
  cases meant : input.action? with
  | none =>
    rw [meant] at failed
    cases failed
  | some action =>
    rw [meant] at failed
    obtain ⟨rfl, unwritable⟩ := writable.eq_equals_of_fault failed
    exact ⟨rfl, unwritable⟩

theorem of_performAll (writable : session.IsWritable) {actions : List Action}
    (performed : session.performAll stack limits actions = (next, none)) : next.IsWritable := by
  rw [← run_of_performAll performed]
  exact writable.run _

/-- A line that ends with a fault has come to an equals sign that could not be carried out. -/
theorem equals_of_enter (writable : session.IsWritable) {line : Text} {fault : Fault}
    (failed : (Console.enter stack limits session line).2 = .error (.fault fault)) :
    Command.ofLine? line = none ∧ fault = .unwritable ∧ ∃ front back next,
      Console.actions line = front ++ .equals :: back ∧
      session.performAll stack limits front = (next, none) ∧
      next.equals stack limits = .error .unwritable ∧
      (Console.enter stack limits session line).1 = next := by
  have answered := Console.enter_answered stack limits session line
  generalize Console.enter stack limits session line = answer at answered failed
  cases answered with
  | @command command =>
    by_cases leaves : command = .quit
    · rw [leaves] at failed
      cases failed
    · obtain ⟨reply, answered⟩ := writable.exists_reply limits leaves
      cases failed.symm.trans answered
  | foreign => cases failed
  | performed _ _ performed =>
    obtain ⟨reply, shown⟩ := (writable.of_performAll performed).exists_shown limits
    rw [shown] at failed
    cases failed
  | @failed front back action next other noCommand _ shape performed refused =>
    cases failed
    obtain ⟨rfl, rfl⟩ := (writable.of_performAll performed).eq_equals_of_fault refused
    exact ⟨noCommand, rfl, front, back, next, shape, performed, refused, rfl⟩

end IsWritable

/-- At the expression `(7)` with a long number behind it no way to evaluate succeeds. -/
theorem overlong_faults (stack : Stack) (limits : Limits) :
    let session : Session := { expression := overlong }
    session.receive stack limits (.action .equals) = .error .unwritable ∧
      session.receive stack limits (.key ['=']) = .error .unwritable ∧
      (Console.enter stack limits session ['=']).2 = .error (.fault .unwritable) := by
  intro session
  have room : overlong.NestsWithin stack.room := overlong_nestsWithin.mono stack.ample
  have failed : calculate stack limits overlong = .error .unwritable :=
    calculate_of_no_kind limits overlong_validate
      ((overlong_extendsExpression.strandsLongNumber room).valueOf_eq room) rfl
  have evaluated : session.perform stack limits .equals = .error .unwritable :=
    equals_of_fault (List.cons_ne_nil _ _) failed
  have key : Action.ofKey? ['='] = some .equals := rfl
  have pressed : session.performAll stack limits (Console.actions ['=']) =
      (session, some .unwritable) := by
    have line : Console.actions ['='] = [.equals] := rfl
    simp only [line, performAll, evaluated]
  refine ⟨evaluated, ?_, ?_⟩
  · rw [receive, pressKey, key]
    exact evaluated
  · rw [Console.enter_of_fault rfl rfl pressed]

theorem afterTurns_inputs (session : Session) (limits : Limits) (inputs : List (Stack × Input)) :
    session.afterTurns (inputs.map fun (stack, input) => .input stack limits input) =
      session.run (under limits inputs) := by
  induction inputs generalizing session with
  | nil => rfl
  | cons input rest ih => exact ih (session.after input.1 limits input.2)

/-- That expression is typed like any other. -/
theorem run_overlong (stack : Stack) (limits : Limits) :
    ({} : Session).run (under limits (atop stack (keys overlong))) =
      { expression := overlong } := by
  have bracketed : ({} : Session).run (under limits (atop stack (keys ['(', '7', ')']))) =
      { expression := ['(', '7', ')'] } := rfl
  have split : keys overlong = keys ['(', '7', ')'] ++ keys longDigits := List.map_append
  rw [split, atop_append, under_append, run_append, bracketed,
    run_digits stack limits rfl rfl isDigit_of_mem_longDigits]
  rfl

/-- Wherever a user gets to at the keypad and at the prompt, under whatever limits, the result on
show and those in the history can be written out. Then nothing but an evaluation ends with a fault,
and a line does so only at an equals sign. Results of calculations can be written out, too. An
evaluation can fail, and it does so however it is asked for. -/
theorem only_equals_faults :
    (∀ turns : List Turn, let session := ({} : Session).afterTurns turns
      session.IsWritable ∧
      (∀ limits, ∃ reply, Console.shown limits session = .ok reply) ∧
      (∃ text, Console.historyText session.history = .ok text) ∧
      (∀ limits command, command ≠ .quit →
        ∃ reply, (Console.runCommand limits session command).2 = .ok reply) ∧
      (∀ stack limits action, action ≠ .equals →
        ∃ next, session.perform stack limits action = .ok next) ∧
      (∀ stack limits input fault, session.receive stack limits input = .error fault →
        input.action? = some .equals ∧ fault = .unwritable) ∧
      ∀ stack limits line fault,
        (Console.enter stack limits session line).2 = .error (.fault fault) →
        Command.ofLine? line = none ∧ fault = .unwritable ∧ ∃ front back next,
          Console.actions line = front ++ .equals :: back ∧
          session.performAll stack limits front = (next, none) ∧
          next.equals stack limits = .error .unwritable ∧
          (Console.enter stack limits session line).1 = next) ∧
    (∀ stack limits t value, calculate stack limits t = .ok (.result value) →
      text? value = some (text value)) ∧
    ∀ limits, ∃ turns, ∀ stack, let session := ({} : Session).afterTurns turns
      session.receive stack limits (.action .equals) = .error .unwritable ∧
        session.receive stack limits (.key ['=']) = .error .unwritable ∧
        (Console.enter stack limits session ['=']).2 = .error (.fault .unwritable) := by
  refine ⟨fun turns => ?_, fun stack limits t value calculated => ?_,
    fun limits => ?_⟩
  · intro session
    have writable : session.IsWritable := IsWritable.empty.afterTurns turns
    exact ⟨writable, writable.exists_shown, Console.exists_historyText writable.history,
      fun limits _ => writable.exists_reply limits,
      fun stack limits _ => writable.exists_perform stack limits,
      fun _ _ _ _ => writable.equals_of_receive, fun _ _ _ _ => writable.equals_of_enter⟩
  · exact text?_of_digitCount_le (isWritable_iff.mp (isWritable_of_calculate calculated))
  · refine ⟨(atop .shallow (keys overlong)).map fun (stack, input) => .input stack limits input,
      fun stack => ?_⟩
    rw [afterTurns_inputs, run_overlong]
    exact overlong_faults stack limits

end Session

end Reckoner
