import Reckoner.CommandLine
import Reckoner.Proofs.CommandName
import Reckoner.Proofs.WritableSession

namespace Reckoner

namespace Console

variable {stack : Stack} {limits : Limits} {session : Session} {line : Text}

theorem orFault_ne_quit (reply : Except Fault Reply) : orFault reply ≠ .error .quit := by
  cases reply <;> rintro ⟨⟩

/-- Only the command to leave is answered by leaving. -/
theorem quit_of_enter (left : (enter stack limits session line).2 = .error .quit) :
    Command.ofLine? line = some .quit := by
  have answered := enter_answered stack limits session line
  generalize enter stack limits session line = answer at answered left
  cases answered with
  | @command command named =>
    cases command with
    | quit => exact named
    | delete | history => exact absurd left (orFault_ne_quit _)
    | help | clear | forget | unknown => cases left
  | foreign => cases left
  | performed => exact absurd left (orFault_ne_quit _)
  | failed => cases left

end Console

namespace Prompt

/-- The events before the first line that asks to leave. -/
def heard (input : List (Option Text)) : List (Option Text) :=
  input.takeWhile fun event => !event.any (·.asksToLeave)

/-- The lines that are not blank. -/
def linesOf (events : List (Option Text)) : List Text :=
  events.filterMap (·.filter (!·.isAllBlank))

/-- The session that events leave: their lines are entered one after the other. -/
def sessionAfter (stack : Stack) (limits : Limits) (session : Session)
    (events : List (Option Text)) : Session :=
  session.afterTurns ((linesOf events).map (.line stack limits))

/-- What is written behind the prompt, unless the conversation ends there. -/
def answer? (stack : Stack) (limits : Limits) (session : Session) : Option Text → Option String
  | none => some "^C\n"
  | some line =>
    if line.isAllBlank then some ""
    else
      match (Console.enter stack limits session line).2 with
      | .ok reply => some (reply.output ++ "\n")
      | .error _ => none

/-- Behind one prompt each, all events are answered, a line in the session that the events before it
have left. -/
def IsTranscript (stack : Stack) (limits : Limits) (session : Session)
    (events : List (Option Text)) (pieces : List String) : Prop :=
  pieces.map some = events.mapIdx fun place event =>
    (answer? stack limits (sessionAfter stack limits session (events.take place)) event).map
      (mark ++ ·)

/-- An equals sign in the line ends with the fault. -/
def FailsAtEquals (stack : Stack) (limits : Limits) (session : Session) (line : Text)
    (fault : Fault) : Prop :=
  Command.ofLine? line = none ∧ ∃ front back next,
    Console.actions line = front ++ .equals :: back ∧
    session.performAll stack limits front = (next, none) ∧ next.equals stack limits = .error fault

/-- The ways in which a conversation over events can go: to its end, where the user is taken leave
of, or up to a line that fails. -/
inductive Conversed (stack : Stack) (limits : Limits) (session : Session)
    (events : List (Option Text)) : List String × Option Fault → Prop
  | finished {pieces : List String} : IsTranscript stack limits session events pieces →
      Conversed stack limits session events (pieces ++ [mark ++ farewell], none)
  | cutShort {front back : List (Option Text)} {line : Text} {pieces : List String}
      {fault : Fault} :
      events = front ++ some line :: back → IsTranscript stack limits session front pieces →
      line.isAllBlank = false →
      FailsAtEquals stack limits (sessionAfter stack limits session front) line fault →
      Conversed stack limits session events (pieces ++ [mark], some fault)

variable {stack : Stack} {limits : Limits} {session : Session} {event : Option Text}
  {front rest : List (Option Text)} {pieces : List String}

theorem sessionAfter_cons (event : Option Text) (rest : List (Option Text)) :
    sessionAfter stack limits session (event :: rest) =
      sessionAfter stack limits (sessionAfter stack limits session [event]) rest := by
  have split : linesOf (event :: rest) = linesOf [event] ++ linesOf rest := by
    rw [linesOf, linesOf, linesOf, ← List.filterMap_append]
    rfl
  rw [sessionAfter, split, List.map_append, Session.afterTurns, List.foldl_append]
  rfl

theorem sessionAfter_line {line : Text} (filled : line.isAllBlank = false) :
    sessionAfter stack limits session [some line] =
      (Console.enter stack limits session line).1 := by
  have single : linesOf [some line] = [line] := by simp [linesOf, Option.filter, filled]
  rw [sessionAfter, single]
  rfl

/-- Interrupts and blank lines leave the session as it is. -/
theorem sessionAfter_idle (idle : event.all (·.isAllBlank) = true) :
    sessionAfter stack limits session [event] = session := by
  have none : linesOf [event] = [] := by
    cases event with
    | none => rfl
    | some line => simp_all [linesOf, Option.filter]
  rw [sessionAfter, none]
  rfl

theorem respond_idle (stack : Stack) (limits : Limits) (session : Session)
    (idle : event.all (·.isAllBlank) = true) :
    ∃ text, answer? stack limits session event = some text ∧
      respond stack limits session event = (text, .proceed session) := by
  cases event with
  | none => exact ⟨_, rfl, rfl⟩
  | some line =>
    have blank : line.isAllBlank = true := idle
    exact ⟨"", by simp [answer?, blank], by simp [respond, blank]⟩

theorem respond_leaves (leaves : event.any (·.asksToLeave) = true) :
    respond stack limits session event = (farewell, .leave) := by
  cases event with
  | none => cases leaves
  | some line =>
    have command : Command.ofLine? line = some .quit := Command.ofLine?_eq_quit_iff.mpr leaves
    have filled : line.isAllBlank = false := by
      by_contra blank
      have allBlank : ∀ c ∈ line, Text.isBlank c = true := by simpa [Text.isAllBlank] using blank
      have noColon : ':' ∉ line := fun member => by cases allBlank ':' member
      cases command.symm.trans (Console.ofLine?_eq_none noColon)
    simp [respond, filled, Console.enter, command, Console.runCommand]

/-- A line that does not ask to leave is answered, or an equals sign in it fails. -/
theorem respond_line {line : Text} (writable : session.IsWritable)
    (filled : line.isAllBlank = false) (stays : line.asksToLeave = false) :
    (∃ text, answer? stack limits session (some line) = some text ∧
      respond stack limits session (some line) =
        (text, .proceed (Console.enter stack limits session line).1)) ∨
      ∃ fault, FailsAtEquals stack limits session line fault ∧
        respond stack limits session (some line) = ("", .fail fault) := by
  cases entered : Console.enter stack limits session line with
  | mk after result =>
    cases result with
    | ok reply =>
      exact Or.inl ⟨reply.output ++ "\n", by simp [answer?, filled, entered],
        by simp [respond, filled, entered]⟩
    | error interruption =>
      cases interruption with
      | quit =>
        have command := Console.quit_of_enter (congrArg Prod.snd entered)
        rw [Command.ofLine?_eq_quit_iff, stays] at command
        cases command
      | fault fault =>
        obtain ⟨noCommand, rfl, front, back, next, shape, performed, failed, _⟩ :=
          writable.equals_of_enter (congrArg Prod.snd entered)
        exact Or.inr ⟨.unwritable, ⟨noCommand, front, back, next, shape, performed, failed⟩,
          by simp [respond, filled, entered]⟩

/-- An event that does not ask to leave is answered, or it is a line that fails. -/
theorem respond_cases (writable : session.IsWritable)
    (stays : event.any (·.asksToLeave) = false) :
    (∃ text, answer? stack limits session event = some text ∧
      respond stack limits session event =
        (text, .proceed (sessionAfter stack limits session [event]))) ∨
      ∃ line fault, event = some line ∧ line.isAllBlank = false ∧
        FailsAtEquals stack limits session line fault ∧
        respond stack limits session event = ("", .fail fault) := by
  cases idle : event.all (·.isAllBlank) with
  | true =>
    rw [sessionAfter_idle idle]
    exact Or.inl (respond_idle stack limits session idle)
  | false =>
    obtain ⟨line, rfl⟩ : ∃ line, event = some line := by
      cases event with
      | none => cases idle
      | some line => exact ⟨line, rfl⟩
    rw [sessionAfter_line idle]
    rcases respond_line writable idle stays with answered | ⟨fault, fails, ended⟩
    · exact Or.inl answered
    · exact Or.inr ⟨line, fault, rfl, idle, fails, ended⟩

theorem IsTranscript.nil : IsTranscript stack limits session [] [] :=
  rfl

theorem IsTranscript.cons {text : String}
    (answered : answer? stack limits session event = some text)
    (later : IsTranscript stack limits (sessionAfter stack limits session [event]) rest pieces) :
    IsTranscript stack limits session (event :: rest) ((mark ++ text) :: pieces) := by
  have here : answer? stack limits (sessionAfter stack limits session []) event = some text :=
    answered
  have behind (place : Nat) : sessionAfter stack limits session ((event :: rest).take (place + 1)) =
      sessionAfter stack limits (sessionAfter stack limits session [event]) (rest.take place) :=
    sessionAfter_cons event (rest.take place)
  rw [IsTranscript] at later ⊢
  rw [List.map_cons, later, List.mapIdx_cons, List.take_zero, here]
  simp only [behind]
  rfl

theorem Conversed.cons {text : String} {fault? : Option Fault}
    (answered : answer? stack limits session event = some text)
    (later :
      Conversed stack limits (sessionAfter stack limits session [event]) rest (pieces, fault?)) :
    Conversed stack limits session (event :: rest) ((mark ++ text) :: pieces, fault?) := by
  cases later with
  | finished transcript => exact .finished (transcript.cons answered)
  | @cutShort front back line _ _ shape transcript filled fails =>
    rw [← sessionAfter_cons] at fails
    have whole : event :: rest = (event :: front) ++ some line :: back := by
      rw [shape, List.cons_append]
    exact .cutShort whole (transcript.cons answered) filled fails

/-- Whatever is typed, a conversation comes to its end or is cut short by an evaluation. -/
theorem conversed (writable : session.IsWritable) (input : List (Option Text)) :
    Conversed stack limits session (heard input) (converse stack limits session input) := by
  induction input generalizing session with
  | nil => exact .finished .nil
  | cons event rest ih =>
    cases leaves : event.any (·.asksToLeave) with
    | true =>
      -- The line that asks to leave is not heard, so the transcript before it is complete.
      have silent : heard (event :: rest) = [] := by simp [heard, leaves]
      rw [silent, converse, respond_leaves leaves]
      exact .finished .nil
    | false =>
      have listens : heard (event :: rest) = event :: heard rest := by simp [heard, leaves]
      rw [listens, converse]
      rcases respond_cases writable leaves with ⟨text, answered, responded⟩ |
        ⟨line, fault, rfl, filled, fails, responded⟩
      · rw [responded]
        exact (ih (writable.afterTurns _)).cons answered
      · rw [responded]
        exact .cutShort (List.nil_append _).symm .nil filled fails

/-- Asking to leave is like coming to the end of the input. -/
theorem converse_of_leaves {line : Text} (leaves : line.asksToLeave = true)
    (later : List (Option Text)) :
    converse stack limits session (front ++ some line :: later) =
      converse stack limits session front := by
  induction front generalizing session with
  | nil =>
    have left : respond stack limits session (some line) = (farewell, .leave) :=
      respond_leaves leaves
    simp only [List.nil_append, converse, left]
  | cons event front ih =>
    rw [List.cons_append, converse, converse]
    cases respond stack limits session event with
    | mk text next => cases next <;> simp only [ih]

/-- Wherever a user has got to, a conversation answers every event before the first line that asks
to leave, each behind a prompt of its own, enters the lines once and in order, and takes leave at
the end. Only a line in which an equals sign fails cuts it short. Interrupts and blank lines leave
the session as it is, and what follows a line that asks to leave makes no difference. A run writes
the banner and the conversation, and its exit code is zero unless the conversation was cut
short. -/
theorem conversation_follows_input (stack : Stack) (limits : Limits) (input : List (Option Text)) :
    (∀ turns : List Session.Turn, let session := ({} : Session).afterTurns turns
      Conversed stack limits session (heard input) (converse stack limits session input)) ∧
    (∀ session event, event.all (·.isAllBlank) = true →
      ∃ text, respond stack limits session event = (text, .proceed session)) ∧
    (∀ session front line later, line.asksToLeave = true →
      converse stack limits session (front ++ some line :: later) =
        converse stack limits session front) ∧
    ∀ env arguments, CommandLine.plan env arguments = .converse limits →
      let report := CommandLine.run stack env arguments input
      report.output = banner ++ String.join (converse stack limits {} input).1 ∧
        ((converse stack limits {} input).2 = none → report.ending = .ok 0) ∧
        ∀ fault, (converse stack limits {} input).2 = some fault →
          report.ending = .error (.fault fault) := by
  refine ⟨fun turns => ?_, fun session event idle => ?_, fun session front line later leaves => ?_,
    fun env arguments planned => ?_⟩
  · exact conversed (Session.IsWritable.empty.afterTurns turns) input
  · obtain ⟨text, -, responded⟩ := respond_idle stack limits session idle
    exact ⟨text, responded⟩
  · exact converse_of_leaves leaves later
  · intro report
    have made : report = CommandLine.converseOver stack limits input := by
      rw [← CommandLine.Plan.run, ← planned]
      rfl
    rw [made, CommandLine.converseOver]
    refine ⟨rfl, fun finished => ?_, fun fault cut => ?_⟩
    · simp only [finished]
    · simp only [cut]

/-- The line `1/0=`, an interrupt and a blank line. -/
def hastyStart : List (Option Text) :=
  [some ['1', '/', '0', '='], none, some [' ', ' ']]

/-- The same and then the line ` : QuIt `, with a line behind it. -/
def hastyInput : List (Option Text) :=
  hastyStart ++ some [' ', ':', ' ', 'Q', 'u', 'I', 't', ' '] :: [some ['5']]

theorem hastyInput_conversed :
    Conversed .shallow {} {} hastyStart
        (["> Error: Division by zero\n", "> ^C\n", "> "] ++ ["> Exiting.\n"], none) ∧
      (∃ text, respond .shallow {} {} (some [' ', ' ']) = (text, .proceed {})) ∧
      converse .shallow {} {} hastyInput = converse .shallow {} {} hastyStart ∧
      (CommandLine.run .shallow (fun _ => none) [] hastyInput).output =
        banner ++ "> Error: Division by zero\n> ^C\n> > Exiting.\n" ∧
      (CommandLine.run .shallow (fun _ => none) [] hastyInput).ending = .ok 0 := by
  obtain ⟨courses, idles, leaving, runs⟩ := conversation_follows_input .shallow {} hastyInput
  obtain ⟨written, zero, _⟩ := runs (fun _ => none) [] rfl
  exact ⟨courses [], idles {} (some [' ', ' ']) (by decide),
    leaving {} hastyStart _ _ (by decide), written, zero rfl⟩

end Prompt

end Reckoner
