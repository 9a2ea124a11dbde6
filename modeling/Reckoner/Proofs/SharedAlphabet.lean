import Reckoner.Proofs.QuotedText
import Reckoner.Proofs.SessionExpression
import Reckoner.Proofs.Spans
import Reckoner.Proofs.SplitLine
import Reckoner.Proofs.WritableSession

namespace Reckoner

/-- The keys are the alphabet of the lexer. -/
theorem isKey_iff_inAlphabet {c : Char} : isKey c = true ↔ InAlphabet c := by
  simp only [isKey, isOperator, Bool.or_eq_true, beq_iff_eq, isDigit_iff_between, InAlphabet,
    Option.isSome_iff_exists, Operator.exists_ofGlyph?_iff, or_assoc]

namespace Console

/-- The answer to a line with a character that cannot be typed. -/
def foreignReply (c : Char) : Reply :=
  ⟨false, s!"Error: {ErrorKind.invalidCharacter.summary} {Text.quoted [c]}"⟩

variable {stack : Stack} {limits : Limits} {session : Session} {line : Text} {c : Char}

/-- Equals signs apart, the prompt searches a line as the lexer does. -/
theorem foreign?_eq_find? (line : Text) :
    foreign? line =
      (Text.withoutBlanks (line.filter (· ≠ '='))).find? fun c => ¬ InAlphabet c := by
  have typable (c : Char) : isTypable c = decide (InAlphabet c ∨ c = '=') := by
    rw [Bool.eq_iff_iff, isTypable_iff, isKey_iff_inAlphabet, decide_eq_true_iff]
  simp only [foreign?, Text.withoutBlanks, List.find?_filter]
  congr 1
  funext c
  simp [typable, Bool.and_comm, Bool.and_assoc]

theorem foreign?_eq_some_iff :
    foreign? line = some c ↔
      ∃ place, Token.ofText (line.filter (· ≠ '=')) = .error (.foreignCharacter c place) := by
  simp only [foreign?_eq_find?, List.find?_eq_some_iff_append, Token.ofText_eq_error_iff]
  constructor
  · rintro ⟨foreign, front, rest, shape, known⟩
    exact ⟨front.length, front, c, rest, shape, by simpa using known, by simpa using foreign, rfl⟩
  · rintro ⟨place, front, other, rest, shape, known, foreign, same⟩
    cases same
    exact ⟨by simpa using foreign, front, rest, shape, by simpa using known⟩

/-- A line that the lexer accepts but for its equals signs is pressed to its end. -/
theorem isPlainLine_of_lexed
    (lexed : ∀ c place,
      Token.ofText (line.filter (· ≠ '=')) ≠ .error (.foreignCharacter c place)) :
    line.IsPlainLine := by
  rw [← foreign?_eq_none_iff, Option.eq_none_iff_forall_ne_some]
  intro c foreign
  obtain ⟨place, refused⟩ := foreign?_eq_some_iff.mp foreign
  exact lexed c place refused

theorem ofLine?_eq_none_of_head (noColon : line.trim.head? ≠ some ':') :
    Command.ofLine? line = none := by
  unfold Command.ofLine?
  split
  · rename_i shape
    exact absurd (by rw [shape]; rfl) noColon
  · rfl

/-- Different characters are answered differently. -/
theorem foreignReply_injective {c other : Char} (same : foreignReply c = foreignReply other) :
    c = other := by
  obtain ⟨-, outputs⟩ := Reply.mk.inj same
  have quoted : toString (Text.quoted [c]) = toString (Text.quoted [other]) := by
    simpa using outputs
  exact List.singleton_inj.mp (Text.quoted_injective quoted)

/-- Of all errors only a foreign character is told with an `I` first. -/
theorem exists_first_letter {kind : ErrorKind} (other : kind ≠ .invalidCharacter) :
    ∃ first rest, kind.summary.toList = first :: rest ∧ first ≠ 'I' := by
  cases kind with
  | invalidCharacter => exact absurd rfl other
  | _ => exact ⟨_, _, rfl, by decide⟩

/-- A session shows no character with an error, not even with that of a foreign one. -/
theorem errorText_ne_foreignReply (limits : Limits) (kind : ErrorKind) (c : Char) :
    errorText limits kind ≠ (foreignReply c).output := by
  intro same
  have letters := congrArg String.toList same
  unfold errorText foreignReply at letters
  by_cases told : kind = .invalidCharacter
  · subst told
    simp only [reduceCtorEq, if_false, String.toList_append, List.append_assoc,
      List.append_cancel_left_eq, List.self_eq_append_right, List.append_eq_nil_iff] at letters
    cases letters.1
  · obtain ⟨first, rest, shape, notSame⟩ := exists_first_letter told
    have summary : (toString kind.summary).toList = first :: rest := shape
    have named : (toString ErrorKind.invalidCharacter.summary).toList = 'I' :: _ := rfl
    split at letters
    all_goals
      simp only [String.toList_append, List.append_assoc, List.append_cancel_left_eq, summary,
        named, List.cons_append, List.cons.injEq] at letters
      exact notSame letters.1

/-- No other answer names a character. -/
theorem shown_ne_foreignReply (limits : Limits) (session : Session) (c : Char) :
    shown limits session ≠ .ok (foreignReply c) := by
  intro same
  unfold shown at same
  split at same
  · obtain ⟨-, outputs⟩ := Reply.mk.inj (Except.ok.inj same)
    exact errorText_ne_foreignReply limits _ c outputs
  · split at same <;> cases same
  · cases same

theorem reports_iff_foreign? (noColon : line.trim.head? ≠ some ':') :
    (enter stack limits session line).2 = .ok (foreignReply c) ↔ foreign? line = some c := by
  have noCommand := ofLine?_eq_none_of_head noColon
  constructor
  · intro reported
    have answered := enter_answered stack limits session line
    generalize enter stack limits session line = answer at answered reported
    cases answered with
    | command command => cases noCommand.symm.trans command
    | foreign _ foreign =>
      rw [foreign, foreignReply_injective (Except.ok.inj reported)]
    | @performed next =>
      cases shown : shown limits next with
      | error => simp [shown, orFault, Except.mapError] at reported
      | ok reply =>
        rw [shown] at reported
        cases Except.ok.inj reported
        exact absurd shown (shown_ne_foreignReply limits next c)
    | failed => cases reported
  · intro foreign
    simp only [enter, noCommand, foreign]
    rfl

end Console

namespace Session

/-- The expression is typed and no foreign character is on show. -/
structure IsTyped (session : Session) : Prop where
  keyed : Keyed session.expression.withoutSign
  error : session.error ≠ some .invalidCharacter

theorem IsTyped.change {stack : Stack} {limits : Limits} {session next : Session} {action : Action}
    (typed : session.IsTyped) (change : Change stack limits session action next) :
    next.IsTyped := by
  refine ⟨keyed_of_change typed.keyed change, ?_⟩
  cases change with
  | idle | forgotten => exact typed.error
  | @failed verdict kind filled calculated rejected =>
    rintro ⟨⟩
    exact (isReportable_of_calculate typed.keyed filled calculated rejected).1 rfl
  | _ => rintro ⟨⟩

theorem IsTyped.run {session : Session} (typed : session.IsTyped) (steps : List Step) :
    (session.run steps).IsTyped :=
  run_induction typed fun _ _ {_ _ _} before change => before.change change

theorem IsTyped.empty : ({} : Session).IsTyped where
  keyed := .start
  error := by rintro ⟨⟩

/-- The session is typed wherever a user gets to at the keypad and at the prompt. -/
theorem IsTyped.afterTurns {session : Session} (typed : session.IsTyped) (turns : List Turn) :
    (session.afterTurns turns).IsTyped := by
  obtain ⟨steps, same⟩ := exists_run_of_afterTurns session turns
  rw [same]
  exact typed.run steps

theorem IsTyped.of_performAll {stack : Stack} {limits : Limits} {session next : Session}
    {actions : List Action} (typed : session.IsTyped)
    (performed : session.performAll stack limits actions = (next, none)) :
    next.IsTyped := by
  rw [← run_of_performAll performed]
  exact typed.run _

end Session

namespace Console

/-- The prompt names a character of a line that is no command exactly if the lexer refuses it when
the equals signs are left out. A line in which there is none is pressed to its end, and wherever a
user has got to before, no equals sign in it leads to a report of a foreign character. -/
theorem prompt_rejects_what_lexer_rejects (stack : Stack) :
    (∀ limits session (line : Text), line.trim.head? ≠ some ':' → ∀ c,
      (enter stack limits session line).2 = .ok (foreignReply c) ↔
        ∃ place, Token.ofText (line.filter (· ≠ '=')) = .error (.foreignCharacter c place)) ∧
    ∀ turns limits (line : Text),
      (∀ c place, Token.ofText (line.filter (· ≠ '=')) ≠ .error (.foreignCharacter c place)) →
      let session := ({} : Session).afterTurns turns
      enter stack limits session line =
          answerAfter limits (session.performAll stack limits (actions line)) ∧
        ∀ front back mid after, actions line = front ++ .equals :: back →
          session.performAll stack limits front = (mid, none) →
          mid.equals stack limits = .ok after →
          after.error ≠ some .invalidCharacter := by
  refine ⟨fun limits session line noColon c => ?_, fun turns limits line lexed => ?_⟩
  · rw [reports_iff_foreign? noColon, foreign?_eq_some_iff]
  · intro session
    refine ⟨enter_of_plain (isPlainLine_of_lexed lexed), ?_⟩
    intro front back mid after shape performed evaluated
    have reached : session.IsTyped := Session.IsTyped.empty.afterTurns turns
    have typed : mid.IsTyped := reached.of_performAll performed
    exact (typed.change (Session.change_of_equals evaluated)).error

/-- The line `×) 0=` behind the line `12÷`. The operator and the parenthesis are dropped, and what
is reported is the division. -/
theorem droppedSymbols_not_reported :
    (enter .shallow {} {} ['1', '٣', '=', '$']).2 = .ok (foreignReply '٣') ∧
      (enter .shallow {} (({} : Session).afterTurns [.line .shallow {} ['1', '2', '÷']])
        ['×', ')', ' ', '0', '=']).2 = .ok ⟨false, "Error: Division by zero"⟩ ∧
      ∃ after, ({ expression := ['1', '2', '÷', '0'] } : Session).equals .shallow {} = .ok after ∧
        after.error ≠ some .invalidCharacter := by
  have refused : Token.ofText ['1', '٣', '$'] = .error (.foreignCharacter '٣' 1) := rfl
  have lexed : Token.ofText ['×', ')', ' ', '0'] =
    .ok [⟨.operator (some ['*']), 0⟩, ⟨.closing (some [')']), 1⟩, ⟨.number 0, 2⟩, .mark 3] := rfl
  obtain ⟨named, silent⟩ := prompt_rejects_what_lexer_rejects .shallow
  obtain ⟨entered, reports⟩ :=
    silent [.line .shallow {} ['1', '2', '÷']] {} ['×', ')', ' ', '0', '=']
    fun c place other => by cases lexed.symm.trans other
  refine ⟨(named {} {} ['1', '٣', '=', '$'] (by decide) '٣').mpr ⟨1, refused⟩, ?_, _, rfl, ?_⟩
  · rw [entered]
    rfl
  · exact reports [.press ['×'], .press [')'], .press ['0']] [] _ _ rfl rfl rfl

end Console

end Reckoner
