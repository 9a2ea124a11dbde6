import Reckoner.Proofs.KeyedText
import Reckoner.Proofs.TypedLine

namespace Reckoner

/-- White space, digits, operators, parentheses and equals signs only. -/
def Text.IsPlainLine (line : Text) : Prop :=
  ∀ c ∈ line, isBlank c = true ∨ isKey c = true ∨ c = '='

instance (line : Text) : Decidable line.IsPlainLine :=
  List.decidableBAll _ line

/-- The keys for what is visible of a line. The display glyphs are on no key, so the keys of their
canonical glyphs stand for them. -/
def Text.keystrokes (line : Text) : List Text :=
  line.withoutBlanks.map fun c => [canonicalGlyph c]

/-- Keys in order, up to the first that fails; the session is the one it failed on. -/
def Session.pressKeys (stack : Stack) (limits : Limits) (session : Session) :
    List Text → Session × Option Fault
  | [] => (session, none)
  | key :: rest =>
    match session.pressKey stack limits key with
    | .ok next => pressKeys stack limits next rest
    | .error fault => (session, some fault)

namespace Console

/-- The answer after actions: what the session shows, or the fault that they ended with. -/
def answerAfter (limits : Limits) : Session × Option Fault → Session × Except Interruption Reply
  | (after, none) => (after, orFault (shown limits after))
  | (after, some fault) => (after, .error (.fault fault))

variable {stack : Stack} {limits : Limits} {session mid : Session} {line front back : Text}

theorem isKey_of_keySymbol? {c : Char} (symbol : (keySymbol? c).isSome = true) :
    isKey c = true := by
  unfold keySymbol? at symbol
  split at symbol
  · rename_i digit
    simp [isKey, digit]
  · split at symbol <;> first | rfl | cases symbol

/-- What can be typed is what has a key, under either glyph, and the equals sign. -/
theorem isTypable_iff {c : Char} : isTypable c = true ↔ isKey c = true ∨ c = '=' := by
  constructor
  · intro typable
    simp only [isTypable, Bool.or_eq_true, beq_iff_eq] at typable
    rcases typable with ((symbol | rfl) | rfl) | equals
    · exact Or.inl (isKey_of_keySymbol? symbol)
    · exact Or.inl rfl
    · exact Or.inl rfl
    · exact Or.inr equals
  · rintro (key | rfl)
    · exact (actionOf_of_known (known_of_isKey key)).2
    · rfl

/-- The key for a character does what the character does. -/
theorem ofKey?_canonicalGlyph {c : Char} (typable : isTypable c = true) :
    Action.ofKey? [canonicalGlyph c] = some (actionOf c) := by
  rcases isTypable_iff.mp typable with key | rfl
  · simp only [isKey, Bool.or_eq_true, beq_iff_eq] at key
    rcases key with ((digit | operator) | rfl) | rfl
    · have notEquals : c ≠ '=' := by
        rintro rfl
        cases digit
      rw [canonicalGlyph_eq_self (isOperator_of_isDigit digit)]
      simp [Action.ofKey?, actionOf, keySymbol?, digit, notEquals]
    · obtain ⟨op, glyph⟩ := Option.isSome_iff_exists.mp operator
      unfold Operator.ofGlyph? at glyph
      split at glyph <;> first | rfl | cases glyph
    · rfl
    · rfl
  · rfl

theorem pressKeys_eq_performAll {t : Text} (typable : ∀ c ∈ t, isTypable c = true) :
    session.pressKeys stack limits (t.map fun c => [canonicalGlyph c]) =
      session.performAll stack limits (t.map actionOf) := by
  induction t generalizing session with
  | nil => rfl
  | cons c rest ih =>
    obtain ⟨here, later⟩ := List.forall_mem_cons.mp typable
    have pressed : session.pressKey stack limits [canonicalGlyph c] =
        session.perform stack limits (actionOf c) := by
      rw [Session.pressKey, ofKey?_canonicalGlyph here]
    rw [List.map_cons, List.map_cons, Session.pressKeys, Session.performAll, pressed]
    cases session.perform stack limits (actionOf c) with
    | ok next => exact ih later
    | error fault => rfl

/-- A line is plain if nothing in it is foreign. -/
theorem foreign?_eq_none_iff : foreign? line = none ↔ line.IsPlainLine := by
  constructor
  · intro none c member
    cases blank : Text.isBlank c with
    | true => exact Or.inl rfl
    | false =>
      have visible : c ∈ line.withoutBlanks := List.mem_filter.mpr ⟨member, by simp [blank]⟩
      have typable := List.find?_eq_none.mp none c visible
      exact Or.inr (isTypable_iff.mp (by simpa using typable))
  · intro plain
    refine foreign?_eq_none fun c visible => ?_
    rcases plain c (List.mem_of_mem_filter visible) with blank | typable
    · rw [Text.isBlank_of_mem_withoutBlanks visible] at blank
      cases blank
    · exact isTypable_iff.mpr typable

section Plain

variable (plain : line.IsPlainLine)

include plain

/-- A plain line is no command, so all of it is pressed. -/
theorem enter_of_plain :
    enter stack limits session line =
      answerAfter limits (session.performAll stack limits (actions line)) := by
  have noColon : ':' ∉ line := by
    intro member
    rcases plain ':' member with blank | key | equals
    · cases blank
    · cases key
    · cases equals
  simp only [enter, ofLine?_eq_none noColon, foreign?_eq_none_iff.mpr plain]
  split <;> simp only [answerAfter, *]

theorem pressKeys_of_plain :
    session.pressKeys stack limits line.keystrokes =
      session.performAll stack limits (actions line) := by
  refine pressKeys_eq_performAll fun c visible => ?_
  have typable := List.find?_eq_none.mp (foreign?_eq_none_iff.mpr plain) c visible
  simpa using typable

/-- A plain line that is answered has been pressed to its end. -/
theorem performAll_of_reply {reply : Reply}
    (answered : enter stack limits session line = (mid, .ok reply)) :
    session.performAll stack limits (actions line) = (mid, none) := by
  rw [enter_of_plain plain] at answered
  generalize session.performAll stack limits (actions line) = performed at answered
  obtain ⟨after, fault?⟩ := performed
  cases fault? with
  | none =>
    obtain ⟨same, _⟩ := Prod.mk.inj answered
    rw [same]
  | some fault => cases answered

end Plain

theorem actions_append (front back : Text) :
    actions (front ++ back) = actions front ++ actions back := by
  rw [actions, Text.withoutBlanks_append, List.map_append]
  rfl

/-- Where a plain line is cut in two does not matter: if the first part is answered, then the second
one after it is answered as the whole line is, and leaves the same session. A plain line does what
its keys do in order. At an equals sign that fails it leaves the session as the keys before the sign
do. A line that is neither plain nor a command is answered with an error and changes nothing. -/
theorem cut_of_line_is_free (stack : Stack) (limits : Limits) (session : Session) :
    (∀ front back : Text, front.IsPlainLine → back.IsPlainLine →
      ∀ mid reply, enter stack limits session front = (mid, .ok reply) →
        enter stack limits mid back = enter stack limits session (front ++ back)) ∧
    (∀ line : Text, line.IsPlainLine →
      enter stack limits session line =
        answerAfter limits (session.pressKeys stack limits line.keystrokes)) ∧
    (∀ front back : Text, (front ++ '=' :: back).IsPlainLine →
      ∀ mid fault, session.pressKeys stack limits front.keystrokes = (mid, none) →
        mid.equals stack limits = .error fault →
        enter stack limits session (front ++ '=' :: back) = (mid, .error (.fault fault))) ∧
    ∀ line : Text, Command.ofLine? line = none → ¬ line.IsPlainLine →
      ∃ output, enter stack limits session line = (session, .ok ⟨false, output⟩) := by
  refine ⟨fun front back plain plainToo mid reply answered => ?_, fun line plain => ?_,
    fun front back plain mid fault pressed failed => ?_, fun line noCommand notPlain => ?_⟩
  · have whole : (front ++ back).IsPlainLine := List.forall_mem_append.mpr ⟨plain, plainToo⟩
    rw [enter_of_plain plainToo, enter_of_plain whole, actions_append,
      Session.performAll_append _ (performAll_of_reply plain answered)]
  · rw [enter_of_plain plain, pressKeys_of_plain plain]
  · obtain ⟨plainFront, _⟩ := List.forall_mem_append.mp plain
    rw [pressKeys_of_plain plainFront] at pressed
    have shape : actions (front ++ '=' :: back) = actions front ++ .equals :: actions back := by
      rw [actions_append]
      rfl
    have ended : mid.performAll stack limits (.equals :: actions back) = (mid, some fault) := by
      rw [Session.performAll, Session.perform, failed]
    rw [enter_of_plain plain, shape, Session.performAll_append _ pressed, ended]
    rfl
  · obtain ⟨c, foreign⟩ := Option.ne_none_iff_exists'.mp (mt foreign?_eq_none_iff.mp notPlain)
    simp only [enter, noCommand, foreign]
    exact ⟨_, rfl⟩

/-- The line `12÷ 0=`, cut behind the operator. -/
theorem quotient_cut_answered :
    Text.IsPlainLine ['1', '2', '÷'] ∧ Text.IsPlainLine [' ', '0', '='] ∧
      ∃ mid reply, enter .shallow {} {} ['1', '2', '÷'] = (mid, .ok reply) ∧
        enter .shallow {} mid [' ', '0', '='] =
          enter .shallow {} {} ['1', '2', '÷', ' ', '0', '='] ∧
        (enter .shallow {} mid [' ', '0', '=']).2 = .ok ⟨false, "Error: Division by zero"⟩ := by
  have plain : Text.IsPlainLine ['1', '2', '÷'] := by decide
  have plainToo : Text.IsPlainLine [' ', '0', '='] := by decide
  have answered : enter .shallow {} {} ['1', '2', '÷'] =
      ({ expression := ['1', '2', '÷'] }, .ok ⟨true, "12÷"⟩) := rfl
  have same := (cut_of_line_is_free .shallow {} {}).1 _ _ plain plainToo _ _ answered
  exact ⟨plain, plainToo, _, _, answered, same, rfl⟩

end Console

end Reckoner
