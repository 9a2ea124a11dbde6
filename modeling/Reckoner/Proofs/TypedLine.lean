import Reckoner.CommandLine
import Reckoner.Proofs.Canonical
import Reckoner.Proofs.Reports
import Reckoner.Proofs.SessionRun

namespace Reckoner

variable {stack : Stack}

namespace Session

variable {limits : Limits} {session mid : Session} {front : List Action}

theorem performAll_append (back : List Action)
    (performed : session.performAll stack limits front = (mid, none)) :
    session.performAll stack limits (front ++ back) = mid.performAll stack limits back := by
  induction front generalizing session with
  | nil =>
    cases performed
    rfl
  | cons action rest ih =>
    rw [List.cons_append, performAll]
    rw [performAll] at performed
    cases here : session.perform stack limits action with
    | ok next =>
      rw [here] at performed
      exact ih performed
    | error fault =>
      rw [here] at performed
      cases performed

theorem allEvents_append (back : List Action)
    (performed : session.performAll stack limits front = (mid, none)) :
    session.allEvents stack limits (front ++ back) =
      session.allEvents stack limits front ++ mid.allEvents stack limits back := by
  induction front generalizing session with
  | nil =>
    cases performed
    rfl
  | cons action rest ih =>
    rw [List.cons_append, allEvents, allEvents, List.append_assoc]
    rw [performAll] at performed
    cases here : session.perform stack limits action with
    | ok next =>
      rw [here] at performed
      simp only [ih performed]
    | error fault =>
      rw [here] at performed
      cases performed

/-- The symbols of a text, one after the other. -/
def presses (t : Text) : List Action :=
  t.map fun c => .press [c]

theorem presses_append (front back : Text) :
    presses (front ++ back) = presses front ++ presses back :=
  List.map_append

/-- A text that can be typed is typed in full, and no symbol of it is dropped. -/
theorem performAll_of_typed (limits : Limits) {t : Text} (typed : Typed t) :
    ({} : Session).performAll stack limits (presses t) = ({ expression := t }, none) ∧
      ({} : Session).allEvents stack limits (presses t) = [] := by
  induction typed with
  | start => exact ⟨rfl, rfl⟩
  | @press t c _ accepted _ ih =>
    obtain ⟨performed, silent⟩ := ih
    have pressed : ({ expression := t } : Session).press [c] = .ok { expression := t ++ [c] } := by
      simp [press, accepted]
    have quiet : ({ expression := t } : Session).pressEvents [c] = [] := by
      simp [pressEvents, accepted]
    rw [presses_append, performAll_append _ performed, allEvents_append _ performed, silent]
    simp [presses, performAll, allEvents, perform, events, pressed, quiet]

end Session

theorem Text.isOpenEnded_map_canonicalGlyph {t : Text} :
    IsOpenEnded (t.map canonicalGlyph) ↔ t.IsOpenEnded := by
  have chain : chained none (t.map canonicalGlyph) = chained none t :=
    chained_map_canonicalGlyph none t
  rw [IsOpenEnded, IsOpenEnded, chain, finalDepth?_map_canonicalGlyph]

section Derived

variable {e : Text}

theorem Text.IsDerivable.typed (derivable : e.IsDerivable) :
    Typed (e.withoutBlanks.map displayGlyph) := by
  obtain ⟨chain, balance, _⟩ := Text.isDerivable_iff.mp derivable
  have openEnded : e.withoutBlanks.IsOpenEnded := ⟨chain, 0, balance⟩
  rw [typed_iff_isOpenEnded, ← Text.isOpenEnded_map_canonicalGlyph,
    Text.map_canonicalGlyph_display, Text.isOpenEnded_map_canonicalGlyph]
  exact openEnded

theorem Text.IsDerivable.filled (derivable : e.IsDerivable) : e.withoutBlanks ≠ [] := by
  intro empty
  obtain ⟨_, _, ended⟩ := Text.isDerivable_iff.mp derivable
  rw [empty] at ended
  cases ended

theorem Text.IsDerivable.known (derivable : e.IsDerivable) :
    ∀ c ∈ e.withoutBlanks, c.isDigit = true ∨ (Lexeme.ofChar? c).isSome = true :=
  known_of_chained (Text.isDerivable_iff.mp derivable).1

theorem Text.IsDerivable.head_ne_dash (derivable : e.IsDerivable) :
    e.head? ≠ some '-' := by
  intro dash
  obtain ⟨rest, rfl⟩ := List.head?_eq_some_iff.mp dash
  have chain := (Text.isDerivable_iff.mp derivable).1
  have visible : withoutBlanks ('-' :: rest) = '-' :: withoutBlanks rest := rfl
  rw [visible] at chain
  cases chain

end Derived

theorem Text.mem_of_mem_trim {c : Char} {t : Text} (member : c ∈ t.trim) : c ∈ t := by
  have inner : c ∈ (trimStart t).reverse :=
    (List.dropWhile_suffix _).subset (List.mem_reverse.mp member)
  exact (List.dropWhile_suffix _).subset (List.mem_reverse.mp inner)

namespace Console

/-- A character that the lexer knows is pressed under its display glyph. -/
theorem actionOf_of_known {c : Char}
    (known : c.isDigit = true ∨ (Lexeme.ofChar? c).isSome = true) :
    actionOf c = .press [displayGlyph c] ∧ isTypable c = true := by
  rcases known with digit | made
  · have notEquals : c ≠ '=' := by
      rintro rfl
      cases digit
    simp [actionOf, isTypable, keySymbol?, digit, notEquals, displayGlyph_of_isDigit digit]
  · obtain ⟨lexeme, made⟩ := Option.isSome_iff_exists.mp made
    rcases Lexeme.terminal_of_ofChar? made with ⟨op, glyph, _⟩ | ⟨rfl, _⟩ | ⟨rfl, _⟩
    · unfold Operator.ofGlyph? at glyph
      split at glyph <;> first | exact ⟨rfl, rfl⟩ | cases glyph
    · exact ⟨rfl, rfl⟩
    · exact ⟨rfl, rfl⟩

/-- A line without a colon is no command. -/
theorem ofLine?_eq_none {line : Text} (noColon : ':' ∉ line) : Command.ofLine? line = none := by
  unfold Command.ofLine?
  split
  · rename_i name shape
    have member : ':' ∈ line.trim := by
      rw [shape]
      exact List.mem_cons_self ..
    exact absurd (Text.mem_of_mem_trim member) noColon
  · rfl

theorem foreign?_eq_none {line : Text} (typable : ∀ c ∈ line.withoutBlanks, isTypable c = true) :
    foreign? line = none := by
  rw [foreign?, List.find?_eq_none]
  intro c member
  simp [typable c member]

/-- The line of an expression and an equals sign. -/
theorem actions_line {e : Text}
    (known : ∀ c ∈ e.withoutBlanks, c.isDigit = true ∨ (Lexeme.ofChar? c).isSome = true) :
    actions e = Session.presses (e.withoutBlanks.map displayGlyph) ∧
      actions (e ++ ['=']) = actions e ++ [.equals] ∧
      Command.ofLine? (e ++ ['=']) = none ∧ foreign? (e ++ ['=']) = none := by
  have pressed : actions e = Session.presses (e.withoutBlanks.map displayGlyph) := by
    rw [actions, Session.presses, List.map_map]
    exact List.map_congr_left fun c member => (actionOf_of_known (known c member)).1
  have visible : (e ++ ['=']).withoutBlanks = e.withoutBlanks ++ ['='] :=
    Text.withoutBlanks_append e ['=']
  have closed : actions (e ++ ['=']) = actions e ++ [.equals] := by
    rw [actions, visible, List.map_append]
    rfl
  have noColon : ':' ∉ e ++ ['='] := by
    intro member
    have inside : ':' ∈ e := by simpa using member
    have shown : ':' ∈ e.withoutBlanks := List.mem_filter.mpr ⟨inside, rfl⟩
    rcases known _ shown with digit | made
    · cases digit
    · cases made
  have typable : ∀ c ∈ (e ++ ['=']).withoutBlanks, isTypable c = true := by
    intro c member
    rw [visible, List.mem_append, List.mem_singleton] at member
    rcases member with inside | rfl
    · exact (actionOf_of_known (known c inside)).2
    · rfl
  exact ⟨pressed, closed, ofLine?_eq_none noColon, foreign?_eq_none typable⟩

end Console

/-- What a verdict is answered with. -/
def Verdict.answer (limits : Limits) : Verdict → Console.Reply
  | .result value => ⟨true, String.ofList (Numeral.text value)⟩
  | .tooLong _ => ⟨false, Console.errorText limits .digitLimitExceeded⟩
  | .rejected kind | .failed kind _ => ⟨false, Console.errorText limits kind⟩

theorem Verdict.answer_of_error {limits : Limits} {verdict : Verdict} {kind : ErrorKind}
    (failed : verdict.error? = some kind) :
    verdict.answer limits = ⟨false, Console.errorText limits kind⟩ := by
  cases verdict <;> cases failed <;> rfl

/-- The command line answers with the verdict, and tells by its exit code whether it is an error. -/
theorem evaluateOnce_eq_answer {limits : Limits} {t : Text} {verdict : Verdict}
    (calculated : calculate stack limits t = .ok verdict) :
    CommandLine.evaluateOnce stack limits t =
      ⟨(verdict.answer limits).output ++ "\n",
        .ok (if (verdict.answer limits).ok then 0 else 1)⟩ := by
  unfold CommandLine.evaluateOnce
  rw [calculated]
  cases verdict <;> rfl

theorem isWritable_of_calculate {limits : Limits} {t : Text} {value : Int}
    (calculated : calculate stack limits t = .ok (.result value)) :
    Numeral.isWritable value = true := by
  have fits : Numeral.digitCount value ≤ limits.maxDigits :=
    (Numeral.fits_iff limits.maxDigits_pos).mp (fits_of_calculate calculated)
  exact Numeral.isWritable_iff.mpr (fits.trans limits.maxDigits_le)

/-- An equals sign shows the verdict. -/
theorem Session.shown_of_equals {limits : Limits} {session : Session} {verdict : Verdict}
    (typed : session.expression ≠ [])
    (calculated : calculate stack limits session.expression = .ok verdict) :
    ∃ after, session.equals stack limits = .ok after ∧
      Console.shown limits after = .ok (verdict.answer limits) := by
  cases failed : verdict.error? with
  | some kind =>
    refine ⟨_, equals_of_error typed calculated failed, ?_⟩
    rw [Verdict.answer_of_error failed]
    rfl
  | none =>
    cases verdict with
    | result value =>
      have writable := isWritable_of_calculate calculated
      refine ⟨_, equals_of_result typed calculated, ?_⟩
      simp [Console.shown, showResult, Numeral.text?, writable, Verdict.answer]
    | rejected | failed | tooLong => cases failed

theorem CommandLine.classify?_of_head {t : Text} (noDash : t.head? ≠ some '-') :
    classify? t = some (.value t) := by
  unfold classify?
  split
  · exact absurd rfl noDash
  · exact absurd rfl noDash
  · exact absurd rfl noDash
  · rfl

theorem CommandLine.classifyAll?_cons {t : Text} (rest : List Text) (plain : t ≠ ['-', '-']) :
    classifyAll? (t :: rest) = (do return (← classify? t) :: (← classifyAll? rest)) := by
  rw [classifyAll?]
  exact plain

/-- An expression that does not begin with a dash can be given on the command line. -/
theorem CommandLine.plan_expr {t : Text} (noDash : t.head? ≠ some '-') (env : Environment) :
    plan env [Flag.expr.name.toList, t] = .evaluate env.limits t := by
  have notSeparator : t ≠ ['-', '-'] := by
    rintro rfl
    exact noDash rfl
  have named : classify? Flag.expr.name.toList = some (.flag .expr none) := by decide
  have read : classifyAll? [Flag.expr.name.toList, t] = some [.flag .expr none, .value t] := by
    rw [classifyAll?_cons [t] (by decide), classifyAll?_cons [] notSeparator, named,
      classify?_of_head noDash]
    rfl
  have given : request [Flag.expr.name.toList, t] = .options { expression := .value t } := by
    simp [request, read, readArguments, Options.set?, Mention.ofText?, notSeparator]
  rw [plan, given]
  rfl

/-- Evaluation notes nothing but the calculation. -/
theorem Session.source_of_equals {limits : Limits} {session : Session} {event : Event}
    (noted : event ∈ session.allEvents stack limits [.equals]) : event.source = .calculation := by
  rw [allEvents, List.mem_append] at noted
  rcases noted with now | later
  · simp only [events, calculationEvents] at now
    split at now
    · cases now
    · split at now
      · rw [List.mem_singleton.mp now]
        rfl
      · cases now
  · split at later <;> cases later

/-- What the grammar derives is typed in full, and the line that it makes with an equals sign is
answered as the command line answers it: with its value, or with what is wrong with it. Neither of
the two stacks plays a part. -/
theorem line_answered_as_argument (stack other : Stack) (limits : Limits) {e : Text}
    (derivable : e.IsDerivable)
    (nests : e.NestsWithin 300) :
    ({} : Session).performAll stack limits (Console.actions e) =
        ({ expression := e.withoutBlanks.map displayGlyph }, none) ∧
      (∀ event ∈ Console.events stack limits {} (e ++ ['=']), event.source = .calculation) ∧
      (∀ env, CommandLine.plan env [CommandLine.Flag.expr.name.toList, e] =
        .evaluate env.limits e) ∧
      ∃ verdict reply, calculate other limits e = .ok verdict ∧
        (Console.enter stack limits {} (e ++ ['='])).2 = .ok reply ∧
        (∀ value, verdict.value? = some value → verdict.error? = none →
          reply = ⟨true, String.ofList (Numeral.text value)⟩) ∧
        (∀ kind, verdict.error? = some kind → reply = ⟨false, Console.errorText limits kind⟩) ∧
        ∀ env arguments input, CommandLine.plan env arguments = .evaluate limits e →
          CommandLine.run other env arguments input =
            ⟨reply.output ++ "\n", .ok (if reply.ok then 0 else 1)⟩ := by
  obtain ⟨pressed, closed, noCommand, typable⟩ := Console.actions_line derivable.known
  obtain ⟨performed, silent⟩ := Session.performAll_of_typed limits derivable.typed
  rw [← pressed] at performed silent
  obtain ⟨verdict, calculated⟩ :=
    calculate_of_isDerivable limits derivable (nests.mono other.ample)
  have calculatedToo : calculate stack limits (e.withoutBlanks.map displayGlyph) = .ok verdict := by
    rw [← calculated, calculate_of_shallow other stack limits nests]
    exact calculate_eq_of_canonical limits (Text.canonical_pressed e)
  have typed : ({ expression := e.withoutBlanks.map displayGlyph } : Session).expression ≠ [] := by
    rw [ne_eq, List.map_eq_nil_iff]
    exact derivable.filled
  obtain ⟨after, evaluated, shown⟩ := Session.shown_of_equals typed calculatedToo
  have whole : ({} : Session).performAll stack limits (Console.actions (e ++ ['='])) =
      (after, none) := by
    rw [closed, Session.performAll_append _ performed]
    simp [Session.performAll, Session.perform, evaluated]
  refine ⟨performed, ?_, CommandLine.plan_expr derivable.head_ne_dash, verdict,
    verdict.answer limits, calculated, ?_, ?_, ?_, ?_⟩
  · intro event noted
    have later : event ∈ ({ expression := e.withoutBlanks.map displayGlyph } : Session).allEvents
        stack limits [.equals] := by
      simp only [Console.events, noCommand, typable, closed] at noted
      rw [Session.allEvents_append _ performed, silent] at noted
      exact noted
    exact Session.source_of_equals later
  · simp only [Console.enter, noCommand, typable, whole, shown]
    rfl
  · intro value known noError
    cases verdict <;> cases known <;> cases noError
    rfl
  · intro kind failed
    exact Verdict.answer_of_error failed
  · intro env arguments input planned
    rw [CommandLine.run, planned]
    exact evaluateOnce_eq_answer calculated

/-- The text `7 *(2 -10)/3`, whose quotient is rounded down. -/
def roundedDown : Text :=
  ['7', ' ', '*', '(', '2', ' ', '-', '1', '0', ')', '/', '3']

theorem roundedDown_answered :
    roundedDown.IsDerivable ∧ roundedDown.NestsWithin 300 ∧
      (Console.enter .shallow {} {} (roundedDown ++ ['='])).2 = .ok ⟨true, "-19"⟩ ∧
      CommandLine.run .shallow (fun _ => none) [CommandLine.Flag.expr.name.toList, roundedDown] [] =
        ⟨"-19\n", .ok 0⟩ := by
  have derivable : roundedDown.IsDerivable := Text.isDerivable_iff.mpr (by decide)
  have nests : roundedDown.NestsWithin 300 := by decide
  obtain ⟨_, _, planned, verdict, reply, calculated, answered, valued, _, printed⟩ :=
    line_answered_as_argument .shallow .shallow {} derivable nests
  have known : calculate .shallow {} roundedDown = .ok (.result (-19)) := rfl
  obtain rfl := Except.ok.inj (calculated.symm.trans known)
  obtain rfl := valued (-19) rfl rfl
  have written : String.ofList (Numeral.text (-19)) = "-19" := rfl
  rw [written] at answered printed
  exact ⟨derivable, nests, answered, printed _ _ [] (planned fun _ => none)⟩

end Reckoner
