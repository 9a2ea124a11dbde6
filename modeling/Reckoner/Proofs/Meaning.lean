import Reckoner.Proofs.FlatAgreement
import Reckoner.Proofs.Reading
import Reckoner.Proofs.Written

namespace Reckoner

variable {stack : Stack}

namespace Evaluation

/-- The result that the value of a formula calls for. -/
def resultOf : Option Int → Except Fault Int
  | some value => .ok value
  | none => .error .divisionByZero

theorem run_of_derives {tokens : List Token} {formula : Formula} {stop : Token}
    (derived : Derives .expression tokens formula) (stopped : stop.terminal = .stop) :
    (run .whole none (tokens ++ [stop])).result = resultOf formula.value? := by
  have reading := derived.readAs .whole [] fun _ _ => rfl
  cases value : formula.value? with
  | none =>
    rw [value] at reading
    exact runFrom_result_of_fail 0 [stop] reading
  | some v =>
    rw [value] at reading
    obtain ⟨sum, term, closed, reached⟩ := reading
    rw [run, State.start, runFrom_append 0 [stop] reached]
    simp [runFrom, step, stopped, Rule.answer, closed, resultOf]

theorem isTerminated_marked (tokens : List Token) (pos : Nat) :
    isTerminated (tokens ++ [Token.mark pos]) = true := by
  simp [isTerminated, Token.mark, Token.terminal, Lexeme.terminal]

theorem evaluateTokens_marked (tokens : List Token) (pos : Nat) :
    evaluateTokens stack (tokens ++ [Token.mark pos]) =
      (run .whole (some stack.room) (tokens ++ [Token.mark pos])).result := by
  rw [evaluateTokens, Rule.evaluate, if_pos (isTerminated_marked tokens pos)]
  rfl

/-- The tokens in front of the only end mark. -/
theorem eq_of_append_stop {tokens front back : List Token} {last stop : Token}
    (unmarked : ∀ token ∈ tokens, token.terminal ≠ .stop) (stopped : stop.terminal = .stop)
    (same : tokens ++ [last] = front ++ stop :: back) : front = tokens := by
  rcases List.append_eq_append_iff.mp same with ⟨more, rfl, rest⟩ | ⟨more, rfl, rest⟩
  · cases more with
    | nil => rw [List.append_nil]
    | cons first more => simp at rest
  · cases more with
    | nil => rw [List.append_nil]
    | cons first more =>
      cases rest
      exact absurd stopped (unmarked stop (by simp))

/-- A run that gives a value has read what the grammar derives. -/
theorem exists_derives_of_run {tokens : List Token} {pos : Nat} {value : Int}
    (unmarked : ∀ token ∈ tokens, token.terminal ≠ .stop)
    (ended : (run .whole none (tokens ++ [Token.mark pos])).result = .ok value) :
    ∃ formula, Derives .expression tokens formula ∧ formula.value? = some value := by
  rcases run_ends (isTerminated_marked tokens pos) with byZero |
    ⟨front, stop, back, last, verdict, same, _, read, settled, allows⟩
  · cases ended.symm.trans byZero
  have accepted : verdict = .accepted := by
    cases verdict with
    | accepted => rfl
    | rejected depth kind =>
      rcases allows with ⟨_, _, refused⟩ | ⟨_, fault, _, _, refused⟩
      · cases ended.symm.trans refused
      · cases ended.symm.trans refused
  subst accepted
  obtain ⟨stopped, rfl⟩ := Flat.of_accepted settled
  obtain rfl := eq_of_append_stop unmarked stopped same
  obtain ⟨formula, derived⟩ := Flat.derives_iff_readAll?.mpr read
  have result : (run .whole none (front ++ [Token.mark pos])).result = resultOf formula.value? :=
    run_of_derives derived rfl
  rw [ended] at result
  cases known : formula.value? with
  | none => simp [known, resultOf] at result
  | some v =>
    simp only [known, resultOf, Except.ok.injEq] at result
    exact ⟨formula, derived, by rw [known, result]⟩

end Evaluation

open Evaluation

theorem isAllBlank_of_cut {t : Text} {tokens : List Token} {formula : Formula} {rule : Rule}
    (cut : Token.Cut 0 t.withoutBlanks tokens) (derived : Derives rule tokens formula) :
    t.isAllBlank = false := by
  rw [Bool.eq_false_iff]
  intro blank
  rw [← Text.withoutBlanks_eq_nil_iff] at blank
  rw [blank] at cut
  obtain rfl := cut.eq_nil
  have read := Flat.readAll?_of_derives derived 0
  cases read

theorem evaluate_of_cut {t : Text} {tokens : List Token} (cut : Token.Cut 0 t.withoutBlanks tokens)
    (filled : t.isAllBlank = false) :
    evaluate stack t = evaluateTokens stack (tokens ++ [Token.mark t.withoutBlanks.length]) := by
  rw [evaluate, if_neg (by simp [filled]), Token.ofText_eq_ok_iff.mpr ⟨tokens, cut, rfl⟩]
  rfl

/-- A text that gives a value renders a formula of that value, however deeply it nests. -/
theorem exists_renders_of_evaluate {t : Text} {value : Int}
    (evaluated : evaluate stack t = .ok value) :
    ∃ formula : Formula, formula.Renders t ∧ formula.value? = some value := by
  cases blank : t.isAllBlank with
  | true => simp [evaluate, blank] at evaluated
  | false =>
    cases made : Token.ofText t with
    | error fault => simp [evaluate, blank, made, bind, Except.bind] at evaluated
    | ok all =>
      obtain ⟨tokens, cut, rfl⟩ := Token.ofText_eq_ok_iff.mp made
      rw [evaluate_of_cut cut blank, evaluateTokens_marked] at evaluated
      have unlimited : (run .whole none (tokens ++ [Token.mark t.withoutBlanks.length])).result =
          .ok value := by
        rcases runFrom_limited .whole (some stack.room) .start 0
          (tokens ++ [Token.mark t.withoutBlanks.length]) with same | deep
        · rw [run, ← same]
          exact evaluated
        · cases evaluated.symm.trans deep
      obtain ⟨formula, derived, known⟩ := exists_derives_of_run cut.terminal_ne_stop unlimited
      obtain ⟨wrapped, written, _⟩ := Formula.exists_written derived cut
      exact ⟨formula, ⟨wrapped, written⟩, known⟩

/-- A text that renders a formula is evaluated to the value of the formula. -/
theorem evaluate_of_renders {t : Text} {formula : Formula}
    (nests : t.NestsWithin stack.room) (renders : formula.Renders t) :
    evaluate stack t = resultOf formula.value? := by
  obtain ⟨wrapped, written⟩ := renders
  obtain ⟨tokens, cut, derived⟩ := written.exists_cut 0
  have expression := derived .expression trivial
  have unlimited (pos : Nat) : run .whole (some stack.room) (tokens ++ [Token.mark pos]) =
      run .whole none (tokens ++ [Token.mark pos]) :=
    run_of_nests (cut.nestWithin nests.withoutBlanks)
  rw [evaluate_of_cut cut (isAllBlank_of_cut cut expression), evaluateTokens_marked, unlimited]
  exact run_of_derives expression rfl

/-- The value of a text whose parentheses do not nest too deeply is the value of the formula that
the text renders; it divides by zero if that formula does. -/
theorem evaluate_eq_value_of_rendered (stack : Stack) {t : Text} (nests : t.NestsWithin 300) :
    (∀ value, evaluate stack t = .ok value ↔
      ∃ formula : Formula, formula.Renders t ∧ formula.value? = some value) ∧
    ∀ formula : Formula, formula.Renders t → formula.DividesByZero →
      evaluate stack t = .error .divisionByZero := by
  have room : t.NestsWithin stack.room := nests.mono stack.ample
  refine ⟨fun value => ⟨exists_renders_of_evaluate, ?_⟩, ?_⟩
  · rintro ⟨formula, renders, known⟩
    rw [evaluate_of_renders room renders, known]
    rfl
  · intro formula renders divides
    rw [evaluate_of_renders room renders, Formula.value?_eq_none_iff.mpr divides]
    rfl

/-- The text `(3 - 10)÷ 02`, in which a negative number is divided. -/
def floored : Text :=
  ['(', '3', ' ', '-', ' ', '1', '0', ')', '÷', ' ', '0', '2']

/-- The text `1/(2-2)`. -/
def vanishing : Text :=
  ['1', '/', '(', '2', '-', '2', ')']

theorem floored_renders :
    Formula.Renders (.binary (.multiplicative .dividedBy)
      (.binary (.additive .minus) (.number 3) (.number 10)) (.number 2)) floored := by
  have difference : Formula.Written (.binary (.additive .minus) (.number 3) (.number 10)) false
      (['3'] ++ '-' :: ['1', '0']) :=
    .binary (.ofDigits (by decide) rfl rfl) (by decide) rfl
      (.ofDigits (by decide) rfl rfl) (by decide)
  have two : Formula.Written (.number 2) false ['0', '2'] :=
    .ofDigits (by decide) rfl rfl
  exact ⟨false, .binary (.wrap difference) (by decide) rfl two (by decide)⟩

theorem vanishing_renders :
    Formula.Renders (.binary (.multiplicative .dividedBy) (.number 1)
      (.binary (.additive .minus) (.number 2) (.number 2))) vanishing := by
  have one : Formula.Written (.number 1) false ['1'] := .ofDigits (by decide) rfl rfl
  have two : Formula.Written (.number 2) false ['2'] := .ofDigits (by decide) rfl rfl
  have difference := Formula.Written.binary two (by decide) (c := '-') rfl two (by decide)
  exact ⟨false, .binary one (by decide) rfl (.wrap difference) (by decide)⟩

theorem floored_and_vanishing_evaluate :
    floored.NestsWithin 300 ∧ evaluate .shallow floored = .ok (-4) ∧
      vanishing.NestsWithin 300 ∧ evaluate .shallow vanishing = .error .divisionByZero := by
  have flooredNests : floored.NestsWithin 300 := by decide
  have vanishingNests : vanishing.NestsWithin 300 := by decide
  have value : Formula.value? (.binary (.multiplicative .dividedBy)
      (.binary (.additive .minus) (.number 3) (.number 10)) (.number 2)) = some (-4) := by
    norm_num [Formula.value?, Operator.result?]
  have zero : Formula.DividesByZero (.binary (.multiplicative .dividedBy) (.number 1)
      (.binary (.additive .minus) (.number 2) (.number 2))) := .here rfl
  exact ⟨flooredNests,
    ((evaluate_eq_value_of_rendered .shallow flooredNests).1 (-4)).mpr ⟨_, floored_renders, value⟩,
    vanishingNests,
    (evaluate_eq_value_of_rendered .shallow vanishingNests).2 _ vanishing_renders zero⟩

end Reckoner
