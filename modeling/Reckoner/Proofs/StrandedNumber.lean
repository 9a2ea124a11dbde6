import Reckoner.Proofs.Canonical
import Reckoner.Proofs.KeyedText
import Reckoner.Proofs.Reports
import Reckoner.Proofs.Spans

namespace Reckoner

open Evaluation

variable {stack : Stack}

namespace Flat

variable {token : Token} {state next : State}

theorem terminal_of_read_holding {depth : Nat} (read : step token state = .read (.holding depth)) :
    (∃ value, token.terminal = .number value) ∨ token.terminal = .closing := by
  cases state with
  | expecting level =>
    cases terminal : token.terminal with
    | number value => exact Or.inl ⟨value, rfl⟩
    | opening | operator | closing | stop | foreign => simp [step, terminal] at read
  | holding level =>
    cases terminal : token.terminal with
    | closing => exact Or.inr rfl
    | number value => exact Or.inl ⟨value, rfl⟩
    | operator => simp [step, terminal] at read
    | opening | stop | foreign => cases level <;> simp [step, terminal] at read

/-- Tokens that leave an operand behind end with a number or a closing parenthesis. -/
theorem exists_last_of_readAll? {tokens : List Token} {outer depth : Nat}
    (read : readAll? (.expecting outer) tokens = some (.holding depth)) :
    ∃ front last, tokens = front ++ [last] ∧
      ((∃ value, last.terminal = .number value) ∨ last.terminal = .closing) := by
  rcases List.eq_nil_or_concat tokens with rfl | ⟨front, last, rfl⟩
  · cases read
  · rw [List.concat_eq_append, readAll?_append, Option.bind_eq_some_iff] at read
    obtain ⟨mid, _, read⟩ := read
    refine ⟨front, last, List.concat_eq_append, ?_⟩
    cases here : step last mid with
    | read next =>
      simp only [readAll?, here, Option.some.injEq] at read
      subst next
      exact terminal_of_read_holding here
    | settle => simp [readAll?, here] at read

/-- A number is refused only behind an operand. -/
theorem eq_holding_of_refused {value : Int} {depth : Nat} {kind : ErrorKind}
    (refused : step token state = .settle (.rejected depth kind))
    (number : token.terminal = .number value) : state = .holding depth := by
  cases state with
  | expecting level => simp [step, number] at refused
  | holding level => cases level <;> simp_all [step]

end Flat

namespace Evaluation

variable {tokens front back : List Token} {number : Token} {formula : Formula} {value : Int}

/-- The evaluation reads the tokens in front of a place and fails on the one there, and no division
by zero has ended it before. -/
def FailsAt (stack : Stack) (tokens : List Token) (place : Nat) : Prop :=
  ∃ outcome fault, Rule.whole.evaluate stack tokens = .ok outcome ∧ outcome.result = .error fault ∧
    fault ≠ .divisionByZero ∧ outcome.cursor = place

theorem run_behind_expression (derived : Derives .expression front formula)
    (known : formula.value? = some value) (long : number.IsLongNumber) (back : List Token) :
    run .whole none (front ++ number :: back) = ⟨.error .unwritable, front.length⟩ := by
  have reading := derived.readAs .whole [] fun _ _ => rfl
  rw [known] at reading
  obtain ⟨sum, term, _, reached⟩ := reading
  obtain ⟨_, terminal⟩ := long.terminal
  have unwritable := Token.isWritable_eq_false_iff.mpr long
  rw [run, State.start, runFrom_append 0 (number :: back) reached, Nat.zero_add]
  simp [runFrom, step, terminal, Rule.answer, unwritable]

/-- A run that cannot write out a number has come to it behind an expression that has a value. -/
theorem exists_expression_of_unwritable (terminated : isTerminated tokens = true)
    (failed : (run .whole none tokens).result = .error .unwritable) :
    ∃ front number back formula value, tokens = front ++ number :: back ∧ number.IsLongNumber ∧
      Derives .expression front formula ∧ formula.value? = some value := by
  rcases run_ends terminated with byZero |
    ⟨front, number, back, last, verdict, rfl, _, read, refused, allows⟩
  · cases failed.symm.trans byZero
  obtain ⟨kind, rfl, long⟩ : ∃ kind, verdict = .rejected 0 kind ∧ number.IsLongNumber := by
    cases verdict with
    | accepted =>
      obtain ⟨value, valued⟩ := allows
      cases failed.symm.trans valued
    | rejected depth kind =>
      rcases allows with ⟨rfl, long, _⟩ | ⟨_, fault, _, known, result⟩
      · exact ⟨kind, rfl, long⟩
      · cases failed.symm.trans result
        cases known
  obtain ⟨_, terminal⟩ := long.terminal
  obtain rfl := Flat.eq_holding_of_refused refused terminal
  obtain ⟨formula, derived⟩ := Flat.derives_iff_readAll?.mpr read
  refine ⟨front, number, back, formula, ?_⟩
  cases known : formula.value? with
  | some value => exact ⟨value, rfl, long, derived, rfl⟩
  | none =>
    have reading := derived.readAs .whole [] fun _ _ => rfl
    rw [known] at reading
    cases failed.symm.trans (runFrom_result_of_fail 0 (number :: back) reading)

/-- A run that fails at a long number outside all parentheses fails because it has to write the
number out. -/
theorem unwritable_of_fails {fault : Fault}
    (terminated : isTerminated (front ++ number :: back) = true)
    (balanced : front.countP Token.opens = front.countP Token.closes) (long : number.IsLongNumber)
    (failed : (run .whole none (front ++ number :: back)).result = .error fault)
    (other : fault ≠ .divisionByZero)
    (here : (run .whole none (front ++ number :: back)).cursor = front.length) :
    fault = .unwritable := by
  rcases run_ends terminated with byZero |
    ⟨before, token, behind, last, verdict, shape, place, read, refused, allows⟩
  · exact absurd (Except.error.inj (failed.symm.trans byZero)) other
  obtain ⟨rfl, rest⟩ := List.append_inj shape (by omega)
  obtain ⟨rfl, rfl⟩ := List.cons.inj rest
  cases verdict with
  | accepted =>
    obtain ⟨value, valued⟩ := allows
    cases failed.symm.trans valued
  | rejected depth kind =>
    obtain ⟨_, terminal⟩ := long.terminal
    obtain rfl := Flat.eq_holding_of_refused refused terminal
    have outermost : depth = 0 := by
      have level : depth + front.countP Token.closes = 0 + front.countP Token.opens :=
        Flat.depth_of_readAll? read
      omega
    rcases allows with ⟨_, _, result⟩ | ⟨apart, _⟩
    · exact Except.error.inj (failed.symm.trans result)
    · exact absurd ⟨outermost, long⟩ apart

end Evaluation

theorem Token.isNumber_of_terminal {token : Token} {value : Int}
    (terminal : token.terminal = .number value) : token.IsNumber := by
  obtain ⟨lexeme, pos⟩ := token
  cases lexeme with
  | number value => exact ⟨value, rfl⟩
  | operator text =>
    simp only [Token.terminal, Lexeme.terminal] at terminal
    split at terminal <;> cases terminal
  | opening | closing | stop | other => cases terminal

/-- Made tokens are evaluated as if parentheses could nest as deeply as they like. -/
theorem evaluate_of_made {t : Text} {tokens : List Token} (made : Token.ofText t = .ok tokens)
    (nests : t.NestsWithin stack.room) : isTerminated tokens = true ∧
      Rule.whole.evaluate stack tokens = .ok (run .whole none tokens) ∧
      valueOf stack t = (run .whole none tokens).result := by
  obtain ⟨others, cut, rfl⟩ := Token.ofText_eq_ok_iff.mp made
  have terminated := isTerminated_marked others t.withoutBlanks.length
  have unlimited : run .whole (some stack.room) (others ++ [Token.mark t.withoutBlanks.length]) =
      run .whole none (others ++ [Token.mark t.withoutBlanks.length]) :=
    run_of_nests (cut.nestWithin nests.withoutBlanks)
  exact ⟨terminated, by rw [Rule.evaluate, if_pos terminated, unlimited],
    valueOf_of_nests cut nests⟩

/-- The first failure of the evaluation is at a number too long to be written out, directly behind
a closing parenthesis that leaves none open. -/
def Text.StrandsLongNumber (stack : Stack) (t : Text) : Prop :=
  ∃ front closing number back value, Token.ofText t = .ok (front ++ closing :: number :: back) ∧
    closing.terminal = .closing ∧
    (front ++ [closing]).countP Token.opens = (front ++ [closing]).countP Token.closes ∧
    number.lexeme = .number value ∧ Nat.pow 10 Numeral.pieceLimit ≤ value.natAbs ∧
    FailsAt stack (front ++ closing :: number :: back) (front.length + 1)

/-- A long number behind an expression that has a value. -/
def Text.ExtendsExpression (t : Text) : Prop :=
  ∃ front number back formula value, Token.ofText t = .ok (front ++ number :: back) ∧
    number.IsLongNumber ∧ Derives .expression front formula ∧ formula.value? = some value

section

variable {t : Text}

theorem Text.StrandsLongNumber.valueOf_eq (stranded : t.StrandsLongNumber stack)
    (nests : t.NestsWithin stack.room) : valueOf stack t = .error .unwritable := by
  obtain ⟨front, closing, number, back, value, made, _, balanced, lexeme, large, outcome, fault,
    evaluated, failed, other, place⟩ := stranded
  have shape : front ++ closing :: number :: back = (front ++ [closing]) ++ number :: back := by
    rw [List.append_assoc, List.singleton_append]
  rw [shape] at made evaluated
  obtain ⟨terminated, ran, valued⟩ := evaluate_of_made made nests
  cases evaluated.symm.trans ran
  have long : number.IsLongNumber := Token.isLongNumber_iff.mpr ⟨value, lexeme, large⟩
  obtain rfl := unwritable_of_fails terminated balanced long failed other (by simpa using place)
  rw [valued, failed]

theorem extendsExpression_of_valueOf (nests : t.NestsWithin stack.room)
    (failed : valueOf stack t = .error .unwritable) : t.ExtendsExpression := by
  cases made : Token.ofText t with
  | error fault =>
    obtain ⟨front, c, rest, _, _, _, rfl⟩ := Token.ofText_eq_error_iff.mp made
    simp [valueOf, made, bind, Except.bind] at failed
  | ok tokens =>
    obtain ⟨terminated, _, valued⟩ := evaluate_of_made made nests
    obtain ⟨front, number, back, formula, value, rfl, behind⟩ :=
      exists_expression_of_unwritable terminated (valued.symm.trans failed)
    exact ⟨front, number, back, formula, value, made, behind⟩

theorem Text.ExtendsExpression.inAlphabet (extended : t.ExtendsExpression) :
    ∀ c ∈ t.withoutBlanks, InAlphabet c := by
  obtain ⟨_, _, _, _, _, made, _⟩ := extended
  obtain ⟨_, cut, _⟩ := Token.ofText_eq_ok_iff.mp made
  exact fun c member => Token.not_isForeign_iff_inAlphabet.mp (cut.not_isForeign c member)

/-- The expression ends with a parenthesis, since no two numbers stand next to each other. -/
theorem Text.ExtendsExpression.strandsLongNumber (extended : t.ExtendsExpression)
    (nests : t.NestsWithin stack.room) : t.StrandsLongNumber stack := by
  obtain ⟨tokens, number, back, formula, operand, made, long, derived, known⟩ := extended
  have read := Flat.derives_iff_readAll?.mp ⟨formula, derived⟩
  have balanced : 0 + tokens.countP Token.closes = 0 + tokens.countP Token.opens :=
    Flat.depth_of_readAll? read
  obtain ⟨_, ran, _⟩ := evaluate_of_made made nests
  rw [run_behind_expression derived known long] at ran
  obtain ⟨front, closing, rfl, ends⟩ := Flat.exists_last_of_readAll? read
  obtain ⟨value, lexeme, large⟩ := Token.isLongNumber_iff.mp long
  rw [List.append_assoc, List.singleton_append] at made ran
  refine ⟨front, closing, number, back, value, made, ?_, by omega, lexeme, large,
    _, _, ran, rfl, by simp, by simp⟩
  rcases ends with ⟨_, numeric⟩ | closes
  · have apart := (Token.ofText_eq_ok_iff_isCutInto.mp made).apart front closing number back rfl
    exact absurd ⟨Token.isNumber_of_terminal numeric, value, lexeme⟩ apart
  · exact closes

/-- What a long number is stranded behind is an expression of the grammar that has a value. -/
theorem Text.strandsLongNumber_iff_extendsExpression (nests : t.NestsWithin stack.room) :
    t.StrandsLongNumber stack ↔ t.ExtendsExpression :=
  ⟨fun stranded => extendsExpression_of_valueOf nests (stranded.valueOf_eq nests),
    fun extended => extended.strandsLongNumber nests⟩

theorem Verdict.some_value_or_error (verdict : Verdict) :
    verdict.value? ≠ none ∨ verdict.error? ≠ none := by
  cases verdict <;> simp [value?, error?]

theorem flaw?_ne_digitLimitExceeded (t : Text) : flaw? t ≠ some .digitLimitExceeded := by
  intro found
  cases flawed_of_flaw? found

theorem Fault.kind?_ne_digitLimitExceeded (fault : Fault) :
    fault.kind? ≠ some .digitLimitExceeded := by
  cases fault <;> simp [kind?]

/-- A value comes with an error exactly if it has too many digits. -/
theorem value_and_error_iff {limits : Limits} {verdict : Verdict}
    (calculated : calculate stack limits t = .ok verdict) :
    (verdict.value? ≠ none ∧ verdict.error? ≠ none) ↔
      verdict.error? = some .digitLimitExceeded := by
  have ways := calculate_calculated stack limits t
  rw [calculated] at ways
  cases ways with
  | @rejected kind found =>
    have other : kind ≠ .digitLimitExceeded := by
      rintro rfl
      exact flaw?_ne_digitLimitExceeded _ found
    simp [Verdict.value?, Verdict.error?, other]
  | @failed fault kind _ _ known =>
    have other : kind ≠ .digitLimitExceeded := by
      rintro rfl
      exact fault.kind?_ne_digitLimitExceeded known
    simp [Verdict.value?, Verdict.error?, other]
  | result | tooLong => simp [Verdict.value?, Verdict.error?]

/-- Whatever the limits, the calculation of a text that does not nest too deeply lets a fault out
exactly if the text is in order, has no foreign character and strands a long number. That fault has
no kind. All other texts get a value or an error, and both only if the value has too many digits. -/
theorem calculation_lets_out_stranded_numbers (stack : Stack) (limits : Limits)
    (nests : t.NestsWithin 300) :
    (∀ fault, calculate stack limits t = .error fault → fault.kind? = none) ∧
    (∀ fault, calculate stack limits t = .error fault ↔
      fault = .unwritable ∧ validate t = none ∧ (∀ c ∈ t.withoutBlanks, InAlphabet c) ∧
        t.StrandsLongNumber stack) ∧
    (¬(validate t = none ∧ (∀ c ∈ t.withoutBlanks, InAlphabet c) ∧ t.StrandsLongNumber stack) →
      ∃ verdict, calculate stack limits t = .ok verdict ∧
        (verdict.value? ≠ none ∨ verdict.error? ≠ none) ∧
        ((verdict.value? ≠ none ∧ verdict.error? ≠ none) ↔
          verdict.error? = some .digitLimitExceeded)) := by
  have room : t.NestsWithin stack.room := nests.mono stack.ample
  have lets_out (fault : Fault) : calculate stack limits t = .error fault ↔
      fault = .unwritable ∧ validate t = none ∧ (∀ c ∈ t.withoutBlanks, InAlphabet c) ∧
        t.StrandsLongNumber stack := by
    constructor
    · intro failed
      obtain rfl := eq_unwritable_of_calculate failed
      obtain ⟨valid, failed, _⟩ := valueOf_of_calculate_error failed
      have extended := extendsExpression_of_valueOf room failed
      exact ⟨rfl, valid, extended.inAlphabet, extended.strandsLongNumber room⟩
    · rintro ⟨rfl, valid, _, stranded⟩
      exact calculate_of_no_kind limits valid (stranded.valueOf_eq room) rfl
  refine ⟨?_, lets_out, fun kept => ?_⟩
  · exact fun fault failed => (valueOf_of_calculate_error failed).2.2
  · cases calculated : calculate stack limits t with
    | error fault => exact absurd ((lets_out fault).mp calculated).2 kept
    | ok verdict =>
      exact ⟨verdict, rfl, verdict.some_value_or_error, value_and_error_iff calculated⟩

end

theorem Text.IsFlawless.append_digit {t : Text} {c : Char} (flawless : t.IsFlawless)
    (digit : c.isDigit = true) : (t ++ [c]).IsFlawless where
  balanced := by
    have plain : ∀ other ∈ [c], other ≠ '(' ∧ other ≠ ')' :=
      plain_of_digits (by simpa using digit)
    rw [finalDepth?_append, flawless.balanced]
    exact finalDepth?_plain 0 plain
  noLeadingOperator := by
    rw [List.head?_append_of_ne_nil _ flawless.filled]
    exact flawless.noLeadingOperator
  noOperators a b member := by
    rcases mem_neighbours_append_singleton.mp member with earlier | ⟨_, rfl⟩
    · exact flawless.noOperators a b earlier
    · simp [isOperator_of_isDigit digit]
  noTrailingOperator := by
    rw [List.getLast?_concat]
    exact isOperator_of_isDigit digit
  noEmptyParentheses member := by
    rcases mem_neighbours_append_singleton.mp member with earlier | ⟨_, rfl⟩
    · exact flawless.noEmptyParentheses earlier
    · cases digit
  filled := by simp

/-- Digits never spoil a structure that is in order. -/
theorem Text.IsFlawless.append_digits {t digits : Text} (flawless : t.IsFlawless)
    (all : ∀ c ∈ digits, c.isDigit = true) : (t ++ digits).IsFlawless := by
  induction digits generalizing t with
  | nil => simpa using flawless
  | cons c rest ih =>
    have longer := ih (flawless.append_digit (all c (List.mem_cons_self ..)))
      fun other member => all other (List.mem_cons_of_mem _ member)
    simpa using longer

/-- The digits of the least number that is too long to be written out. -/
def longDigits : Text :=
  '1' :: List.replicate Numeral.pieceLimit '0'

/-- The text `(7)` with the least long number behind it. -/
def overlong : Text :=
  ['(', '7', ')'] ++ longDigits

theorem isDigit_of_mem_longDigits : ∀ c ∈ longDigits, c.isDigit = true := by
  intro c member
  rcases List.mem_cons.mp member with rfl | zero
  · rfl
  · rw [List.eq_of_mem_replicate zero]
    rfl

theorem overlong_nestsWithin : overlong.NestsWithin 300 := by
  have digits : NestsWithin (· == '(') (· == ')') 300 longDigits :=
    nestsWithin_of_plain 300 (plain_of_digits isDigit_of_mem_longDigits)
  have closed : NestsWithin (· == '(') (· == ')') 299 (')' :: longDigits) :=
    (NestsWithin.cons_iff (by rfl)).mpr digits
  have inner : NestsWithin (· == '(') (· == ')') 299 ('7' :: ')' :: longDigits) :=
    (NestsWithin.cons_iff (by rfl)).mpr closed
  exact (NestsWithin.cons_iff (by rfl)).mpr inner

theorem overlong_withoutBlanks : overlong.withoutBlanks = overlong := by
  refine Text.withoutBlanks_of_visible fun c member => ?_
  rcases List.mem_append.mp member with bracketed | digit
  · simp only [List.mem_cons, List.not_mem_nil, or_false] at bracketed
    rcases bracketed with rfl | rfl | rfl <;> decide
  · exact isBlank_of_isDigit (isDigit_of_mem_longDigits c digit)

theorem overlong_validate : validate overlong = none := by
  have flawless : Text.IsFlawless ['(', '7', ')'] := flaw?_eq_none_iff.mp rfl
  rw [validate_eq_flaw?, overlong_withoutBlanks]
  exact flaw?_eq_none_iff.mpr (flawless.append_digits isDigit_of_mem_longDigits)

/-- The token of the least long number. -/
def longNumber : Token :=
  ⟨.number (Nat.ofDigitChars 10 longDigits 0 : Nat), 3⟩

theorem longNumber_isLongNumber : longNumber.IsLongNumber := by
  refine ⟨_, rfl, ?_⟩
  have written : Nat.toDigits 10 (Nat.ofDigitChars 10 longDigits 0) = longDigits :=
    Numeral.toDigits_ofDigitChars_cons isDigit_of_mem_longDigits (by decide)
  rw [Numeral.digitCount, Numeral.text_of_nonneg (by omega), Int.natAbs_natCast,
    Int.natAbs_natCast, written, longDigits, List.length_cons, List.length_replicate]
  exact Nat.lt_succ_self _

/-- The tokens of `(7)`. -/
def bracketedSeven : List Token :=
  [⟨.opening (some ['(']), 0⟩, ⟨.number 7, 1⟩, ⟨.closing (some [')']), 2⟩]

theorem overlong_ofText :
    Token.ofText overlong =
      .ok (bracketedSeven ++ longNumber :: [Token.mark overlong.length]) := by
  have seven : Token.Cut 1 (['7'] ++ [')']) [⟨.number 7, 1⟩, ⟨.closing (some [')']), 2⟩] :=
    .number (by simp) (List.forall_mem_singleton.mpr rfl) (by simp [Token.NoDigitFirst])
      (.symbol rfl .done)
  have bracketed : Token.Cut 0 ['(', '7', ')'] bracketedSeven := .symbol rfl seven
  have number : Token.Cut 3 (longDigits ++ []) [longNumber] :=
    .number (List.cons_ne_nil _ _) isDigit_of_mem_longDigits (by simp [Token.NoDigitFirst]) .done
  rw [List.append_nil] at number
  have cut : Token.Cut 0 overlong (bracketedSeven ++ [longNumber]) :=
    bracketed.join (by simp) number
  rw [← overlong_withoutBlanks] at cut
  rw [Token.ofText_eq_ok_iff]
  exact ⟨_, cut, by rw [overlong_withoutBlanks, List.append_assoc, List.singleton_append]⟩

theorem overlong_extendsExpression : overlong.ExtendsExpression := by
  have derived : Derives .expression bracketedSeven (.number 7) :=
    .ofFactor (.group rfl (.term (.factor (.number rfl))) rfl) .expression
  exact ⟨_, longNumber, _, _, 7, overlong_ofText, longNumber_isLongNumber, derived, rfl⟩

theorem overlong_calculate :
    overlong.NestsWithin 300 ∧ calculate .shallow {} overlong = .error .unwritable := by
  have nests := overlong_nestsWithin
  have room : overlong.NestsWithin Stack.shallow.room := nests.mono Stack.shallow.ample
  have extended := overlong_extendsExpression
  exact ⟨nests, ((calculation_lets_out_stranded_numbers .shallow {} nests).2.1 .unwritable).mpr
    ⟨rfl, overlong_validate, extended.inAlphabet, extended.strandsLongNumber room⟩⟩

end Reckoner
