import Reckoner.Calculation
import Reckoner.Proofs.Meaning
import Reckoner.Proofs.Neighbours

namespace Reckoner

variable {stack : Stack}

theorem isDigit_canonicalGlyph (c : Char) : (canonicalGlyph c).isDigit = c.isDigit := by
  fun_cases canonicalGlyph c <;> rfl

theorem isOperator_canonicalGlyph (c : Char) : isOperator (canonicalGlyph c) = isOperator c := by
  rw [isOperator, ofGlyph?_canonicalGlyph, isOperator]

theorem canonicalGlyph_eq_opening_iff (c : Char) : canonicalGlyph c = '(' ↔ c = '(' := by
  fun_cases canonicalGlyph c <;> simp_all

theorem canonicalGlyph_eq_closing_iff (c : Char) : canonicalGlyph c = ')' ↔ c = ')' := by
  fun_cases canonicalGlyph c <;> simp_all

theorem endsOperand_canonicalGlyph (c : Char) : endsOperand (canonicalGlyph c) = endsOperand c := by
  simp [endsOperand, isDigit_canonicalGlyph, canonicalGlyph_eq_closing_iff]

theorem finalDepth?_map_canonicalGlyph (depth : Nat) (t : Text) :
    finalDepth? depth (t.map canonicalGlyph) = finalDepth? depth t := by
  induction t generalizing depth with
  | nil => rfl
  | cons c rest ih =>
    simp only [List.map_cons, finalDepth?, canonicalGlyph_eq_opening_iff,
      canonicalGlyph_eq_closing_iff, ih]

theorem continues_canonicalGlyph (last? : Option Char) (c : Char) :
    continues (last?.map canonicalGlyph) (canonicalGlyph c) = continues last? c := by
  have ended : (last?.map canonicalGlyph).any endsOperand = last?.any endsOperand := by
    cases last? <;> simp [endsOperand_canonicalGlyph]
  have closed : (last?.map canonicalGlyph != some ')') = (last? != some ')') := by
    cases last? with
    | none => rfl
    | some last =>
      rw [Bool.eq_iff_iff, bne_iff_ne, bne_iff_ne, Option.map_some, ne_eq, ne_eq,
        Option.some.injEq, Option.some.injEq, canonicalGlyph_eq_closing_iff]
  have closing : (canonicalGlyph c == ')') = (c == ')') := by
    rw [Bool.eq_iff_iff, beq_iff_eq, beq_iff_eq, canonicalGlyph_eq_closing_iff]
  simp only [continues, isDigit_canonicalGlyph, isOperator_canonicalGlyph, ended, closed, closing,
    canonicalGlyph_eq_opening_iff]

theorem chained_map_canonicalGlyph (last? : Option Char) (t : Text) :
    chained (last?.map canonicalGlyph) (t.map canonicalGlyph) = chained last? t := by
  induction t generalizing last? with
  | nil => rfl
  | cons c rest ih =>
    rw [List.map_cons, chained, chained, continues_canonicalGlyph, ← ih (some c)]
    rfl

theorem continues_of_mem_neighbours {t : Text} {last? : Option Char} {pair : Char × Char}
    (chain : chained last? t = true) (member : pair ∈ neighbours t) :
    continues (some pair.1) pair.2 = true := by
  induction t generalizing last? with
  | nil => simp [neighbours] at member
  | cons c rest ih =>
    rw [chained, Bool.and_eq_true] at chain
    cases rest with
    | nil => simp [neighbours] at member
    | cons next rest =>
      rw [neighbours_cons_cons] at member
      rcases List.mem_cons.mp member with rfl | member
      · have follows := chain.2
        rw [chained, Bool.and_eq_true] at follows
        exact follows.1
      · exact ih chain.2 member

/-- An operator needs an operand in front of it. -/
theorem any_endsOperand_of_continues {last? : Option Char} {c : Char}
    (operator : isOperator c = true) (follows : continues last? c = true) :
    last?.any endsOperand = true := by
  obtain ⟨op, glyph⟩ := Option.isSome_iff_exists.mp operator
  have notOpening := (Operator.ne_parenthesis_of_ofGlyph? glyph).1
  have digit := Operator.isDigit_of_ofGlyph? glyph
  simp only [continues, digit, notOpening, Bool.false_eq_true, if_false,
    Bool.and_eq_true] at follows
  exact follows.1

theorem isOperator_of_endsOperand {c : Char} (ended : endsOperand c = true) :
    isOperator c = false := by
  rw [Bool.eq_false_iff]
  intro operator
  rw [endsOperand_of_isOperator operator] at ended
  cases ended

theorem head?_any_isOperator {t : Text} (chain : chained none t = true) :
    t.head?.any isOperator = false := by
  cases t with
  | nil => rfl
  | cons c rest =>
    rw [chained, Bool.and_eq_true] at chain
    rw [List.head?_cons, Option.any_some, Bool.eq_false_iff]
    intro operator
    cases any_endsOperand_of_continues operator chain.1

theorem getLast?_any_isOperator {t : Text} (ended : t.getLast?.any endsOperand = true) :
    t.getLast?.any isOperator = false := by
  cases shown : t.getLast? with
  | none => rfl
  | some last =>
    rw [shown] at ended
    exact isOperator_of_endsOperand ended

/-- Of two neighbours only one is an operator. -/
theorem isOperator_of_mem_neighbours {t : Text} {a b : Char} (chain : chained none t = true)
    (member : (a, b) ∈ neighbours t) (first : isOperator a = true) : isOperator b = false := by
  rw [Bool.eq_false_iff]
  intro second
  have operand : endsOperand a = true :=
    any_endsOperand_of_continues second (continues_of_mem_neighbours chain member)
  rw [isOperator_of_endsOperand operand] at first
  cases first

theorem flaw?_eq_none {t : Text} (chain : chained none t = true)
    (balanced : finalDepth? 0 t = some 0) (ended : t.getLast?.any endsOperand = true) :
    flaw? t = none := by
  have noConsecutive (a b : Char) (member : (a, b) ∈ neighbours t) :=
    isOperator_of_mem_neighbours chain member
  have noEmpty : ('(', ')') ∉ neighbours t := by
    intro member
    cases continues_of_mem_neighbours chain member
  have filled : t.isEmpty = false := by
    cases t with
    | nil => cases ended
    | cons => rfl
  simpa [flaw?, isBalanced, balanced, head?_any_isOperator chain, getLast?_any_isOperator ended,
    noEmpty, filled] using noConsecutive

/-- What the flaws of a text leave to be said of one that has none. -/
structure Text.IsFlawless (t : Text) : Prop where
  balanced : finalDepth? 0 t = some 0
  noLeadingOperator : t.head?.any isOperator = false
  noOperators : ∀ a b, (a, b) ∈ neighbours t → ¬(isOperator a = true ∧ isOperator b = true)
  noTrailingOperator : t.getLast?.any isOperator = false
  noEmptyParentheses : ('(', ')') ∉ neighbours t
  filled : t ≠ []

theorem flaw?_eq_none_iff {t : Text} : flaw? t = none ↔ t.IsFlawless := by
  have passed (found : Bool) (kind : ErrorKind) (others : Option ErrorKind) :
      (if found then some kind else others) = none ↔ found = false ∧ others = none := by
    cases found <;> simp
  have balance : (!isBalanced t) = false ↔ finalDepth? 0 t = some 0 := by
    rw [Bool.not_eq_false', isBalanced, beq_iff_eq]
  have hollow : (neighbours t).contains ('(', ')') = false ↔ ('(', ')') ∉ neighbours t := by
    rw [Bool.eq_false_iff, ne_eq, List.contains_iff_mem]
  have filled : t.isEmpty = false ↔ t ≠ [] := by
    rw [List.isEmpty_eq_false_iff]
  unfold flaw?
  rw [passed, passed, passed, passed, passed, passed, balance, List.any_eq_false, hollow, filled]
  constructor
  · rintro ⟨balanced, leading, double, trailing, empty, full, -⟩
    have apart (a b : Char) (member : (a, b) ∈ neighbours t) :
        ¬(isOperator a = true ∧ isOperator b = true) := by
      rw [← Bool.and_eq_true]
      exact double (a, b) member
    exact ⟨balanced, leading, apart, trailing, empty, full⟩
  · rintro ⟨balanced, leading, apart, trailing, empty, full⟩
    refine ⟨balanced, leading, ?_, trailing, empty, full, rfl⟩
    rintro ⟨a, b⟩ member both
    exact apart a b member (Bool.and_eq_true_iff.mp both)

def areOperators (pair : Char × Char) : Bool :=
  isOperator pair.1 && isOperator pair.2

/-- What the flaw of a text depends on. -/
theorem flaw?_congr {t u : Text} (balance : isBalanced t = isBalanced u)
    (leading : t.head?.any isOperator = u.head?.any isOperator)
    (double : (neighbours t).any areOperators = (neighbours u).any areOperators)
    (trailing : t.getLast?.any isOperator = u.getLast?.any isOperator)
    (hollow : (neighbours t).contains ('(', ')') = (neighbours u).contains ('(', ')'))
    (empty : t.isEmpty = u.isEmpty) : flaw? t = flaw? u := by
  have consecutive (both : Char × Char → Bool) (same : ∀ pair, both pair = areOperators pair) :
      (neighbours t).any both = (neighbours u).any both := by
    obtain rfl : both = areOperators := funext same
    exact double
  rw [flaw?, balance, leading, consecutive, trailing, hollow, empty, flaw?]
  exact fun _ => rfl

/-- Validation lets pass all that the grammar derives. -/
theorem validate_of_isDerivable {t : Text} (derivable : t.IsDerivable) : validate t = none := by
  obtain ⟨chain, balanced, ended⟩ := Text.isDerivable_iff.mp derivable
  refine flaw?_eq_none ?_ ?_ ?_
  · rw [← chain]
    exact chained_map_canonicalGlyph none t.withoutBlanks
  · rw [← balanced]
    exact finalDepth?_map_canonicalGlyph 0 t.withoutBlanks
  · rw [← ended, Text.canonical, List.getLast?_map]
    cases t.withoutBlanks.getLast? <;> simp [endsOperand_canonicalGlyph]

theorem isAllBlank_of_validate {t : Text} (valid : validate t = none) : t.isAllBlank = false := by
  rw [Bool.eq_false_iff]
  intro blank
  rw [← Text.withoutBlanks_eq_nil_iff] at blank
  rw [validate, Text.canonical, blank] at valid
  cases valid

theorem valueOf_of_cut {t : Text} {tokens : List Token}
    (cut : Token.Cut 0 t.withoutBlanks tokens) :
    valueOf stack t = (Evaluation.run .whole (some stack.room)
      (tokens ++ [Token.mark t.withoutBlanks.length])).result := by
  have made := Token.ofText_eq_ok_iff.mpr ⟨tokens, cut, rfl⟩
  rw [valueOf, made, ← Evaluation.evaluateTokens_marked]
  rfl

/-- A limit on the depth that a text stays within plays no part in its value. -/
theorem valueOf_of_nests {t : Text} {tokens : List Token}
    (cut : Token.Cut 0 t.withoutBlanks tokens) (nests : t.NestsWithin stack.room) :
    valueOf stack t =
      (Evaluation.run .whole none (tokens ++ [Token.mark t.withoutBlanks.length])).result := by
  have unlimited : Evaluation.run .whole (some stack.room)
      (tokens ++ [Token.mark t.withoutBlanks.length]) =
        Evaluation.run .whole none (tokens ++ [Token.mark t.withoutBlanks.length]) :=
    Evaluation.run_of_nests (cut.nestWithin nests.withoutBlanks)
  rw [valueOf_of_cut cut, unlimited]

section Stages

variable {t : Text} (limits : Limits)

theorem calculate_of_flaw {kind : ErrorKind} (flawed : validate t = some kind) :
    calculate stack limits t = .ok (.rejected kind) := by
  simp only [calculate, flawed]

theorem calculate_of_value {value : Int} (valid : validate t = none)
    (valued : valueOf stack t = .ok value) :
    calculate stack limits t =
      .ok (if Numeral.fits value limits.maxDigits then .result value else .tooLong value) := by
  simp only [calculate, valid, valued]

theorem calculate_of_kind {fault : Fault} {kind : ErrorKind} (valid : validate t = none)
    (failed : valueOf stack t = .error fault) (known : fault.kind? = some kind) :
    calculate stack limits t = .ok (.failed kind fault.message) := by
  simp only [calculate, valid, failed, known]

theorem calculate_of_no_kind {fault : Fault} (valid : validate t = none)
    (failed : valueOf stack t = .error fault) (unknown : fault.kind? = none) :
    calculate stack limits t = .error fault := by
  simp only [calculate, valid, failed, unknown]

end Stages

/-- The ways in which a calculation can come out. -/
inductive Calculated (stack : Stack) (limits : Limits) (t : Text) : Except Fault Verdict → Prop
  | rejected {kind : ErrorKind} : validate t = some kind →
      Calculated stack limits t (.ok (.rejected kind))
  | failed {fault : Fault} {kind : ErrorKind} : validate t = none →
      valueOf stack t = .error fault → fault.kind? = some kind →
      Calculated stack limits t (.ok (.failed kind fault.message))
  | letOut {fault : Fault} : validate t = none → valueOf stack t = .error fault →
      fault.kind? = none → Calculated stack limits t (.error fault)
  | result {value : Int} : validate t = none → valueOf stack t = .ok value →
      Numeral.fits value limits.maxDigits = true →
      Calculated stack limits t (.ok (.result value))
  | tooLong {value : Int} : validate t = none → valueOf stack t = .ok value →
      Numeral.fits value limits.maxDigits = false →
      Calculated stack limits t (.ok (.tooLong value))

/-- There are no other ways. -/
theorem calculate_calculated (stack : Stack) (limits : Limits) (t : Text) :
    Calculated stack limits t (calculate stack limits t) := by
  unfold calculate
  split
  · exact .rejected ‹_›
  · rename_i valid
    split
    · rename_i fault failed
      split
      · exact .failed valid failed ‹_›
      · exact .letOut valid failed ‹_›
    · rename_i value valued
      split
      · exact .result valid valued ‹_›
      · exact .tooLong valid valued (Bool.eq_false_iff.mpr ‹_›)

theorem isDerivable_of_evaluate {t : Text} {value : Int}
    (evaluated : evaluate stack t = .ok value) :
    t.IsDerivable := by
  obtain ⟨formula, ⟨wrapped, written⟩, _⟩ := exists_renders_of_evaluate evaluated
  obtain ⟨tokens, cut, derived⟩ := written.exists_cut 0
  exact ⟨tokens, _, formula, Token.ofText_eq_ok_iff.mpr ⟨tokens, cut, rfl⟩, rfl,
    derived .expression trivial⟩

theorem evaluate_eq_valueOf {t : Text} (filled : t.isAllBlank = false) :
    evaluate stack t = valueOf stack t := by
  rw [evaluate, if_neg (by simp [filled])]
  rfl

/-- What the grammar derives has a value unless it divides by zero. -/
theorem valueOf_of_isDerivable {t : Text} (derivable : t.IsDerivable)
    (nests : t.NestsWithin stack.room) :
    (∃ value, valueOf stack t = .ok value) ∨ valueOf stack t = .error .divisionByZero := by
  have filled := isAllBlank_of_validate (validate_of_isDerivable derivable)
  obtain ⟨all, stop, formula, made, _, derived⟩ := derivable
  obtain ⟨tokens, cut, shape⟩ := Token.ofText_eq_ok_iff.mp made
  obtain ⟨rfl, _⟩ := List.append_inj' shape rfl
  obtain ⟨wrapped, written, _⟩ := Formula.exists_written derived cut
  have valued : evaluate stack t = Evaluation.resultOf formula.value? :=
    evaluate_of_renders nests ⟨wrapped, written⟩
  rw [← evaluate_eq_valueOf filled, valued]
  cases formula.value? with
  | none => exact Or.inr rfl
  | some value => exact Or.inl ⟨value, rfl⟩

theorem calculate_of_isDerivable (limits : Limits) {t : Text} (derivable : t.IsDerivable)
    (nests : t.NestsWithin stack.room) : ∃ verdict, calculate stack limits t = .ok verdict := by
  have valid := validate_of_isDerivable derivable
  rcases valueOf_of_isDerivable derivable nests with ⟨value, valued⟩ | byZero
  · exact ⟨_, calculate_of_value limits valid valued⟩
  · exact ⟨_, calculate_of_kind limits valid byZero rfl⟩

/-- A text that has a value is calculated to it, under all limits. -/
theorem calculate_of_evaluate {t : Text} {value : Int} (limits : Limits)
    (evaluated : evaluate stack t = .ok value) :
    calculate stack limits t =
      .ok (if Numeral.fits value limits.maxDigits then .result value else .tooLong value) := by
  have valid := validate_of_isDerivable (isDerivable_of_evaluate evaluated)
  rw [evaluate_eq_valueOf (isAllBlank_of_validate valid)] at evaluated
  exact calculate_of_value limits valid evaluated

theorem evaluate_of_calculate {t : Text} {value : Int} {limits : Limits} {verdict : Verdict}
    (calculated : calculate stack limits t = .ok verdict) (known : verdict.value? = some value) :
    evaluate stack t = .ok value := by
  have ways := calculate_calculated stack limits t
  rw [calculated] at ways
  cases ways with
  | rejected | failed => cases known
  | result valid valued | tooLong valid valued =>
    cases known
    rw [evaluate_eq_valueOf (isAllBlank_of_validate valid), valued]

/-- A value that comes out on one stack comes out on every stack with as much room. -/
theorem evaluate_of_roomier {here there : Stack} {t : Text} {value : Int}
    (roomier : here.room ≤ there.room) (evaluated : evaluate here t = .ok value) :
    evaluate there t = .ok value := by
  have filled :=
    isAllBlank_of_validate (validate_of_isDerivable (isDerivable_of_evaluate evaluated))
  rw [evaluate_eq_valueOf filled] at evaluated ⊢
  cases made : Token.ofText t with
  | error fault => simp [valueOf, made, bind, Except.bind] at evaluated
  | ok all =>
    obtain ⟨tokens, cut, rfl⟩ := Token.ofText_eq_ok_iff.mp made
    rw [valueOf_of_cut cut] at evaluated ⊢
    exact Evaluation.runFrom_of_roomier roomier evaluated

theorem calculate_of_roomier {here there : Stack} {limits : Limits} {t : Text} {value : Int}
    (roomier : here.room ≤ there.room)
    (calculated : calculate here limits t = .ok (.result value)) :
    calculate there limits t = .ok (.result value) := by
  have evaluated := evaluate_of_calculate calculated rfl
  rw [← calculated, calculate_of_evaluate limits evaluated,
    calculate_of_evaluate limits (evaluate_of_roomier roomier evaluated)]

/-- The stack plays no part in the value of a text that no stack is too small for. -/
theorem valueOf_of_shallow (here there : Stack) {t : Text} (nests : t.NestsWithin 300) :
    valueOf here t = valueOf there t := by
  cases made : Token.ofText t with
  | error fault => simp [valueOf, made, bind, Except.bind]
  | ok all =>
    obtain ⟨tokens, cut, rfl⟩ := Token.ofText_eq_ok_iff.mp made
    rw [valueOf_of_nests cut (nests.mono here.ample), valueOf_of_nests cut (nests.mono there.ample)]

theorem calculate_of_shallow (here there : Stack) (limits : Limits) {t : Text}
    (nests : t.NestsWithin 300) : calculate here limits t = calculate there limits t := by
  simp only [calculate, valueOf_of_shallow here there nests]

/-- What a calculation makes of a text that has a value on a stack with no more room. -/
theorem exists_verdict_of_evaluate {here there : Stack} {t : Text} {value : Int} (limits : Limits)
    (roomier : here.room ≤ there.room) (evaluated : evaluate here t = .ok value) :
    ∃ verdict, calculate there limits t = .ok verdict ∧ verdict.value? = some value ∧
      verdict.error? = if Numeral.digitCount value ≤ limits.maxDigits then none
        else some .digitLimitExceeded := by
  refine ⟨_, calculate_of_evaluate limits (evaluate_of_roomier roomier evaluated), ?_⟩
  have size : Numeral.fits value limits.maxDigits = true ↔
      Numeral.digitCount value ≤ limits.maxDigits := Numeral.fits_iff limits.maxDigits_pos
  cases fits : Numeral.fits value limits.maxDigits with
  | true => simp [Verdict.value?, Verdict.error?, size.mp fits]
  | false =>
    have long : ¬ Numeral.digitCount value ≤ limits.maxDigits := by simp [← size, fits]
    simp [Verdict.value?, Verdict.error?, long]

/-- A text that does not nest too deeply for any stack is evaluated to a value exactly if it is
calculated to it, whatever the stacks and under whatever limits. The calculation then has no error
unless the value has too many digits. However deeply a text nests, its structure is in order if it
is evaluated to a value, and the calculation gives that value where its stack has as much room, and
never depends on the limits. -/
theorem evaluate_iff_calculate (t : Text) :
    (t.NestsWithin 300 → ∀ here there limits value, evaluate here t = .ok value ↔
      ∃ verdict, calculate there limits t = .ok verdict ∧ verdict.value? = some value) ∧
    ∀ here value, evaluate here t = .ok value → validate t = none ∧
      ∀ (there : Stack) limits, t.NestsWithin 300 ∨ here.room ≤ there.room →
        ∃ verdict, calculate there limits t = .ok verdict ∧ verdict.value? = some value ∧
          verdict.error? = if Numeral.digitCount value ≤ limits.maxDigits then none
            else some .digitLimitExceeded := by
  have judged {here there : Stack} {value : Int} (limits : Limits)
      (enough : t.NestsWithin 300 ∨ here.room ≤ there.room)
      (evaluated : evaluate here t = .ok value) :
      ∃ verdict, calculate there limits t = .ok verdict ∧ verdict.value? = some value ∧
        verdict.error? = if Numeral.digitCount value ≤ limits.maxDigits then none
          else some .digitLimitExceeded := by
    rcases enough with nests | roomier
    · rw [calculate_of_shallow there here limits nests]
      exact exists_verdict_of_evaluate limits le_rfl evaluated
    · exact exists_verdict_of_evaluate limits roomier evaluated
  refine ⟨fun nests here there limits value => ⟨fun evaluated => ?_, ?_⟩, ?_⟩
  · obtain ⟨verdict, calculated, known, _⟩ := judged limits (.inl nests) evaluated
    exact ⟨verdict, calculated, known⟩
  · rintro ⟨verdict, calculated, known⟩
    rw [calculate_of_shallow there here limits nests] at calculated
    exact evaluate_of_calculate calculated known
  · intro here value evaluated
    exact ⟨validate_of_isDerivable (isDerivable_of_evaluate evaluated),
      fun there limits enough => judged limits enough evaluated⟩

/-- The text `12 × 3`. -/
def dozens : Text :=
  ['1', '2', ' ', '×', ' ', '3']

theorem dozens_calculate_too_long :
    dozens.NestsWithin 300 ∧ evaluate .shallow dozens = .ok 36 ∧ validate dozens = none ∧
      ∃ verdict, calculate .shallow { maxDigits := 1 } dozens = .ok verdict ∧
        verdict.value? = some 36 ∧ verdict.error? = some .digitLimitExceeded := by
  have nests : dozens.NestsWithin 300 := by decide
  have evaluated : evaluate .shallow dozens = .ok 36 := rfl
  obtain ⟨valid, judged⟩ := (evaluate_iff_calculate dozens).2 .shallow 36 evaluated
  exact ⟨nests, evaluated, valid, judged .shallow { maxDigits := 1 } (.inl nests)⟩

/-- So many parentheses around a one. -/
def wrappedOne (depth : Nat) : Text :=
  List.replicate depth '(' ++ '1' :: List.replicate depth ')'

/-- A calculation is a call deeper than the evaluation in it, and the room for a level may end
between the two. -/
theorem deepest_evaluated_not_calculated :
    evaluate { room := 331, ample := by decide, finite := by decide } (wrappedOne 331) = .ok 1 ∧
      calculate { room := 330, ample := by decide, finite := by decide } {} (wrappedOne 331) =
        .ok (.failed .malformedExpression "Parentheses nested too deeply") := by
  decide +kernel

end Reckoner
