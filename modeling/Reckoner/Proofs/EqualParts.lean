import Reckoner.Proofs.Canonical
import Reckoner.Proofs.Reports

namespace Reckoner

variable {stack other : Stack}

namespace Evaluation

variable {rule : Rule} {limit : Option Nat}

/-- What is told of a result: the value, or the kind of the fault but not where it was found. -/
def told (result : Except Fault Int) : Except (Option ErrorKind) Int :=
  result.mapError Fault.kind?

/-- Steps that lead on to the same state, or are told alike. -/
inductive Step.Alike : Step → Step → Prop
  | read (next : State) : Alike (.read next) (.read next)
  | stop {left right : Except Fault Int} : told left = told right →
      Alike (.stop left) (.stop right)
  | fail (fault : Fault) : Alike (.fail fault) (.fail fault)

theorem Step.Alike.refl (step : Step) : step.Alike step := by
  cases step with
  | read next => exact .read next
  | stop result => exact .stop rfl
  | fail fault => exact .fail fault

theorem told_answer_shift (value : Int) (token : Token) (distance : Nat) :
    told (rule.answer value (token.shift distance)) = told (rule.answer value token) := by
  have terminal : (token.shift distance).terminal = token.terminal := rfl
  have lexeme : (token.shift distance).lexeme = token.lexeme := rfl
  rw [Rule.answer, Rule.answer, terminal, lexeme]
  split
  · split <;> rfl
  · rfl

/-- The place of a token shows in messages only. -/
theorem step_shift_alike (token : Token) (distance : Nat) (state : State) :
    (step rule limit (token.shift distance) state).Alike (step rule limit token state) := by
  have terminal : (token.shift distance).terminal = token.terminal := rfl
  cases state with
  | expecting level outer =>
    simp only [step, terminal]
    cases token.terminal with
    | number | opening => exact .refl _
    | operator | closing | stop | foreign => exact .stop rfl
  | holding sum product outer =>
    have answered : told (rule.answer (sum.close product) (token.shift distance)) =
        told (rule.answer (sum.close product) token) := told_answer_shift _ token distance
    simp only [step, terminal]
    cases token.terminal with
    | operator op =>
      simp only
      split
      · exact .stop answered
      · exact .refl _
    | closing =>
      cases outer with
      | nil => exact .stop answered
      | cons level outer => exact .refl _
    | number | opening | stop | foreign =>
      cases outer with
      | nil => exact .stop answered
      | cons level outer => exact .stop rfl

theorem told_runFrom_shift (tokens : List Token) (distance : Nat) (state : State)
    (cursor other : Nat) :
    told (runFrom rule limit state cursor (tokens.map (·.shift distance))).result =
      told (runFrom rule limit state other tokens).result := by
  induction tokens generalizing state cursor other with
  | nil => rfl
  | cons token rest ih =>
    have alike : (step rule limit (token.shift distance) state).Alike
        (step rule limit token state) := step_shift_alike token distance state
    simp only [List.map_cons, runFrom]
    generalize step rule limit (token.shift distance) state = left at alike
    generalize step rule limit token state = right at alike
    cases alike with
    | read next => exact ih next (cursor + 1) (other + 1)
    | stop same => exact same
    | fail fault => rfl

/-- The result of a run in pieces. -/
theorem runFrom_append_result (state : State) (cursor : Nat) (front back : List Token) :
    (runFrom rule limit state cursor (front ++ back)).result =
      match readAll rule limit state front with
      | .read next => (runFrom rule limit next (cursor + front.length) back).result
      | .stop result => result
      | .fail fault => .error fault := by
  induction front generalizing state cursor with
  | nil => rfl
  | cons token rest ih =>
    simp only [List.cons_append, runFrom, readAll]
    cases step rule limit token state with
    | read next =>
      have place : cursor + 1 + rest.length = cursor + (token :: rest).length := by
        rw [List.length_cons]
        omega
      simp only [Step.andThen, ih, place]
    | stop | fail => rfl

/-- Derived tokens in parentheses do to any state what their value does. Where no operand is
expected it is the opening parenthesis that stops the run. -/
theorem readAll_group_congr {first last otherLast : Token} {tokens others : List Token}
    {formula other : Formula} (opening : first.terminal = .opening)
    (derived : Derives .expression tokens formula) (closing : last.terminal = .closing)
    (otherDerived : Derives .expression others other) (otherClosing : otherLast.terminal = .closing)
    (same : formula.value? = other.value?) (state : State) :
    readAll rule none state (first :: (tokens ++ [last])) =
      readAll rule none state (first :: (others ++ [otherLast])) := by
  cases state with
  | expecting level outer =>
    have reading : ReadAs .factor (first :: (tokens ++ [last])) formula.value? :=
      (Derives.group opening derived closing).readAs
    have otherReading : ReadAs .factor (first :: (others ++ [otherLast])) other.value? :=
      (Derives.group opening otherDerived otherClosing).readAs
    rw [reading rule level outer, otherReading rule level outer, same]
  | holding sum product outer =>
    obtain ⟨result, stopped⟩ : ∃ result,
        step rule none first (.holding sum product outer) = .stop result := by
      cases outer with
      | nil => exact ⟨rule.answer (sum.close product) first, by simp only [step, opening]⟩
      | cons level outer => exact ⟨.error (.closingExpected first), by simp only [step, opening]⟩
    rw [readAll, readAll, stopped]
    rfl

/-- Two runs that differ in a part in parentheses and in the places of the tokens behind it. -/
theorem told_run_group {first last otherLast : Token} {before tokens others behind : List Token}
    {formula other : Formula} (opening : first.terminal = .opening)
    (derived : Derives .expression tokens formula) (closing : last.terminal = .closing)
    (otherDerived : Derives .expression others other) (otherClosing : otherLast.terminal = .closing)
    (same : formula.value? = other.value?) (distance otherDistance : Nat) :
    told (run rule none
        ((before ++ first :: (tokens ++ [last])) ++ behind.map (·.shift distance))).result =
      told (run rule none
        ((before ++ first :: (others ++ [otherLast])) ++
          behind.map (·.shift otherDistance))).result := by
  have group (state : State) : readAll rule none state (first :: (tokens ++ [last])) =
      readAll rule none state (first :: (others ++ [otherLast])) :=
    readAll_group_congr opening derived closing otherDerived otherClosing same state
  have upTo : readAll rule none .start (before ++ first :: (tokens ++ [last])) =
      readAll rule none .start (before ++ first :: (others ++ [otherLast])) := by
    simp only [readAll_append, group]
  rw [run, run, runFrom_append_result, runFrom_append_result, upTo]
  cases readAll rule none .start (before ++ first :: (others ++ [otherLast])) with
  | read next =>
    simp only [told_runFrom_shift behind distance next _ 0,
      told_runFrom_shift behind otherDistance next _ 0]
  | stop | fail => rfl

end Evaluation

open Evaluation

/-- A part in parentheses, and the texts before and behind it. -/
def Text.around (before behind part : Text) : Text :=
  before ++ '(' :: (part ++ ')' :: behind)

theorem Text.withoutBlanks_around (before behind part : Text) :
    (around before behind part).withoutBlanks =
      around before.withoutBlanks behind.withoutBlanks part.withoutBlanks := by
  have opening : withoutBlanks ['('] = ['('] := rfl
  have closing : withoutBlanks [')'] = [')'] := rfl
  have pieces (before behind part : Text) :
      around before behind part = before ++ (['('] ++ (part ++ ([')'] ++ behind))) := rfl
  rw [pieces, pieces, withoutBlanks_append, withoutBlanks_append, withoutBlanks_append,
    withoutBlanks_append, opening, closing]

/-- What is put in parentheses to be a factor. -/
structure Text.IsPart (t : Text) : Prop where
  chain : chained none t = true
  balance : finalDepth? 0 t = some 0
  ended : t.getLast?.any endsOperand = true

namespace Text.IsPart

variable {before behind part other : Text}

theorem ofEvaluate {t : Text} {value : Int} (evaluated : evaluate stack t = .ok value) :
    t.withoutBlanks.IsPart := by
  obtain ⟨chain, balance, ended⟩ := Text.isDerivable_iff.mp (isDerivable_of_evaluate evaluated)
  exact ⟨chain, balance, ended⟩

theorem finalDepth?_around (isPart : part.IsPart) (depth : Nat) :
    finalDepth? depth (around before behind part) =
      (finalDepth? depth before).bind fun inner => finalDepth? inner behind := by
  have inside (inner : Nat) : finalDepth? (inner + 1) part = some (inner + 1) := by
    have deeper := finalDepth?_add (inner + 1) isPart.balance
    rwa [Nat.zero_add] at deeper
  have closed (inner : Nat) :
      finalDepth? inner ('(' :: (part ++ ')' :: behind)) = finalDepth? inner behind := by
    rw [finalDepth?_opening, finalDepth?_append, inside, Option.bind_some, finalDepth?_closing]
  rw [around, finalDepth?_append]
  simp only [closed]

theorem chained_wrapped (isPart : part.IsPart) : chained none ('(' :: (part ++ [')'])) = true := by
  have entering : chained (some '(') part = chained none part := by
    cases part with
    | nil => rfl
    | cons c rest =>
      have follows : continues (some '(') c = continues none c := rfl
      rw [chained, chained, follows]
  have leaving : continues (part.getLast?.or (some '(')) ')' = true := by
    obtain ⟨last, shown⟩ : ∃ last, part.getLast? = some last := by
      rw [← Option.ne_none_iff_exists']
      intro none
      have ended := isPart.ended
      rw [none] at ended
      cases ended
    have ended : endsOperand last = true := by simpa [shown] using isPart.ended
    simp [shown, continues, ended]
  have begins : continues none '(' = true := rfl
  rw [chained, begins, chained_append, entering, isPart.chain, chained, leaving]
  rfl

/-- Neighbours inside a part and at its parentheses are of no interest to the validation. -/
theorem neighbours_around (before behind part : Text) :
    neighbours (around before behind part) = neighbours (before ++ ['(']) ++
      (neighbours ('(' :: (part ++ [')'])) ++ neighbours (')' :: behind)) := by
  have inner := neighbours_append_cons ('(' :: part) ')' behind
  rw [around, neighbours_append_cons before '(']
  rw [List.cons_append, List.cons_append] at inner
  rw [inner]

theorem flaw?_around_congr (isPart : part.IsPart) (isOther : other.IsPart) :
    flaw? (around before behind part) = flaw? (around before behind other) := by
  have noOperators {part : Text} (isPart : part.IsPart) :
      (neighbours ('(' :: (part ++ [')']))).any areOperators = false := by
    rw [List.any_eq_false]
    rintro ⟨a, b⟩ member both
    rw [areOperators, Bool.and_eq_true] at both
    have single := isOperator_of_mem_neighbours isPart.chained_wrapped member both.1
    rw [single] at both
    cases both.2
  have noHollow {part : Text} (isPart : part.IsPart) :
      (neighbours ('(' :: (part ++ [')']))).contains ('(', ')') = false := by
    rw [Bool.eq_false_iff, ne_eq, List.contains_iff_mem]
    intro member
    cases continues_of_mem_neighbours isPart.chained_wrapped member
  have balance : isBalanced (around before behind part) =
      isBalanced (around before behind other) := by
    rw [isBalanced, isPart.finalDepth?_around, isBalanced, isOther.finalDepth?_around]
  have leading : (around before behind part).head? = (around before behind other).head? := by
    cases before <;> rfl
  have trailing : (around before behind part).getLast? =
      (around before behind other).getLast? := by
    simp [around, List.getLast?_append, List.getLast?_cons]
  have double : (neighbours (around before behind part)).any areOperators =
      (neighbours (around before behind other)).any areOperators := by
    simp only [neighbours_around, List.any_append, noOperators isPart, noOperators isOther]
  have hollow : (neighbours (around before behind part)).contains ('(', ')') =
      (neighbours (around before behind other)).contains ('(', ')') := by
    simp only [neighbours_around, List.contains_append, noHollow isPart, noHollow isOther]
  have empty : (around before behind part).isEmpty = (around before behind other).isEmpty := by
    cases before <;> rfl
  exact flaw?_congr balance (by rw [leading]) double (by rw [trailing]) hollow empty

end Text.IsPart

def Token.openingAt (pos : Nat) : Token :=
  ⟨.opening (some ['(']), pos⟩

def Token.closingAt (pos : Nat) : Token :=
  ⟨.closing (some [')']), pos⟩

/-- The tokens of a part in parentheses stand between the tokens of the texts around it. -/
theorem cut_around {before behind part : Text} {front back inner : List Token} {pos : Nat}
    (beforeCut : Token.Cut 0 before front) (partCut : Token.Cut (before.length + 1) part inner)
    (behindCut : Token.Cut 0 behind back) (place : pos = before.length + 1 + part.length) :
    Token.Cut 0 (Text.around before behind part)
      (front ++ Token.openingAt before.length ::
        (inner ++ Token.closingAt pos :: back.map (·.shift (pos + 1)))) := by
  have moved : Token.Cut (pos + 1) behind (back.map (·.shift (pos + 1))) := by
    have shifted := behindCut.shift (pos + 1)
    rwa [Nat.zero_add] at shifted
  have closed : Token.Cut pos (')' :: behind) _ := .symbol rfl moved
  rw [place] at closed
  have parted := partCut.append (by simp [Token.NoDigitFirst]) closed
  have opened : Token.Cut before.length ('(' :: (part ++ ')' :: behind)) _ := .symbol rfl parted
  rw [← Nat.zero_add before.length] at opened
  have whole := beforeCut.append (by simp [Token.NoDigitFirst]) opened
  rw [Nat.zero_add, ← place] at whole
  exact whole

/-- The run over a text in which a part with a value stands: the tokens of the part come to its
value, and those behind it are moved on by its length. -/
theorem valueOf_around {before behind part : Text} {front back : List Token} {value : Int}
    (beforeCut : Token.Cut 0 before.withoutBlanks front)
    (behindCut : Token.Cut 0 behind.withoutBlanks back)
    (evaluated : evaluate other part = .ok value)
    (nests : (Text.around before behind part).NestsWithin stack.room) :
    ∃ tokens formula pos, Derives .expression tokens formula ∧ formula.value? = some value ∧
      valueOf stack (Text.around before behind part) =
        (run .whole none
          ((front ++ Token.openingAt before.withoutBlanks.length ::
              (tokens ++ [Token.closingAt pos])) ++
            (back ++ [Token.mark behind.withoutBlanks.length]).map (·.shift (pos + 1)))).result := by
  obtain ⟨formula, ⟨wrapped, written⟩, known⟩ := exists_renders_of_evaluate evaluated
  obtain ⟨tokens, partCut, derived⟩ := written.exists_cut (before.withoutBlanks.length + 1)
  obtain ⟨pos, place⟩ :
      ∃ pos, pos = before.withoutBlanks.length + 1 + part.withoutBlanks.length := ⟨_, rfl⟩
  have cut := cut_around beforeCut partCut behindCut place
  rw [← Text.withoutBlanks_around] at cut
  have valued := valueOf_of_nests cut nests
  have length : (Text.around before behind part).withoutBlanks.length =
      behind.withoutBlanks.length + (pos + 1) := by
    rw [Text.withoutBlanks_around, Text.around]
    simp only [List.length_append, List.length_cons]
    omega
  rw [length, ← Token.shift_mark] at valued
  refine ⟨tokens, formula, pos, derived .expression trivial, known, valued.trans ?_⟩
  simp only [List.append_assoc, List.cons_append, List.map_append, List.map_cons, List.map_nil,
    List.nil_append]

theorem told_valueOf_of_foreign {t : Text} {c : Char} (member : c ∈ t.withoutBlanks)
    (foreign : Token.IsForeign c) : told (valueOf stack t) = .error (some .invalidCharacter) := by
  rcases Token.ofText_cases t with ⟨tokens, cut⟩ | ⟨front, other, rest, _, _, _, refused⟩
  · exact absurd foreign (cut.not_isForeign c member)
  · rw [valueOf, refused]
    rfl

theorem told_valueOf_around_congr {first second : Stack} {before behind left right : Text}
    {value : Int} (leftEvaluated : evaluate first left = .ok value)
    (rightEvaluated : evaluate second right = .ok value)
    (leftNests : (Text.around before behind left).NestsWithin stack.room)
    (rightNests : (Text.around before behind right).NestsWithin other.room) :
    told (valueOf stack (Text.around before behind left)) =
      told (valueOf other (Text.around before behind right)) := by
  by_cases known : ∀ c ∈ before.withoutBlanks ++ behind.withoutBlanks, ¬ Token.IsForeign c
  · have cuttable (c : Char) (member : c ∈ before.withoutBlanks ++ behind.withoutBlanks) :=
      Token.not_isForeign_iff.mp (known c member)
    obtain ⟨front, beforeCut⟩ := Token.exists_cut 0 fun c member =>
      cuttable c (List.mem_append_left _ member)
    obtain ⟨back, behindCut⟩ := Token.exists_cut 0 fun c member =>
      cuttable c (List.mem_append_right _ member)
    obtain ⟨tokens, formula, pos, derived, leftKnown, leftValued⟩ :=
      valueOf_around beforeCut behindCut leftEvaluated leftNests
    obtain ⟨others, exchanged, otherPos, otherDerived, rightKnown, rightValued⟩ :=
      valueOf_around beforeCut behindCut rightEvaluated rightNests
    have same : formula.value? = exchanged.value? := leftKnown.trans rightKnown.symm
    rw [leftValued, rightValued]
    exact told_run_group rfl derived rfl otherDerived rfl same (pos + 1) (otherPos + 1)
  -- A foreign character is one of all texts that have the same texts around their parts.
  · obtain ⟨c, member, foreign⟩ : ∃ c ∈ before.withoutBlanks ++ behind.withoutBlanks,
        Token.IsForeign c := by simpa using known
    have present (part : Text) : c ∈ (Text.around before behind part).withoutBlanks := by
      rw [Text.withoutBlanks_around, Text.around]
      rcases List.mem_append.mp member with earlier | later
      · exact List.mem_append_left _ earlier
      · simp [later]
    rw [told_valueOf_of_foreign (present left) foreign,
      told_valueOf_of_foreign (present right) foreign]

/-- Calculations that come to the same value and kind of error, or both let out that a number is
too long to be written. -/
def Verdict.Agree (left right : Except Fault Verdict) : Prop :=
  (∃ first second, left = .ok first ∧ right = .ok second ∧ first.value? = second.value? ∧
    first.error? = second.error?) ∨
  (left = .error .unwritable ∧ right = .error .unwritable)

theorem agree_of_told {left right : Text} (limits : Limits) (flaws : validate left = validate right)
    (values : told (valueOf stack left) = told (valueOf other right)) :
    Verdict.Agree (calculate stack limits left) (calculate other limits right) := by
  cases flawed : validate right with
  | some kind =>
    rw [flawed] at flaws
    exact Or.inl ⟨_, _, calculate_of_flaw limits flaws, calculate_of_flaw limits flawed, rfl, rfl⟩
  | none =>
    rw [flawed] at flaws
    cases leftValue : valueOf stack left with
    | ok value =>
      cases rightValue : valueOf other right with
      | ok same =>
        rw [leftValue, rightValue] at values
        cases values
        exact Or.inl ⟨_, _, calculate_of_value limits flaws leftValue,
          calculate_of_value limits flawed rightValue, rfl, rfl⟩
      | error fault =>
        rw [leftValue, rightValue] at values
        cases values
    | error fault =>
      cases rightValue : valueOf other right with
      | ok value =>
        rw [leftValue, rightValue] at values
        cases values
      | error found =>
        rw [leftValue, rightValue] at values
        have kinds : fault.kind? = found.kind? := Except.error.inj values
        cases known : found.kind? with
        | some kind =>
          rw [known] at kinds
          exact Or.inl ⟨_, _, calculate_of_kind limits flaws leftValue kinds,
            calculate_of_kind limits flawed rightValue known, rfl, rfl⟩
        | none =>
          rw [known] at kinds
          have leftOut := calculate_of_no_kind limits flaws leftValue kinds
          have rightOut := calculate_of_no_kind limits flawed rightValue known
          obtain rfl := eq_unwritable_of_calculate leftOut
          obtain rfl := eq_unwritable_of_calculate rightOut
          exact Or.inr ⟨leftOut, rightOut⟩

/-- Parts of the same value can be exchanged between any two texts, whether or not they are well
formed: the calculation comes to the same value and kind of error. -/
theorem equal_parts_calculate_alike {first second : Stack} {left right : Text} {value : Int}
    (leftEvaluated : evaluate first left = .ok value)
    (rightEvaluated : evaluate second right = .ok value) (limits : Limits) {before behind : Text}
    (leftNests : (Text.around before behind left).NestsWithin 300)
    (rightNests : (Text.around before behind right).NestsWithin 300) :
    Verdict.Agree (calculate stack limits (Text.around before behind left))
      (calculate other limits (Text.around before behind right)) := by
  have leftPart := Text.IsPart.ofEvaluate leftEvaluated
  have rightPart := Text.IsPart.ofEvaluate rightEvaluated
  have flaws : validate (Text.around before behind left) =
      validate (Text.around before behind right) := by
    rw [validate_eq_flaw?, validate_eq_flaw?, Text.withoutBlanks_around, Text.withoutBlanks_around]
    exact leftPart.flaw?_around_congr rightPart
  have values := told_valueOf_around_congr leftEvaluated rightEvaluated
    (leftNests.mono stack.ample) (rightNests.mono other.ample)
  exact agree_of_told limits flaws values

/-- The text `8/(`. -/
def dividing : Text :=
  ['8', '/', '(']

/-- The text `-7) 9`. Behind a part of the value 7 it makes the divisor zero, before anything is
found wrong with the 9. -/
def lessSeven : Text :=
  ['-', '7', ')', ' ', '9']

/-- The text `2*3+1`. -/
def seven : Text :=
  ['2', '*', '3', '+', '1']

/-- The text `0 7`. -/
def paddedSeven : Text :=
  ['0', ' ', '7']

theorem sevens_calculate_alike :
    evaluate .shallow seven = .ok 7 ∧ evaluate .shallow paddedSeven = .ok 7 ∧
      (Text.around dividing lessSeven seven).NestsWithin 300 ∧
      (Text.around dividing lessSeven paddedSeven).NestsWithin 300 ∧
      Verdict.Agree (calculate .shallow {} (Text.around dividing lessSeven seven))
        (calculate .shallow {} (Text.around dividing lessSeven paddedSeven)) ∧
      (calculate .shallow {} (Text.around dividing lessSeven seven)).map Verdict.error? =
        .ok (some .divisionByZero) := by
  have first : evaluate .shallow seven = .ok 7 := rfl
  have second : evaluate .shallow paddedSeven = .ok 7 := rfl
  have firstNests : (Text.around dividing lessSeven seven).NestsWithin 300 := by decide
  have secondNests : (Text.around dividing lessSeven paddedSeven).NestsWithin 300 := by decide
  exact ⟨first, second, firstNests, secondNests,
    equal_parts_calculate_alike first second {} firstNests secondNests, rfl⟩

end Reckoner
