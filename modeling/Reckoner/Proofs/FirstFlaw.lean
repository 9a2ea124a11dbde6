import Reckoner.Proofs.Canonical
import Reckoner.Proofs.KeyedText

namespace Reckoner

/-- The depth is lost where a prefix closes more parentheses than are open. -/
theorem finalDepth?_eq_none_iff {t : Text} {depth : Nat} :
    finalDepth? depth t = none ↔
      ∃ start, start <+: t ∧ depth + start.count '(' < start.count ')' := by
  constructor
  · intro lost
    induction t generalizing depth with
    | nil => cases lost
    | cons c rest ih =>
      by_cases opening : c = '('
      · subst opening
        rw [finalDepth?_opening] at lost
        obtain ⟨start, initial, more⟩ := ih lost
        refine ⟨'(' :: start, List.cons_prefix_cons.mpr ⟨rfl, initial⟩, ?_⟩
        rw [List.count_cons_self, List.count_cons_of_ne (by decide)]
        omega
      · by_cases closing : c = ')'
        · subst closing
          cases depth with
          | zero => exact ⟨[')'], List.cons_prefix_cons.mpr ⟨rfl, List.nil_prefix⟩, by decide⟩
          | succ depth =>
            rw [finalDepth?_closing] at lost
            obtain ⟨start, initial, more⟩ := ih lost
            refine ⟨')' :: start, List.cons_prefix_cons.mpr ⟨rfl, initial⟩, ?_⟩
            rw [List.count_cons_self, List.count_cons_of_ne (by decide)]
            omega
        · rw [finalDepth?_plain_cons depth rest opening closing] at lost
          obtain ⟨start, initial, more⟩ := ih lost
          refine ⟨c :: start, List.cons_prefix_cons.mpr ⟨rfl, initial⟩, ?_⟩
          rwa [List.count_cons_of_ne closing, List.count_cons_of_ne opening]
  · rintro ⟨start, ⟨rest, rfl⟩, more⟩
    cases level : finalDepth? depth start with
    | none => rw [finalDepth?_append, level, Option.bind_none]
    | some inner =>
      have tally := count_of_finalDepth? level
      omega

/-- Parentheses do not match. -/
def Text.IsUnbalanced (t : Text) : Prop :=
  (∃ start, start <+: t ∧ start.count '(' < start.count ')') ∨ t.count '(' ≠ t.count ')'

theorem isBalanced_eq_false_iff {t : Text} : isBalanced t = false ↔ t.IsUnbalanced := by
  have lost : finalDepth? 0 t = none ↔ _ := finalDepth?_eq_none_iff
  simp only [Nat.zero_add] at lost
  rw [isBalanced, beq_eq_false_iff_ne, Text.IsUnbalanced, ← lost]
  cases level : finalDepth? 0 t with
  | none => simp
  | some depth =>
    have tally := count_of_finalDepth? level
    simp only [ne_eq, Option.some.injEq, reduceCtorEq, false_or]
    omega

/-- The kinds of flaw that validation knows, in the order in which it looks for them. -/
def checks : List ErrorKind :=
  [.unbalancedParentheses, .leadingOperator, .consecutiveOperators, .trailingOperator,
    .emptyParentheses, .emptyExpression]

/-- What a text looks like that has a flaw of a kind, whatever else is wrong with it. -/
def Text.Violates (t : Text) : ErrorKind → Prop
  | .unbalancedParentheses => t.IsUnbalanced
  | .leadingOperator => ∃ c rest, t = c :: rest ∧ isOperator c = true
  | .consecutiveOperators =>
    ∃ front a b back, t = front ++ a :: b :: back ∧ isOperator a = true ∧ isOperator b = true
  | .trailingOperator => ∃ front c, t = front ++ [c] ∧ isOperator c = true
  | .emptyParentheses => ∃ front back, t = front ++ '(' :: ')' :: back
  | .emptyExpression => t = []
  | _ => False

/-- Whether a check finds what it looks for. -/
def Text.fails (t : Text) : ErrorKind → Bool
  | .unbalancedParentheses => !isBalanced t
  | .leadingOperator => t.head?.any isOperator
  | .consecutiveOperators => (neighbours t).any areOperators
  | .trailingOperator => t.getLast?.any isOperator
  | .emptyParentheses => (neighbours t).contains ('(', ')')
  | .emptyExpression => t.isEmpty
  | _ => false

theorem Text.fails_iff {t : Text} {kind : ErrorKind} : t.fails kind = true ↔ t.Violates kind := by
  cases kind with
  | unbalancedParentheses => rw [fails, Bool.not_eq_true', isBalanced_eq_false_iff, Violates]
  | leadingOperator =>
    rw [fails, Violates, Option.any_eq_true]
    simp only [List.head?_eq_some_iff]
    constructor
    · rintro ⟨c, ⟨rest, shape⟩, operator⟩
      exact ⟨c, rest, shape, operator⟩
    · rintro ⟨c, rest, shape, operator⟩
      exact ⟨c, ⟨rest, shape⟩, operator⟩
  | consecutiveOperators =>
    rw [fails, Violates, List.any_eq_true]
    constructor
    · rintro ⟨⟨a, b⟩, member, both⟩
      obtain ⟨front, back, shape⟩ := mem_neighbours_iff.mp member
      exact ⟨front, a, b, back, shape, Bool.and_eq_true_iff.mp both⟩
    · rintro ⟨front, a, b, back, shape, both⟩
      exact ⟨(a, b), mem_neighbours_iff.mpr ⟨front, back, shape⟩, Bool.and_eq_true_iff.mpr both⟩
  | trailingOperator =>
    rw [fails, Violates, Option.any_eq_true]
    simp only [List.getLast?_eq_some_iff]
    constructor
    · rintro ⟨c, ⟨front, shape⟩, operator⟩
      exact ⟨front, c, shape, operator⟩
    · rintro ⟨front, c, shape, operator⟩
      exact ⟨c, ⟨front, shape⟩, operator⟩
  | emptyParentheses => rw [fails, Violates, List.contains_iff_mem, mem_neighbours_iff]
  | emptyExpression => rw [fails, Violates, List.isEmpty_iff]
  | invalidCharacter | divisionByZero | malformedExpression | unmatchedParenthesis
    | digitLimitExceeded => simp [fails, Violates]

/-- The flaw of a text is the first check that fails. -/
theorem flaw?_eq_find? (t : Text) : flaw? t = checks.find? t.fails := by
  have next (kind : ErrorKind) (others : List ErrorKind) :
      (kind :: others).find? t.fails =
        if t.fails kind then some kind else others.find? t.fails := by
    rw [List.find?_cons]
    cases t.fails kind <;> rfl
  rw [checks, next, next, next, next, next, next, List.find?_nil]
  rfl

namespace Text.IsFlawless

variable {a b : Text}

theorem head_ne_closing (flawless : a.IsFlawless) : a.head? ≠ some ')' := by
  intro shown
  obtain ⟨rest, rfl⟩ := List.head?_eq_some_iff.mp shown
  cases flawless.balanced

theorem last_ne_opening (flawless : a.IsFlawless) : a.getLast? ≠ some '(' := by
  intro shown
  obtain ⟨front, rfl⟩ := List.getLast?_eq_some_iff.mp shown
  have balanced := flawless.balanced
  rw [finalDepth?_append] at balanced
  cases level : finalDepth? 0 front with
  | none =>
    rw [level] at balanced
    cases balanced
  | some depth =>
    rw [level] at balanced
    cases balanced

/-- Parentheses around a text in order leave it in order. -/
theorem wrapped (flawless : a.IsFlawless) : Text.IsFlawless ('(' :: (a ++ [')'])) where
  balanced := by
    have inside := finalDepth?_add 1 flawless.balanced
    rw [finalDepth?_opening, finalDepth?_append, inside]
    rfl
  noLeadingOperator := rfl
  noOperators first second member := by
    rintro ⟨one, other⟩
    rcases mem_neighbours_cons.mp member with ⟨rfl, _⟩ | inner
    · cases one
    · rcases mem_neighbours_append_singleton.mp inner with earlier | ⟨_, rfl⟩
      · exact flawless.noOperators first second earlier ⟨one, other⟩
      · cases other
  noTrailingOperator := by
    rw [← List.cons_append, List.getLast?_concat]
    rfl
  noEmptyParentheses member := by
    rcases mem_neighbours_cons.mp member with ⟨_, shown⟩ | inner
    · rw [List.head?_append_of_ne_nil _ flawless.filled] at shown
      exact flawless.head_ne_closing shown
    · rcases mem_neighbours_append_singleton.mp inner with earlier | ⟨shown, _⟩
      · exact flawless.noEmptyParentheses earlier
      · exact flawless.last_ne_opening shown
  filled := List.cons_ne_nil '(' _

/-- Texts in order with an operator between them are in order. -/
theorem joined (left : a.IsFlawless) (right : b.IsFlawless) {op : Char}
    (operator : isOperator op = true) : Text.IsFlawless (a ++ op :: b) where
  balanced := by
    obtain ⟨_, glyph⟩ := Option.isSome_iff_exists.mp operator
    obtain ⟨notOpening, notClosing⟩ := Operator.ne_parenthesis_of_ofGlyph? glyph
    rw [finalDepth?_append, left.balanced, Option.bind_some,
      finalDepth?_plain_cons 0 b notOpening notClosing, right.balanced]
  noLeadingOperator := by
    rw [List.head?_append_of_ne_nil _ left.filled]
    exact left.noLeadingOperator
  noOperators first second member := by
    rintro ⟨one, other⟩
    rw [neighbours_append_cons, List.mem_append] at member
    rcases member with before | behind
    · rcases mem_neighbours_append_singleton.mp before with earlier | ⟨shown, _⟩
      · exact left.noOperators first second earlier ⟨one, other⟩
      · have last := left.noTrailingOperator
        rw [shown, Option.any_some, one] at last
        cases last
    · rcases mem_neighbours_cons.mp behind with ⟨_, shown⟩ | later
      · have head := right.noLeadingOperator
        rw [shown, Option.any_some, other] at head
        cases head
      · exact right.noOperators first second later ⟨one, other⟩
  noTrailingOperator := by
    rw [List.getLast?_append_of_ne_nil _ (List.cons_ne_nil op b),
      List.getLast?_cons_of_ne_nil right.filled]
    exact right.noTrailingOperator
  noEmptyParentheses member := by
    rw [neighbours_append_cons, List.mem_append] at member
    rcases member with before | behind
    · rcases mem_neighbours_append_singleton.mp before with earlier | ⟨_, rfl⟩
      · exact left.noEmptyParentheses earlier
      · cases operator
    · rcases mem_neighbours_cons.mp behind with ⟨rfl, _⟩ | later
      · cases operator
      · exact right.noEmptyParentheses later
  filled := by simp

end Text.IsFlawless

theorem validate_eq_none_iff {t : Text} : validate t = none ↔ t.withoutBlanks.IsFlawless := by
  rw [validate_eq_flaw?, flaw?_eq_none_iff]

/-- Validation reports the first flaw in its order that the canonical text has, and none exactly if
it has none. What passes still passes in parentheses, and two such texts with an operator between
them pass, too. -/
theorem first_violation_is_reported :
    (∀ t kind, validate t = some kind ↔
      ∃ earlier later, checks = earlier ++ kind :: later ∧ t.canonical.Violates kind ∧
        ∀ other ∈ earlier, ¬ t.canonical.Violates other) ∧
    (∀ t, validate t = none ↔ ∀ kind ∈ checks, ¬ t.canonical.Violates kind) ∧
    ∀ a b, validate a = none → validate b = none →
      validate ('(' :: (a ++ [')'])) = none ∧
        ∀ op, isOperator op = true → validate (a ++ op :: b) = none := by
  refine ⟨fun t kind => ?_, fun t => ?_, fun a b valid validToo => ⟨?_, fun op operator => ?_⟩⟩
  · rw [validate, flaw?_eq_find?, List.find?_eq_some_iff_append, Text.fails_iff]
    simp only [Bool.not_eq_true', Bool.eq_false_iff, ne_eq, Text.fails_iff]
    constructor
    · rintro ⟨violated, earlier, later, order, passed⟩
      exact ⟨earlier, later, order, violated, passed⟩
    · rintro ⟨earlier, later, order, violated, passed⟩
      exact ⟨violated, earlier, later, order, passed⟩
  · rw [validate, flaw?_eq_find?, List.find?_eq_none]
    simp only [Text.fails_iff]
  · have inside := validate_eq_none_iff.mp valid
    have visible : Text.withoutBlanks ('(' :: (a ++ [')'])) =
        '(' :: (a.withoutBlanks ++ [')']) := by
      have front : Text.withoutBlanks ('(' :: (a ++ [')'])) =
          '(' :: (a ++ [')']).withoutBlanks := rfl
      rw [front, Text.withoutBlanks_append]
      rfl
    rw [validate_eq_none_iff, visible]
    exact inside.wrapped
  · have left := validate_eq_none_iff.mp valid
    have right := validate_eq_none_iff.mp validToo
    obtain ⟨_, glyph⟩ := Option.isSome_iff_exists.mp operator
    have shown : Text.withoutBlanks (op :: b) = op :: b.withoutBlanks := by
      have visible := Operator.isBlank_of_ofGlyph? glyph
      rw [Text.withoutBlanks, List.filter_cons_of_pos (by simp [visible])]
      rfl
    rw [validate_eq_none_iff, Text.withoutBlanks_append, shown]
    exact left.joined right operator

/-- The text `()× ÷`, in which three checks fail. -/
def overstrewn : Text :=
  ['(', ')', '×', ' ', '÷']

/-- The text `(-3 )`, which is left to the grammar. -/
def negated : Text :=
  ['(', '-', '3', ' ', ')']

theorem negated_joined :
    (overstrewn.canonical.Violates .consecutiveOperators ∧ ¬ overstrewn.canonical.IsUnbalanced) ∧
      validate negated = none ∧ validate ['7'] = none ∧
      validate ('(' :: (negated ++ [')'])) = none ∧ validate (negated ++ '÷' :: ['7']) = none := by
  have reported : validate overstrewn = some .consecutiveOperators := rfl
  obtain ⟨earlier, later, order, violated, passed⟩ :=
    (first_violation_is_reported.1 overstrewn .consecutiveOperators).mp reported
  have ahead : .unbalancedParentheses ∈ earlier := by
    cases earlier with
    | nil => cases order
    | cons first earlier =>
      obtain ⟨rfl, _⟩ := List.cons.inj order
      exact List.mem_cons_self ..
  have valid : validate negated = none := rfl
  have validToo : validate ['7'] = none := rfl
  obtain ⟨wrapped, joined⟩ := first_violation_is_reported.2.2 negated ['7'] valid validToo
  exact ⟨⟨violated, passed _ ahead⟩, valid, validToo, wrapped, joined '÷' rfl⟩

end Reckoner
