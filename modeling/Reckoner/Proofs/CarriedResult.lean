import Reckoner.Proofs.Canonical
import Reckoner.Proofs.KeyedText
import Reckoner.Proofs.ShownOutcome

namespace Reckoner

open Numeral

/-- A number, an operator behind it and a second number, as they are typed. -/
def joined (left : Int) (c : Char) (n : Nat) : Text :=
  Numeral.text left ++ c :: Nat.toDigits 10 n

variable {left : Int} {n : Nat} {c : Char} {op : Operator}

theorem mem_joined (glyph : Operator.ofGlyph? c = some op) :
    ∀ other ∈ joined left c n, isOperator other = true ∨ other.isDigit = true := by
  intro other member
  rcases List.mem_append.mp member with before | behind
  · rw [Numeral.text] at before
    split at before
    · rcases List.mem_cons.mp before with rfl | digit
      · exact Or.inl rfl
      · exact Or.inr (isDigit_of_mem_toDigits other digit)
    · exact Or.inr (isDigit_of_mem_toDigits other before)
  · rcases List.mem_cons.mp behind with rfl | digit
    · exact Or.inl (isOperator_of_ofGlyph? glyph)
    · exact Or.inr (isDigit_of_mem_toDigits other digit)

theorem plain_of_mem_joined (glyph : Operator.ofGlyph? c = some op) :
    ∀ other ∈ joined left c n, other ≠ '(' ∧ other ≠ ')' := by
  intro other member
  rcases mem_joined glyph other member with operator | digit
  · obtain ⟨_, known⟩ := Option.isSome_iff_exists.mp operator
    exact Operator.ne_parenthesis_of_ofGlyph? known
  · exact plain_of_digits (by simpa using digit) other (List.mem_singleton_self other)

theorem visible_of_mem_joined (glyph : Operator.ofGlyph? c = some op) :
    ∀ other ∈ joined left c n, Text.isBlank other = false := by
  intro other member
  have key : isKey other = true := by
    rcases mem_joined glyph other member with operator | digit
    · simp [isKey, operator]
    · simp [isKey, digit]
  exact isBlank_of_known (known_of_isKey key)

theorem renders_joined (nonneg : 0 ≤ left) (glyph : Operator.ofGlyph? c = some op) :
    Formula.Renders (.binary op (.number left) (.number n)) (joined left c n) := by
  have read (n : Nat) : Formula.Written (.number n) false (Nat.toDigits 10 n) :=
    .ofDigits Nat.toDigits_ne_nil (List.all_eq_true.mpr isDigit_of_mem_toDigits)
      (by rw [Nat.ofDigitChars_toDigits (by decide) (by decide)])
  have first : Formula.Written (.number left) false (Numeral.text left) := by
    have shown := read left.natAbs
    rwa [Int.natAbs_of_nonneg nonneg, ← text_of_nonneg nonneg] at shown
  refine ⟨false, ?_⟩
  rw [Text.withoutBlanks_of_visible (visible_of_mem_joined glyph)]
  exact .binary first (by cases op <;> simp [Formula.needsWrapLeft]) glyph (read n)
    (by cases op <;> simp [Formula.needsWrapRight])

/-- A number that is not negative is read back and calculated with. -/
theorem calculate_joined (stack : Stack) (limits : Limits) (nonneg : 0 ≤ left)
    (glyph : Operator.ofGlyph? c = some op) {value : Int} (known : op.result? left n = some value) :
    calculate stack limits (joined left c n) =
      .ok (if Numeral.fits value limits.maxDigits then .result value else .tooLong value) := by
  have nests : (joined left c n).NestsWithin stack.room :=
    nestsWithin_of_plain _ (plain_of_mem_joined glyph)
  have evaluated := evaluate_of_renders nests (renders_joined (n := n) nonneg glyph)
  have meaning : Formula.value? (.binary op (.number left) (.number n)) = some value := known
  rw [meaning] at evaluated
  exact calculate_of_evaluate limits evaluated

/-- The sign of a negative number is taken for an operator. -/
theorem calculate_joined_of_neg (stack : Stack) (limits : Limits) (negative : left < 0)
    (glyph : Operator.ofGlyph? c = some op) :
    calculate stack limits (joined left c n) = .ok (.rejected .leadingOperator) := by
  have balanced : isBalanced ((joined left c n).map canonicalGlyph) = true := by
    rw [isBalanced, finalDepth?_map_canonicalGlyph, finalDepth?_plain 0 (plain_of_mem_joined glyph)]
    rfl
  have head : ((joined left c n).map canonicalGlyph).head?.any isOperator = true := by
    rw [head?_any_isOperator_map, joined, text_of_neg negative]
    rfl
  have flawed : validate (joined left c n) = some .leadingOperator := by
    rw [validate, Text.canonical_of_visible (visible_of_mem_joined glyph), flaw?,
      if_neg (by simp [balanced]), if_pos head]
  rw [calculate, flawed]

/-- An operator goes on from the text of a number. -/
theorem accepts_operator_of_text (value : Int) (glyph : Operator.ofGlyph? c = some op) :
    accepts [] [c] = false ∧ accepts (Numeral.text value) [c] = true := by
  have operator := isOperator_of_ofGlyph? glyph
  have notDigit := Operator.isDigit_of_ofGlyph? glyph
  have visible : ∀ other ∈ Numeral.text value, Text.isBlank other = false := fun other member =>
    visible_of_mem_joined (n := 0) glyph other (List.mem_append_left _ member)
  obtain ⟨last, shown⟩ : ∃ last, (Nat.toDigits 10 value.natAbs).getLast? = some last :=
    ⟨_, List.getLast?_eq_some_getLast Nat.toDigits_ne_nil⟩
  have ends : (Numeral.text value).getLast? = some last := by
    rw [Numeral.text]
    split
    · rw [List.getLast?_cons, shown]
      rfl
    · exact shown
  have digit := isDigit_of_mem_toDigits last (List.mem_of_getLast? shown)
  constructor
  · simp [accepts, mayFollow, notDigit, operator, Text.withoutBlanks]
  · simp [accepts, Text.withoutBlanks_of_visible visible, mayFollow, notDigit, operator, ends,
      endsOperand, digit]

theorem acceptsAll_digits (current : Text) {digits : Text}
    (all : ∀ c ∈ digits, c.isDigit = true) : acceptsAll current digits = true := by
  induction digits generalizing current with
  | nil => rfl
  | cons c rest ih =>
    have digit : c.isDigit = true := all c (List.mem_cons_self ..)
    have later := ih (current ++ [c]) fun other member => all other (List.mem_cons_of_mem _ member)
    simp [acceptsAll, accepts, mayFollow, digit, later]

namespace Session

/-- Digits are taken wherever no result is on show. -/
theorem run_digits (stack : Stack) (limits : Limits) {session : Session} {digits : Text}
    (typing : session.result = none) (clean : session.error = none)
    (all : ∀ c ∈ digits, c.isDigit = true) :
    session.run (under limits (atop stack (keys digits))) =
      { session with expression := session.expression ++ digits } := by
  have accepted := acceptsAll_digits session.expression all
  rw [run_keys stack limits typing accepted, clean, ite_self, ← clean]

/-- What is typed to go on from a result: an operator, a number and the evaluation. -/
def continuation (stack : Stack) (c : Char) (n : Nat) : List (Stack × Input) :=
  atop stack (keys (c :: Nat.toDigits 10 n) ++ [.action .equals])

/-- A result that can be written out is carried into the expression. -/
theorem run_carried (stack : Stack) (limits : Limits) {session : Session}
    (showing : session.result = some left) (written : Numeral.text? left = some (Numeral.text left))
    (glyph : Operator.ofGlyph? c = some op) :
    session.run (under limits (atop stack (keys (c :: Nat.toDigits 10 n)))) =
      { session with expression := joined left c n, result := none, error := none } := by
  obtain ⟨notFirst, follows⟩ := accepts_operator_of_text left glyph
  have pressed : session.after stack limits (.action (.press [c])) =
      { session with expression := Numeral.text left ++ [c], result := none, error := none } := by
    simp [after, receive, perform, press, showing, written, notFirst, follows]
  have step : session.run (under limits (atop stack (keys (c :: Nat.toDigits 10 n)))) =
      (session.after stack limits (.action (.press [c]))).run
        (under limits (atop stack (keys (Nat.toDigits 10 n)))) := rfl
  rw [step, pressed, run_digits stack limits rfl rfl isDigit_of_mem_toDigits]
  simp only [joined, List.append_assoc, List.singleton_append]

theorem run_continuation (stack : Stack) (limits : Limits) {session : Session}
    (showing : session.result = some left) (written : Numeral.text? left = some (Numeral.text left))
    (glyph : Operator.ofGlyph? c = some op) :
    session.run (under limits (continuation stack c n)) =
      ({ session with expression := joined left c n, result := none, error := none } :
        Session).after stack limits (.action .equals) := by
  rw [continuation, atop_append, under_append, run_append,
    run_carried stack limits showing written glyph]
  rfl

/-- Behind a negative result nothing can be calculated, since its sign is refused at the start. -/
theorem continuation_refused {steps : List Step} (stack : Stack) (limits : Limits)
    (showing : (reached steps).result = some left) (negative : left < 0)
    (glyph : Operator.ofGlyph? c = some op) :
    ((reached steps).run (under limits (continuation stack c n))).result = none ∧
      ((reached steps).run (under limits (continuation stack c n))).error =
        some .leadingOperator := by
  have typed : joined left c n ≠ [] := by simp [joined]
  rw [run_continuation stack limits showing (text?_of_reached showing) glyph]
  exact shows_of_error typed (calculate_joined_of_neg stack limits negative glyph) rfl

/-- Behind a result that is not negative what is typed is calculated with it. -/
theorem continuation_calculated {steps : List Step} (stack : Stack) (limits : Limits)
    (showing : (reached steps).result = some left) (nonneg : 0 ≤ left)
    (glyph : Operator.ofGlyph? c = some op) {value : Int} (known : op.result? left n = some value) :
    let next := (reached steps).run (under limits (continuation stack c n))
    if Numeral.digitCount value ≤ limits.maxDigits then
      next.result = some value ∧ next.error = none
    else next.result = none ∧ next.error = some .digitLimitExceeded := by
  intro next
  have typed : joined left c n ≠ [] := by simp [joined]
  have evaluated : next = _ :=
    run_continuation stack limits showing (text?_of_reached showing) glyph
  have calculated := calculate_joined stack limits nonneg glyph known
  have size : Numeral.fits value limits.maxDigits = true ↔
      Numeral.digitCount value ≤ limits.maxDigits := Numeral.fits_iff limits.maxDigits_pos
  rw [evaluated]
  cases fits : Numeral.fits value limits.maxDigits with
  | true =>
    rw [fits] at calculated
    rw [if_pos (size.mp fits)]
    exact shows_of_result typed calculated
  | false =>
    rw [fits] at calculated
    rw [if_neg (by simp [← size, fits])]
    exact shows_of_error typed calculated rfl

/-- An operator and a number typed behind a result that is not negative are calculated with it.
Behind a negative one they are refused. -/
theorem operator_continues_from_result (steps : List Step) (stack : Stack) (limits : Limits)
    (showing : (reached steps).result = some left) (glyph : Operator.ofGlyph? c = some op)
    (divides : op = .multiplicative .dividedBy → 0 < n) :
    ∃ value, op.result? left n = some value ∧
      let next := (reached steps).run (under limits (continuation stack c n))
      if left < 0 then next.result = none ∧ next.error = some .leadingOperator
      else if Numeral.digitCount value ≤ limits.maxDigits then
        next.result = some value ∧ next.error = none
      else next.result = none ∧ next.error = some .digitLimitExceeded := by
  obtain ⟨value, known⟩ : ∃ value, op.result? left n = some value := by
    rw [← Option.ne_none_iff_exists']
    intro missing
    -- Only a division by zero comes to nothing.
    obtain ⟨division, zero⟩ := Operator.result?_eq_none_iff.mp missing
    have positive := divides division
    omega
  refine ⟨value, known, ?_⟩
  intro next
  by_cases negative : left < 0
  · rw [if_pos negative]
    exact continuation_refused stack limits showing negative glyph
  · rw [if_neg negative]
    exact continuation_calculated stack limits showing (by omega) glyph known

/-- What leads from the empty session to 42. -/
def answered : List (Stack × Input) :=
  atop .shallow (keys ['6', '×', '7'] ++ [.action .equals])

/-- What leads from the empty session to -4. -/
def overdrawn : List (Stack × Input) :=
  atop .shallow (keys ['3', '-', '7'] ++ [.action .equals])

theorem answered_divided :
    (reached (under {} answered)).result = some 42 ∧
      Operator.ofGlyph? '÷' = some (.multiplicative .dividedBy) ∧ 0 < 5 ∧
      ((reached (under {} answered)).run (under {} (continuation .shallow '÷' 5))).result = some 8 ∧
      ((reached (under {} answered)).run
        (under {} (continuation .shallow '÷' 5))).error = none := by
  have showing : (reached (under {} answered)).result = some 42 := rfl
  have glyph : Operator.ofGlyph? '÷' = some (.multiplicative .dividedBy) := rfl
  have positive : 0 < 5 := by decide
  obtain ⟨value, known, shown⟩ :=
    operator_continues_from_result (under {} answered) .shallow {} showing glyph
      fun _ => positive
  have quotient : value = 8 := by
    norm_num [Operator.result?] at known
    omega
  subst quotient
  rw [if_neg (by decide), if_pos (by decide)] at shown
  exact ⟨showing, glyph, positive, shown⟩

/-- An operator does not always go on from the result on show. -/
theorem overdrawn_not_continued :
    (reached (under {} overdrawn)).result = some (-4) ∧
      Operator.ofGlyph? '+' = some (.additive .plus) ∧
      Operator.result? (.additive .plus) (-4) (10 : ℕ) = some 6 ∧
      Numeral.digitCount 6 ≤ ({} : Limits).maxDigits ∧
      ((reached (under {} overdrawn)).run
        (under {} (continuation .shallow '+' 10))).result ≠ some 6 ∧
      ((reached (under {} overdrawn)).run (under {} (continuation .shallow '+' 10))).error =
        some .leadingOperator := by
  have showing : (reached (under {} overdrawn)).result = some (-4) := rfl
  have glyph : Operator.ofGlyph? '+' = some (.additive .plus) := rfl
  obtain ⟨missing, refused⟩ :=
    continuation_refused (n := 10) .shallow {} showing (by decide) glyph
  exact ⟨showing, glyph, rfl, by decide, by simp [missing], refused⟩

end Session

end Reckoner
