import Reckoner.Proofs.ViableStart

namespace Reckoner

/-- Texts typed one character at a time, all of them accepted. -/
inductive Keyed : Text → Prop
  | start : Keyed []
  | press {t : Text} {c : Char} : Keyed t → accepts t [c] = true → Keyed (t ++ [c])

/-- Digits, operators and parentheses. -/
def isKey (c : Char) : Bool :=
  c.isDigit || isOperator c || c == '(' || c == ')'

/-- Whether a key is accepted behind a character, an open parenthesis given. -/
def adjoins (last c : Char) : Bool :=
  if c.isDigit then true
  else if isOperator c then endsOperand last
  else if c = '(' then awaitsOperand last
  else c = ')' && endsOperand last

theorem known_of_isKey {c : Char} (key : isKey c = true) :
    c.isDigit = true ∨ (Lexeme.ofChar? c).isSome = true := by
  simp only [isKey, Bool.or_eq_true, beq_iff_eq] at key
  rcases key with ((digit | operator) | rfl) | rfl
  · exact Or.inl digit
  · obtain ⟨op, glyph⟩ := Option.isSome_iff_exists.mp operator
    exact Or.inr (by simp [Lexeme.ofChar?, glyph])
  · exact Or.inr rfl
  · exact Or.inr rfl

theorem isKey_of_mayFollow {t : Text} {c : Char} (follows : mayFollow t c = true) :
    isKey c = true := by
  unfold mayFollow at follows
  split at follows
  · simp [isKey, *]
  · split at follows
    · simp [isKey, *]
    · split at follows
      · simp [isKey, *]
      · split at follows
        · simp [isKey, *]
        · cases follows

theorem adjoins_of_mayFollow {t : Text} {last c : Char} (shown : t.getLast? = some last)
    (follows : mayFollow t c = true) : adjoins last c = true := by
  unfold mayFollow at follows
  unfold adjoins
  rw [shown] at follows
  split at follows
  · rename_i digit
    rw [if_pos digit]
  · rename_i notDigit
    rw [if_neg notDigit]
    split at follows
    · rename_i operator
      rw [if_pos operator]
      exact follows
    · rename_i notOperator
      rw [if_neg notOperator]
      split at follows
      · rename_i opening
        rw [if_pos opening]
        exact follows
      · rename_i notOpening
        rw [if_neg notOpening]
        split at follows
        · rename_i closing
          rw [Bool.and_eq_true] at follows
          rw [Bool.and_eq_true]
          exact ⟨decide_eq_true closing, follows.2⟩
        · cases follows

theorem count_lt_of_mayFollow {t : Text} (follows : mayFollow t ')' = true) :
    t.count ')' < t.count '(' := by
  have notOperator : isOperator ')' = false := rfl
  have notDigit : ')'.isDigit = false := rfl
  simp [mayFollow, notOperator, notDigit] at follows
  exact follows.1

/-- No operator goes first. -/
theorem isOperator_of_mayFollow_nil {c : Char} (follows : mayFollow [] c = true) :
    isOperator c = false := by
  rw [Bool.eq_false_iff]
  intro operator
  simp [mayFollow, isDigit_of_isOperator operator, operator] at follows

/-- Whether keys are all accepted, one after the other. -/
def acceptsAll (current : Text) : Text → Bool
  | [] => true
  | c :: rest => accepts current [c] && acceptsAll (current ++ [c]) rest

theorem acceptsAll_append (current front back : Text) :
    acceptsAll current (front ++ back) =
      (acceptsAll current front && acceptsAll (current ++ front) back) := by
  induction front generalizing current with
  | nil => simp [acceptsAll]
  | cons c rest ih => simp [acceptsAll, ih, Bool.and_assoc]

namespace Keyed

variable {t : Text}

theorem isKey_of_mem (keyed : Keyed t) : ∀ c ∈ t, isKey c = true := by
  induction keyed with
  | start => simp
  | @press t c _ accepted ih =>
    intro other member
    rcases List.mem_append.mp member with before | last
    · exact ih other before
    · rw [List.mem_singleton.mp last]
      exact isKey_of_mayFollow accepted

theorem visible (keyed : Keyed t) : ∀ c ∈ t, Text.isBlank c = false :=
  fun c member => isBlank_of_known (known_of_isKey (keyed.isKey_of_mem c member))

theorem mayFollow_of_accepts {c : Char} (keyed : Keyed t) (accepted : accepts t [c] = true) :
    mayFollow t c = true := by
  rw [accepts, Text.withoutBlanks_of_visible keyed.visible] at accepted
  exact accepted

/-- The keypad can be gone back on. -/
theorem of_prefix {start : Text} (keyed : Keyed t) (initial : start <+: t) : Keyed start := by
  induction keyed with
  | start =>
    rw [List.prefix_nil.mp initial]
    exact .start
  | press before accepted ih =>
    rcases List.prefix_concat_iff.mp initial with rfl | earlier
    · exact .press before accepted
    · exact ih earlier

theorem ofDigits {digits : Text} (all : ∀ c ∈ digits, c.isDigit = true) : Keyed digits := by
  induction digits using List.reverseRecOn with
  | nil => exact .start
  | append_singleton digits c ih =>
    have digit : c.isDigit = true := all c (by simp)
    exact .press (ih fun other member => all other (List.mem_append_left _ member))
      (by simp [accepts, mayFollow, digit])

theorem head?_any_isOperator (keyed : Keyed t) : t.head?.any isOperator = false := by
  induction keyed with
  | start => rfl
  | @press t c _ accepted ih =>
    cases t with
    | nil => exact isOperator_of_mayFollow_nil accepted
    | cons first rest => exact ih

theorem count_le (keyed : Keyed t) : t.count ')' ≤ t.count '(' := by
  induction keyed with
  | start => rfl
  | @press t c before accepted ih =>
    rw [List.count_append, List.count_append]
    by_cases closing : c = ')'
    · subst closing
      have room := count_lt_of_mayFollow (before.mayFollow_of_accepts accepted)
      simp
      omega
    · rw [List.count_singleton, List.count_singleton]
      simp [closing]
      omega

theorem append {keys : Text} (keyed : Keyed t) (accepted : acceptsAll t keys = true) :
    Keyed (t ++ keys) := by
  induction keys generalizing t with
  | nil => simpa using keyed
  | cons c rest ih =>
    obtain ⟨here, later⟩ := Bool.and_eq_true_iff.mp accepted
    simpa using ih (keyed.press here) later

theorem accepts_closing (keyed : Keyed t) (ended : t.getLast?.any endsOperand = true)
    (room : t.count ')' < t.count '(') : accepts t [')'] = true := by
  have notOperator : isOperator ')' = false := rfl
  have notDigit : ')'.isDigit = false := rfl
  rw [accepts, Text.withoutBlanks_of_visible keyed.visible]
  simp [mayFollow, notOperator, notDigit, room, ended]

/-- Parentheses are closed behind an operand, and behind one another. -/
theorem acceptsAll_closings {number : Nat} (keyed : Keyed t)
    (ended : t.getLast?.any endsOperand = true) (room : t.count ')' + number ≤ t.count '(') :
    acceptsAll t (List.replicate number ')') = true := by
  induction number generalizing t with
  | zero => rfl
  | succ number ih =>
    have accepted := keyed.accepts_closing ended (by omega)
    have closings : (t ++ [')']).count ')' = t.count ')' + 1 := by simp
    have openings : (t ++ [')']).count '(' = t.count '(' := by simp
    have later := ih (keyed.press accepted) (by simp [endsOperand]) (by omega)
    rw [List.replicate_succ, acceptsAll, accepted, later]
    rfl

end Keyed

theorem Keyed.adjoins_of_mem {t : Text} {last c : Char} (keyed : Keyed t)
    (member : (last, c) ∈ neighbours t) : adjoins last c = true := by
  induction keyed with
  | start => simp [neighbours] at member
  | @press t typed before accepted ih =>
    rcases mem_neighbours_append_singleton.mp member with earlier | ⟨shown, rfl⟩
    · exact ih earlier
    · exact adjoins_of_mayFollow shown (before.mayFollow_of_accepts accepted)

/-- Operators and parentheses stand in order. The end of the text is left open. -/
structure Text.IsOrderly (t : Text) : Prop where
  noLeadingOperator : t.head?.any isOperator = false
  noOperators : ∀ a b, (a, b) ∈ neighbours t → ¬(isOperator a = true ∧ isOperator b = true)
  noEmptyParentheses : ('(', ')') ∉ neighbours t
  noOperatorOpens : ∀ c, ('(', c) ∈ neighbours t → isOperator c = false
  noOperatorCloses : ∀ c, (c, ')') ∈ neighbours t → isOperator c = false
  noOpeningAfterOperand : ∀ c, (c, '(') ∈ neighbours t → c.isDigit = false ∧ c ≠ ')'
  balanced : ∀ start, start <+: t → start.count ')' ≤ start.count '('

theorem endsOperand_of_adjoins {last c : Char} (operator : isOperator c = true)
    (follows : adjoins last c = true) : endsOperand last = true := by
  simpa [adjoins, isDigit_of_isOperator operator, operator] using follows

theorem Keyed.isOrderly {t : Text} (keyed : Keyed t) : t.IsOrderly where
  noLeadingOperator := keyed.head?_any_isOperator
  noOperators a b member := by
    rintro ⟨first, second⟩
    have ended := endsOperand_of_adjoins second (keyed.adjoins_of_mem member)
    rw [endsOperand_of_isOperator first] at ended
    cases ended
  noEmptyParentheses member := by cases keyed.adjoins_of_mem member
  noOperatorOpens c member := by
    rw [Bool.eq_false_iff]
    intro operator
    cases endsOperand_of_adjoins operator (keyed.adjoins_of_mem member)
  noOperatorCloses c member := by
    rw [Bool.eq_false_iff]
    intro operator
    have ended : endsOperand c = true := keyed.adjoins_of_mem member
    rw [endsOperand_of_isOperator operator] at ended
    cases ended
  noOpeningAfterOperand c member := by
    have waits : awaitsOperand c = true := keyed.adjoins_of_mem member
    constructor
    · rw [Bool.eq_false_iff]
      intro digit
      simp only [awaitsOperand, isOperator_of_isDigit digit, Bool.false_or,
        decide_eq_true_eq] at waits
      rw [waits] at digit
      cases digit
    · rintro rfl
      cases waits
  balanced start initial := (keyed.of_prefix initial).count_le

/-- The text behind a minus sign that it begins with, if it begins with one. -/
def Text.withoutSign (t : Text) : Text :=
  if t.head? = some '-' then t.tail else t

theorem Text.withoutSign_cons (c : Char) (rest : Text) :
    withoutSign (c :: rest) = if c = '-' then rest else c :: rest := by
  simp [withoutSign]

/-- The keypad takes a sign in front for nothing. -/
theorem mayFollow_sign (t : Text) (c : Char) : mayFollow ('-' :: t) c = mayFollow t c := by
  cases t with
  | nil => rfl
  | cons first rest =>
    have closings : ('-' :: first :: rest).count ')' = (first :: rest).count ')' :=
      List.count_cons_of_ne (by decide)
    have openings : ('-' :: first :: rest).count '(' = (first :: rest).count '(' :=
      List.count_cons_of_ne (by decide)
    rw [mayFollow, mayFollow, List.getLast?_cons_cons, closings, openings]

theorem accepts_withoutSign (t symbol : Text) :
    accepts t.withoutSign symbol = accepts t symbol := by
  cases t with
  | nil => rfl
  | cons first rest =>
    rw [Text.withoutSign_cons]
    split
    · rename_i sign
      subst sign
      have signed : Text.withoutBlanks ('-' :: rest) = '-' :: Text.withoutBlanks rest := rfl
      unfold accepts
      split
      · rw [signed, mayFollow_sign]
      · rfl
    · rfl

theorem withoutSign_append_singleton {t : Text} {c : Char} (accepted : accepts t [c] = true) :
    Text.withoutSign (t ++ [c]) = t.withoutSign ++ [c] := by
  cases t with
  | nil =>
    have notSign : c ≠ '-' := by
      rintro rfl
      cases accepted
    simp [Text.withoutSign, notSign]
  | cons first rest =>
    rw [List.cons_append, Text.withoutSign_cons, Text.withoutSign_cons]
    split <;> rfl

theorem withoutSign_dropLast (t : Text) :
    Text.withoutSign t.dropLast = t.withoutSign.dropLast := by
  cases t with
  | nil => rfl
  | cons first rest =>
    cases rest with
    | nil =>
      rw [Text.withoutSign_cons]
      split <;> rfl
    | cons next rest =>
      rw [List.dropLast_cons_cons, Text.withoutSign_cons, Text.withoutSign_cons]
      split <;> rfl

end Reckoner
