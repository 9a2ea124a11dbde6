import Reckoner.Proofs.Neighbours

namespace Reckoner

/-- Texts typed one character at a time, all of them accepted and no digit right after a closing
parenthesis. -/
inductive Typed : Text → Prop
  | start : Typed []
  | press {t : Text} {c : Char} : Typed t → accepts t [c] = true →
      ¬(t.getLast? = some ')' ∧ c.isDigit = true) → Typed (t ++ [c])

/-- What can still be completed: neighbours may follow each other and no parenthesis is closed
that was not open. -/
def Text.IsOpenEnded (t : Text) : Prop :=
  chained none t = true ∧ ∃ depth, finalDepth? 0 t = some depth

theorem awaitsOperand_eq_not_endsOperand {c : Char}
    (known : c.isDigit = true ∨ (Lexeme.ofChar? c).isSome = true) :
    awaitsOperand c = !endsOperand c := by
  rcases known with digit | made
  · have notOpening : c ≠ '(' := by rintro rfl; cases digit
    have notOperator : isOperator c = false := by
      rw [Bool.eq_false_iff]
      intro operator
      have other := endsOperand_of_isOperator operator
      simp [endsOperand, digit] at other
    simp [awaitsOperand, endsOperand, digit, notOpening, notOperator]
  · obtain ⟨lexeme, made⟩ := Option.isSome_iff_exists.mp made
    rcases Lexeme.terminal_of_ofChar? made with ⟨op, glyph, _⟩ | ⟨rfl, _⟩ | ⟨rfl, _⟩
    · have operator := isOperator_of_ofGlyph? glyph
      simp [awaitsOperand, operator, endsOperand_of_isOperator operator]
    · rfl
    · rfl

theorem Operator.isBlank_of_ofGlyph? {c : Char} {op : Operator} (glyph : ofGlyph? c = some op) :
    Text.isBlank c = false := by
  unfold ofGlyph? at glyph
  split at glyph <;> first | rfl | cases glyph

theorem isBlank_of_isDigit {c : Char} (digit : c.isDigit = true) : Text.isBlank c = false := by
  obtain ⟨low, high⟩ : 48 ≤ c.toNat ∧ c.toNat ≤ 57 := Char.isDigit_iff_toNat.mp digit
  have notBelow (bound : Char) (small : bound.toNat < 48) : ¬ c ≤ bound := by
    rw [Char.le_def, UInt32.le_iff_toNat_le]
    exact Nat.not_le.mpr (Nat.lt_of_lt_of_le small low)
  have notAbove : ¬ '\x80' ≤ c := by
    rw [Char.le_def, UInt32.le_iff_toNat_le]
    exact Nat.not_le.mpr (Nat.lt_of_le_of_lt high (by decide))
  simp only [Text.isBlank, notBelow '\r' (by decide), notBelow ' ' (by decide), notAbove,
    decide_false, Bool.and_false, Bool.false_and, Bool.or_false]

theorem isBlank_of_known {c : Char}
    (known : c.isDigit = true ∨ (Lexeme.ofChar? c).isSome = true) : Text.isBlank c = false := by
  rcases known with digit | made
  · exact isBlank_of_isDigit digit
  · obtain ⟨lexeme, made⟩ := Option.isSome_iff_exists.mp made
    rcases Lexeme.terminal_of_ofChar? made with ⟨op, glyph, _⟩ | ⟨rfl, _⟩ | ⟨rfl, _⟩
    · exact Operator.isBlank_of_ofGlyph? glyph
    · rfl
    · rfl

theorem Text.withoutBlanks_of_visible {t : Text} (visible : ∀ c ∈ t, isBlank c = false) :
    t.withoutBlanks = t := by
  rw [withoutBlanks, List.filter_eq_self]
  intro c member
  rw [visible c member, Bool.not_false]

theorem visible_of_chained {t : Text} {last? : Option Char} (chain : chained last? t = true) :
    ∀ c ∈ t, Text.isBlank c = false :=
  fun c member => isBlank_of_known (known_of_chained chain c member)

/-- The tally of the parentheses is the depth. -/
theorem count_of_finalDepth? {t : Text} {depth inner : Nat}
    (balance : finalDepth? depth t = some inner) :
    inner + t.count ')' = depth + t.count '(' := by
  induction t generalizing depth with
  | nil =>
    cases balance
    rfl
  | cons c rest ih =>
    by_cases opening : c = '('
    · subst opening
      rw [finalDepth?_opening] at balance
      have tally := ih balance
      rw [List.count_cons_self, List.count_cons_of_ne (by decide)]
      omega
    · by_cases closing : c = ')'
      · subst closing
        cases depth with
        | zero => simp [finalDepth?] at balance
        | succ depth =>
          rw [finalDepth?_closing] at balance
          have tally := ih balance
          rw [List.count_cons_self, List.count_cons_of_ne (by decide)]
          omega
      · rw [finalDepth?_plain_cons depth rest opening closing] at balance
        rw [List.count_cons_of_ne closing, List.count_cons_of_ne opening]
        exact ih balance

/-- A key is accepted exactly if its character may follow the last one and closes no parenthesis
that is not open. -/
theorem press_iff {t : Text} {c : Char} {depth : Nat} (chain : chained none t = true)
    (balance : finalDepth? 0 t = some depth) :
    (accepts t [c] = true ∧ ¬(t.getLast? = some ')' ∧ c.isDigit = true)) ↔
      continues t.getLast? c = true ∧ ∃ inner, finalDepth? depth [c] = some inner := by
  have tally := count_of_finalDepth? balance
  have waiting : t.getLast?.all awaitsOperand = !t.getLast?.any endsOperand := by
    cases shown : t.getLast? with
    | none => rfl
    | some last =>
      exact awaitsOperand_eq_not_endsOperand
        (known_of_chained chain last (List.mem_of_getLast? shown))
  rw [accepts, Text.withoutBlanks_of_visible (visible_of_chained chain)]
  by_cases digit : c.isDigit = true
  · have plain : finalDepth? depth [c] = some depth :=
      finalDepth?_plain depth (plain_of_digits (by simpa using digit))
    simp [mayFollow, continues, digit, plain]
  · rw [Bool.not_eq_true] at digit
    by_cases opening : c = '('
    · subst opening
      have notOperator : isOperator '(' = false := rfl
      simp [mayFollow, continues, digit, notOperator, waiting, finalDepth?]
    · by_cases closing : c = ')'
      · subst closing
        have notOperator : isOperator ')' = false := rfl
        cases depth with
        | zero =>
          have full : ¬ t.count ')' < t.count '(' := by omega
          simp [mayFollow, digit, notOperator, full, finalDepth?]
        | succ depth =>
          have room : t.count ')' < t.count '(' := by omega
          simp [mayFollow, continues, digit, notOperator, room, finalDepth?]
      · cases operator : isOperator c <;>
          simp [mayFollow, continues, digit, operator, opening, closing, finalDepth?]

theorem isOpenEnded_append_iff {t : Text} {c : Char} :
    (t ++ [c]).IsOpenEnded ↔ t.IsOpenEnded ∧ accepts t [c] = true ∧
      ¬(t.getLast? = some ')' ∧ c.isDigit = true) := by
  have appended : (t ++ [c]).IsOpenEnded ↔ (chained none t = true ∧ continues t.getLast? c = true) ∧
      ∃ depth, finalDepth? 0 t = some depth ∧ ∃ inner, finalDepth? depth [c] = some inner := by
    rw [Text.IsOpenEnded, chained_append, Option.or_none, finalDepth?_append]
    simp only [chained, Bool.and_true, Bool.and_eq_true, Option.bind_eq_some_iff]
    constructor
    · rintro ⟨chain, inner, depth, balance, next⟩
      exact ⟨chain, depth, balance, inner, next⟩
    · rintro ⟨chain, depth, balance, inner, next⟩
      exact ⟨chain, inner, depth, balance, next⟩
  rw [appended]
  constructor
  · rintro ⟨⟨chain, follows⟩, depth, balance, next⟩
    exact ⟨⟨chain, depth, balance⟩, (press_iff chain balance).mpr ⟨follows, next⟩⟩
  · rintro ⟨⟨chain, depth, balance⟩, pressed⟩
    obtain ⟨follows, next⟩ := (press_iff chain balance).mp pressed
    exact ⟨⟨chain, follows⟩, depth, balance, next⟩

/-- Pressing keys keeps a text open-ended, and every text that is so can be typed. -/
theorem typed_iff_isOpenEnded {t : Text} : Typed t ↔ t.IsOpenEnded := by
  constructor
  · intro typed
    induction typed with
    | start => exact ⟨rfl, 0, rfl⟩
    | press _ accepted apart ih => exact isOpenEnded_append_iff.mpr ⟨ih, accepted, apart⟩
  · induction t using List.reverseRecOn with
    | nil => exact fun _ => .start
    | append_singleton t c ih =>
      intro openEnded
      obtain ⟨before, accepted, apart⟩ := isOpenEnded_append_iff.mp openEnded
      exact .press (ih before) accepted apart

theorem chained_closing (depth : Nat) {last? : Option Char}
    (ended : last?.any endsOperand = true) :
    chained last? (List.replicate depth ')') = true := by
  induction depth generalizing last? with
  | zero => rfl
  | succ depth ih =>
    have follows : continues last? ')' = last?.any endsOperand := by
      simp [continues]
    rw [List.replicate_succ, chained, follows, ended, ih rfl]
    rfl

theorem finalDepth?_replicate (depth : Nat) :
    finalDepth? depth (List.replicate depth ')') = some 0 := by
  induction depth with
  | zero => rfl
  | succ depth ih => rw [List.replicate_succ, finalDepth?_closing, ih]

/-- A text that ends with an operand is completed by closing its parentheses. -/
theorem derivable_closed {t : Text} {depth : Nat} (chain : chained none t = true)
    (balance : finalDepth? 0 t = some depth) (ended : t.getLast?.any endsOperand = true) :
    (∀ c ∈ t ++ List.replicate depth ')', Text.isBlank c = false) ∧
      Text.IsDerivable (t ++ List.replicate depth ')') := by
  have closed : chained none (t ++ List.replicate depth ')') = true := by
    rw [chained_append, chain, Option.or_none, chained_closing depth ended]
    rfl
  have visible := visible_of_chained closed
  refine ⟨visible, ?_⟩
  rw [Text.isDerivable_iff, Text.withoutBlanks_of_visible visible, finalDepth?_append, balance]
  refine ⟨closed, finalDepth?_replicate depth, ?_⟩
  cases depth with
  | zero => simpa using ended
  | succ depth => simp [List.getLast?_append, List.getLast?_replicate, endsOperand]

theorem Text.IsOpenEnded.exists_completion {t : Text} (openEnded : t.IsOpenEnded) :
    ∃ rest, (∀ c ∈ t ++ rest, Text.isBlank c = false) ∧ Text.IsDerivable (t ++ rest) := by
  obtain ⟨chain, depth, balance⟩ := openEnded
  by_cases ended : t.getLast?.any endsOperand = true
  · exact ⟨_, derivable_closed chain balance ended⟩
  -- An operand is missing, and any number will do.
  · have unclosed : t.getLast? ≠ some ')' := by
      intro shown
      rw [shown] at ended
      exact ended rfl
    have follows : continues t.getLast? '1' = true := by
      simpa [continues] using unclosed
    have supplied : chained none (t ++ ['1']) = true := by
      rw [chained_append, chain, Option.or_none, chained, follows]
      rfl
    have level : finalDepth? 0 (t ++ ['1']) = some depth := by
      rw [finalDepth?_append, balance]
      rfl
    refine ⟨'1' :: List.replicate depth ')', ?_⟩
    rw [← List.singleton_append, ← List.append_assoc]
    exact derivable_closed supplied level (by simp [endsOperand])

theorem isOpenEnded_of_derivable {t rest : Text}
    (visible : ∀ c ∈ t ++ rest, Text.isBlank c = false)
    (derivable : Text.IsDerivable (t ++ rest)) : t.IsOpenEnded := by
  rw [Text.isDerivable_iff, Text.withoutBlanks_of_visible visible, chained_append,
    finalDepth?_append, Bool.and_eq_true, Option.bind_eq_some_iff] at derivable
  obtain ⟨⟨chain, _⟩, ⟨depth, level, _⟩, _⟩ := derivable
  exact ⟨chain, depth, level⟩

/-- A text can be typed exactly if it is the start of a text without blanks that the grammar
derives. -/
theorem typed_iff_start_of_derivable (t : Text) :
    Typed t ↔ ∃ whole : Text, t <+: whole ∧ (∀ c ∈ whole, Text.isBlank c = false) ∧
      whole.IsDerivable := by
  rw [typed_iff_isOpenEnded]
  constructor
  · intro openEnded
    obtain ⟨rest, visible, derivable⟩ := openEnded.exists_completion
    exact ⟨t ++ rest, List.prefix_append t rest, visible, derivable⟩
  · rintro ⟨_, ⟨rest, rfl⟩, visible, derivable⟩
    exact isOpenEnded_of_derivable visible derivable

end Reckoner
