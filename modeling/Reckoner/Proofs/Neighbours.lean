import Reckoner.Keystroke
import Reckoner.Proofs.Cut
import Reckoner.Proofs.FlatScan
import Reckoner.Validation

namespace Reckoner

theorem isOperator_of_ofGlyph? {c : Char} {op : Operator} (glyph : Operator.ofGlyph? c = some op) :
    isOperator c = true := by
  rw [isOperator, glyph]
  rfl

theorem isDigit_of_isOperator {c : Char} (operator : isOperator c = true) : c.isDigit = false := by
  obtain ⟨op, glyph⟩ := Option.isSome_iff_exists.mp operator
  exact Operator.isDigit_of_ofGlyph? glyph

theorem isOperator_of_isDigit {c : Char} (digit : c.isDigit = true) : isOperator c = false := by
  rw [Bool.eq_false_iff]
  intro operator
  rw [isDigit_of_isOperator operator] at digit
  cases digit

theorem endsOperand_of_isOperator {c : Char} (operator : isOperator c = true) :
    endsOperand c = false := by
  obtain ⟨op, glyph⟩ := Option.isSome_iff_exists.mp operator
  have notClosing := (Operator.ne_parenthesis_of_ofGlyph? glyph).2
  simp [endsOperand, Operator.isDigit_of_ofGlyph? glyph, notClosing]

/-- Whether a character may follow another, or go first, in what the grammar derives. -/
def continues (last? : Option Char) (c : Char) : Bool :=
  if c.isDigit then last? != some ')'
  else if c = '(' then !last?.any endsOperand
  else last?.any endsOperand && (isOperator c || c == ')')

/-- Whether each character of a text may follow the one before it. -/
def chained (last? : Option Char) : Text → Bool
  | [] => true
  | c :: rest => continues last? c && chained (some c) rest

theorem getLast?_cons_or (c : Char) (rest : Text) (last? : Option Char) :
    (c :: rest).getLast?.or last? = rest.getLast?.or (some c) := by
  rw [List.getLast?_cons]
  cases rest.getLast? <;> rfl

theorem chained_append (last? : Option Char) (front back : Text) :
    chained last? (front ++ back) =
      (chained last? front && chained (front.getLast?.or last?) back) := by
  induction front generalizing last? with
  | nil => simp [chained]
  | cons c rest ih =>
    simp only [List.cons_append, chained, ih, Bool.and_assoc, getLast?_cons_or]

theorem neighbours_cons_cons (first next : Char) (rest : Text) :
    neighbours (first :: next :: rest) = (first, next) :: neighbours (next :: rest) :=
  rfl

/-- A text can be cut at a character that both parts keep. -/
theorem neighbours_append_cons (front : Text) (c : Char) (back : Text) :
    neighbours (front ++ c :: back) = neighbours (front ++ [c]) ++ neighbours (c :: back) := by
  induction front with
  | nil => rfl
  | cons first rest ih =>
    cases rest with
    | nil => rfl
    | cons next rest =>
      simp only [List.cons_append, neighbours_cons_cons] at ih ⊢
      rw [ih]

theorem mem_neighbours_cons {t : Text} {c first second : Char} :
    (first, second) ∈ neighbours (c :: t) ↔
      (first = c ∧ t.head? = some second) ∨ (first, second) ∈ neighbours t := by
  cases t with
  | nil => simp [neighbours]
  | cons next rest => simp [neighbours_cons_cons, eq_comm]

/-- Neighbours stand in the text one directly behind the other. -/
theorem mem_neighbours_iff {t : Text} {a b : Char} :
    (a, b) ∈ neighbours t ↔ ∃ front back, t = front ++ a :: b :: back := by
  constructor
  · intro member
    induction t with
    | nil => simp [neighbours] at member
    | cons c rest ih =>
      cases rest with
      | nil => simp [neighbours] at member
      | cons next rest =>
        rw [neighbours_cons_cons] at member
        rcases List.mem_cons.mp member with same | later
        · cases same
          exact ⟨[], rest, rfl⟩
        · obtain ⟨front, back, shape⟩ := ih later
          exact ⟨c :: front, back, by rw [shape, List.cons_append]⟩
  · rintro ⟨front, back, rfl⟩
    rw [neighbours_append_cons, neighbours_cons_cons]
    exact List.mem_append_right _ (List.mem_cons_self ..)

theorem mem_neighbours_of_within {inner t : Text} (within : inner <:+: t) {pair : Char × Char}
    (member : pair ∈ neighbours inner) : pair ∈ neighbours t := by
  obtain ⟨left, right, rfl⟩ := within
  obtain ⟨front, back, rfl⟩ := mem_neighbours_iff.mp member
  exact mem_neighbours_iff.mpr ⟨left ++ front, back ++ right, by simp⟩

theorem neighbours_append_singleton (t : Text) (c : Char) :
    neighbours (t ++ [c]) = neighbours t ++ (t.getLast?.map fun last => (last, c)).toList := by
  induction t with
  | nil => rfl
  | cons first rest ih =>
    cases rest with
    | nil => rfl
    | cons next rest =>
      rw [List.cons_append, List.cons_append, neighbours_cons_cons, ← List.cons_append, ih,
        neighbours_cons_cons, List.getLast?_cons_cons, List.cons_append]

theorem mem_neighbours_append_singleton {t : Text} {a b c : Char} :
    (a, b) ∈ neighbours (t ++ [c]) ↔ (a, b) ∈ neighbours t ∨ t.getLast? = some a ∧ c = b := by
  rw [neighbours_append_singleton, List.mem_append]
  simp

/-- Texts are chained by their neighbours. -/
theorem chained_of_neighbours {t : Text} {last? : Option Char}
    (first : ∀ c ∈ t.head?, continues last? c = true)
    (each : ∀ a b, (a, b) ∈ neighbours t → continues (some a) b = true) :
    chained last? t = true := by
  induction t generalizing last? with
  | nil => rfl
  | cons c rest ih =>
    have next : ∀ b ∈ rest.head?, continues (some c) b = true := by
      intro b shown
      cases rest with
      | nil => cases shown
      | cons next rest =>
        cases shown
        exact each c b (List.mem_cons_self ..)
    have later : ∀ a b, (a, b) ∈ neighbours rest → continues (some a) b = true := by
      intro a b member
      cases rest with
      | nil => simp [neighbours] at member
      | cons other rest => exact each a b (List.mem_cons_of_mem _ member)
    rw [chained, first c rfl, ih next later]
    rfl

theorem finalDepth?_opening (depth : Nat) (rest : Text) :
    finalDepth? depth ('(' :: rest) = finalDepth? (depth + 1) rest := by
  simp [finalDepth?]

theorem finalDepth?_closing (depth : Nat) (rest : Text) :
    finalDepth? (depth + 1) (')' :: rest) = finalDepth? depth rest := by
  simp [finalDepth?]

theorem finalDepth?_plain_cons {c : Char} (depth : Nat) (rest : Text) (notOpening : c ≠ '(')
    (notClosing : c ≠ ')') : finalDepth? depth (c :: rest) = finalDepth? depth rest := by
  simp [finalDepth?, notOpening, notClosing]

theorem finalDepth?_append (depth : Nat) (front back : Text) :
    finalDepth? depth (front ++ back) =
      (finalDepth? depth front).bind fun inner => finalDepth? inner back := by
  induction front generalizing depth with
  | nil => rfl
  | cons c rest ih =>
    simp only [List.cons_append, finalDepth?]
    split
    · exact ih (depth + 1)
    · split
      · cases depth with
        | zero => rfl
        | succ depth => exact ih depth
      · exact ih depth

/-- More parentheses may be open around a text. -/
theorem finalDepth?_add {depth inner : Nat} {t : Text} (more : Nat)
    (balance : finalDepth? depth t = some inner) :
    finalDepth? (depth + more) t = some (inner + more) := by
  induction t generalizing depth with
  | nil =>
    cases balance
    rfl
  | cons c rest ih =>
    by_cases opening : c = '('
    · subst opening
      rw [finalDepth?_opening] at balance ⊢
      rw [Nat.add_right_comm]
      exact ih balance
    · by_cases closing : c = ')'
      · subst closing
        cases depth with
        | zero => simp [finalDepth?] at balance
        | succ depth =>
          rw [finalDepth?_closing] at balance
          rw [Nat.add_right_comm, finalDepth?_closing]
          exact ih balance
      · rw [finalDepth?_plain_cons _ rest opening closing] at balance ⊢
        exact ih balance

/-- Characters that are no parentheses leave the depth alone. -/
theorem finalDepth?_plain {t : Text} (depth : Nat) (plain : ∀ c ∈ t, c ≠ '(' ∧ c ≠ ')') :
    finalDepth? depth t = some depth := by
  induction t with
  | nil => rfl
  | cons c rest ih =>
    obtain ⟨notOpening, notClosing⟩ := plain c (List.mem_cons_self ..)
    rw [finalDepth?_plain_cons depth rest notOpening notClosing]
    exact ih fun other member => plain other (List.mem_cons_of_mem _ member)

theorem plain_of_digits {digits : Text} (all : ∀ c ∈ digits, c.isDigit = true) :
    ∀ c ∈ digits, c ≠ '(' ∧ c ≠ ')' := by
  intro c member
  have digit := all c member
  constructor <;> (rintro rfl; exact absurd digit (by decide))

theorem chained_digits {digits : Text} {last? : Option Char}
    (all : ∀ c ∈ digits, c.isDigit = true) (unclosed : last? ≠ some ')') :
    chained last? digits = true := by
  induction digits generalizing last? with
  | nil => rfl
  | cons c rest ih =>
    have digit := all c (List.mem_cons_self ..)
    have next : some c ≠ some ')' := by
      rw [ne_eq, Option.some.injEq]
      exact (plain_of_digits all c (List.mem_cons_self ..)).2
    rw [chained, ih (fun other member => all other (List.mem_cons_of_mem _ member)) next, continues,
      if_pos digit, Bool.and_true, bne_iff_ne]
    exact unclosed

/-- Whatever is chained consists of digits, operators and parentheses. -/
theorem known_of_chained {t : Text} {last? : Option Char} (chain : chained last? t = true) :
    ∀ c ∈ t, c.isDigit = true ∨ (Lexeme.ofChar? c).isSome = true := by
  induction t generalizing last? with
  | nil => simp
  | cons first rest ih =>
    rw [chained, Bool.and_eq_true] at chain
    intro c member
    rcases List.mem_cons.mp member with rfl | member
    · have follows := chain.1
      unfold continues at follows
      split at follows
      · exact Or.inl ‹_›
      · refine Or.inr ?_
        split at follows
        · subst c
          rfl
        · simp only [Bool.and_eq_true, Bool.or_eq_true, beq_iff_eq] at follows
          rcases follows.2 with operator | rfl
          · obtain ⟨op, glyph⟩ := Option.isSome_iff_exists.mp operator
            simp [Lexeme.ofChar?, glyph]
          · rfl
    · exact ih chain.2 c member

/-- The state of the scan after a character, which tells whether an operand has been read. -/
def Flat.State.after (last? : Option Char) (depth : Nat) : Flat.State :=
  if last?.any endsOperand then .holding depth else .expecting depth

/-- What the scan of the tokens comes to, said of the characters. -/
def scanned? (last? : Option Char) (depth : Nat) (t : Text) : Option Flat.State :=
  if chained last? t then (finalDepth? depth t).map (Flat.State.after (t.getLast?.or last?))
  else none

theorem scanned?_operator {c : Char} {op : Operator} {rest : Text} {last? : Option Char}
    {depth : Nat} (glyph : Operator.ofGlyph? c = some op) :
    scanned? last? depth (c :: rest) =
      if last?.any endsOperand then scanned? (some c) depth rest else none := by
  obtain ⟨notOpening, notClosing⟩ := Operator.ne_parenthesis_of_ofGlyph? glyph
  have follows : continues last? c = last?.any endsOperand := by
    simp [continues, Operator.isDigit_of_ofGlyph? glyph, notOpening, isOperator, glyph]
  rw [scanned?, scanned?, chained, follows, finalDepth?_plain_cons depth rest notOpening notClosing,
    getLast?_cons_or]
  cases last?.any endsOperand <;> rfl

theorem scanned?_opening {rest : Text} {last? : Option Char} {depth : Nat} :
    scanned? last? depth ('(' :: rest) =
      if last?.any endsOperand then none else scanned? (some '(') (depth + 1) rest := by
  have follows : continues last? '(' = !last?.any endsOperand := rfl
  rw [scanned?, scanned?, chained, follows, finalDepth?_opening, getLast?_cons_or]
  cases last?.any endsOperand <;> rfl

theorem scanned?_stray {rest : Text} {last? : Option Char} :
    scanned? last? 0 (')' :: rest) = none := by
  simp [scanned?, finalDepth?]

theorem scanned?_closing {rest : Text} {last? : Option Char} {depth : Nat} :
    scanned? last? (depth + 1) (')' :: rest) =
      if last?.any endsOperand then scanned? (some ')') depth rest else none := by
  have follows : continues last? ')' = last?.any endsOperand := by
    simp [continues]
  simp only [scanned?, chained, follows, finalDepth?_closing, getLast?_cons_or]
  cases last?.any endsOperand <;> simp

theorem scanned?_digits {digits rest : Text} {last? : Option Char} {depth : Nat}
    (filled : digits ≠ []) (all : ∀ c ∈ digits, c.isDigit = true) :
    scanned? last? depth (digits ++ rest) =
      if last? = some ')' then none else scanned? digits.getLast? depth rest := by
  obtain ⟨last, shown⟩ : ∃ last, digits.getLast? = some last :=
    ⟨_, List.getLast?_eq_some_getLast filled⟩
  by_cases closed : last? = some ')'
  · obtain ⟨c, more, rfl⟩ := List.exists_cons_of_ne_nil filled
    have digit := all c (List.mem_cons_self ..)
    simp [scanned?, chained, continues, digit, closed]
  · rw [if_neg closed, scanned?, scanned?, chained_append, finalDepth?_append,
      finalDepth?_plain depth (plain_of_digits all), chained_digits all closed, shown,
      List.getLast?_append, shown]
    cases rest.getLast? <;> simp

theorem after_number {digits : Text} (depth : Nat) (filled : digits ≠ [])
    (all : ∀ c ∈ digits, c.isDigit = true) :
    Flat.State.after digits.getLast? depth = .holding depth := by
  obtain ⟨last, shown⟩ : ∃ last, digits.getLast? = some last :=
    ⟨_, List.getLast?_eq_some_getLast filled⟩
  have digit := all last (List.mem_of_getLast? shown)
  simp [Flat.State.after, shown, endsOperand, digit]

/-- A number is expected after anything but an operand. -/
theorem any_endsOperand_of_apart {digits rest : Text} {last? : Option Char} (filled : digits ≠ [])
    (all : ∀ c ∈ digits, c.isDigit = true) (unclosed : last? ≠ some ')')
    (apart : ∀ c ∈ last?, c.isDigit = true → Token.NoDigitFirst (digits ++ rest)) :
    last?.any endsOperand = false := by
  cases last? with
  | none => rfl
  | some last =>
    have noDigit : last.isDigit = false := by
      rw [Bool.eq_false_iff]
      intro digit
      obtain ⟨c, more, rfl⟩ := List.exists_cons_of_ne_nil filled
      have first := apart last rfl digit c rfl
      rw [all c (List.mem_cons_self ..)] at first
      cases first
    simpa [endsOperand, noDigit] using unclosed

/-- The scan of the tokens depends on neighbouring characters and the balance only. -/
theorem Token.Cut.readAll?_eq {pos : Nat} {t : Text} {tokens : List Token}
    (cut : Token.Cut pos t tokens) (last? : Option Char) (depth : Nat)
    (apart : ∀ c ∈ last?, c.isDigit = true → Token.NoDigitFirst t) :
    Flat.readAll? (.after last? depth) tokens = scanned? last? depth t := by
  induction cut generalizing last? depth with
  | done => simp [Flat.readAll?, scanned?, chained, finalDepth?]
  | @symbol pos c lexeme rest tokens made _ ih =>
    have later (depth : Nat) :
        Flat.readAll? (.after (some c) depth) tokens = scanned? (some c) depth rest := by
      refine ih (some c) depth fun other same digit => ?_
      cases same
      rw [Lexeme.isDigit_of_ofChar? made] at digit
      cases digit
    rcases Lexeme.terminal_of_ofChar? made with ⟨op, glyph, terminal⟩ | ⟨rfl, terminal⟩ |
      ⟨rfl, terminal⟩
    · have operator := isOperator_of_ofGlyph? glyph
      have waiting : Flat.State.after (some c) depth = .expecting depth := by
        simp [Flat.State.after, endsOperand_of_isOperator operator]
      rw [scanned?_operator glyph, ← later depth, waiting]
      cases ended : last?.any endsOperand <;>
        simp [Flat.State.after, ended, Flat.readAll?, Flat.step, Token.terminal, terminal]
    · have waiting : Flat.State.after (some '(') (depth + 1) = .expecting (depth + 1) := rfl
      rw [scanned?_opening, ← later (depth + 1), waiting]
      cases ended : last?.any endsOperand <;> cases depth <;>
        simp [Flat.State.after, ended, Flat.readAll?, Flat.step, Token.terminal, terminal]
    · cases depth with
      | zero =>
        rw [scanned?_stray]
        cases ended : last?.any endsOperand <;>
          simp [Flat.State.after, ended, Flat.readAll?, Flat.step, Token.terminal, terminal]
      | succ depth =>
        have held : Flat.State.after (some ')') depth = .holding depth := rfl
        rw [scanned?_closing, ← later depth, held]
        cases ended : last?.any endsOperand <;>
          simp [Flat.State.after, ended, Flat.readAll?, Flat.step, Token.terminal, terminal]
  | @number pos digits rest tokens filled all ends _ ih =>
    rw [scanned?_digits filled all]
    by_cases closed : last? = some ')'
    · subst closed
      cases depth <;>
        simp [Flat.State.after, endsOperand, Flat.readAll?, Flat.step, Token.terminal,
          Lexeme.terminal]
    · rw [if_neg closed, ← ih digits.getLast? depth fun _ _ _ => ends,
        after_number depth filled all]
      have waiting := any_endsOperand_of_apart filled all closed apart
      simp [Flat.State.after, waiting, Flat.readAll?, Flat.step, Token.terminal, Lexeme.terminal]

/-- The grammar derives the tokens of the text in front of their end mark. -/
def Text.IsDerivable (t : Text) : Prop :=
  ∃ tokens stop formula, Token.ofText t = .ok (tokens ++ [stop]) ∧ stop.terminal = .stop ∧
    Evaluation.Derives .expression tokens formula

theorem scanned?_eq_some_iff {t : Text} {last? : Option Char} {depth inner : Nat} :
    scanned? last? depth t = some (.holding inner) ↔
      chained last? t = true ∧ finalDepth? depth t = some inner ∧
        (t.getLast?.or last?).any endsOperand = true := by
  unfold scanned?
  cases chained last? t with
  | false => simp
  | true =>
    cases finalDepth? depth t with
    | none => simp
    | some other =>
      cases ended : (t.getLast?.or last?).any endsOperand <;> simp [Flat.State.after, ended]

/-- A text without blanks is derived if its neighbouring characters may follow each other, it ends
with an operand and its parentheses are balanced. -/
theorem Text.isDerivable_iff {t : Text} :
    t.IsDerivable ↔ chained none t.withoutBlanks = true ∧
      finalDepth? 0 t.withoutBlanks = some 0 ∧ t.withoutBlanks.getLast?.any endsOperand = true := by
  have local_iff : scanned? none 0 t.withoutBlanks = some (.holding 0) ↔ _ :=
    scanned?_eq_some_iff
  rw [Option.or_none] at local_iff
  rw [← local_iff]
  constructor
  · rintro ⟨tokens, stop, formula, made, _, derived⟩
    obtain ⟨others, cut, same⟩ := Token.ofText_eq_ok_iff.mp made
    obtain ⟨rfl, _⟩ := List.append_inj' same rfl
    rw [← cut.readAll?_eq none 0 (by simp)]
    exact Flat.readAll?_of_derives derived 0
  · intro scanned
    obtain ⟨tokens, cut⟩ := Token.exists_cut 0 (known_of_chained (local_iff.mp scanned).1)
    rw [← cut.readAll?_eq none 0 (by simp)] at scanned
    obtain ⟨formula, derived⟩ := Flat.derives_iff_readAll?.mpr scanned
    exact ⟨tokens, _, formula, Token.ofText_eq_ok_iff.mpr ⟨tokens, cut, rfl⟩, rfl, derived⟩

end Reckoner
