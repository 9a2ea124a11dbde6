import Reckoner.Proofs.Canonical
import Reckoner.Proofs.KeyedText

namespace Reckoner

variable {stack : Stack}

/-- An operand is missing between these two. -/
def lacksOperand (a b : Char) : Bool :=
  a == '(' && isOperator b || isOperator a && b == ')'

/-- An operator is missing between these two. -/
def lacksOperator (a b : Char) : Bool :=
  a.isDigit && b == '(' || a == ')' && b == '(' || a == ')' && b.isDigit

def clashes (a b : Char) : Bool :=
  lacksOperand a b || lacksOperator a b

theorem lacksOperator_iff {a b : Char} :
    lacksOperator a b = true ↔
      endsOperand a = true ∧ (b = '(' ∨ b.isDigit = true ∧ a.isDigit = false) := by
  have notBoth (closing : a = ')') : a.isDigit = false := by
    rw [closing]
    rfl
  simp only [lacksOperator, endsOperand, Bool.or_eq_true, Bool.and_eq_true, beq_iff_eq,
    decide_eq_true_eq]
  constructor
  · rintro ((⟨digit, opening⟩ | ⟨closing, opening⟩) | ⟨closing, digit⟩)
    · exact ⟨Or.inl digit, Or.inl opening⟩
    · exact ⟨Or.inr closing, Or.inl opening⟩
    · exact ⟨Or.inr closing, Or.inr ⟨digit, notBoth closing⟩⟩
  · rintro ⟨digit | closing, opening | ⟨next, notDigit⟩⟩
    · exact Or.inl (Or.inl ⟨digit, opening⟩)
    · cases digit.symm.trans notDigit
    · exact Or.inl (Or.inr ⟨closing, opening⟩)
    · exact Or.inr ⟨closing, next⟩

theorem lacksOperand_iff {a b : Char} :
    lacksOperand a b = true ↔ a = '(' ∧ isOperator b = true ∨ isOperator a = true ∧ b = ')' := by
  simp only [lacksOperand, Bool.or_eq_true, Bool.and_eq_true, beq_iff_eq]

theorem endsOperand_of_lacksOperand {a b : Char} (lacks : lacksOperand a b = true) :
    endsOperand a = false := by
  rcases lacksOperand_iff.mp lacks with ⟨rfl, _⟩ | ⟨operator, _⟩
  · rfl
  · exact endsOperand_of_isOperator operator

/-- What a clash is reported as, where `before` ends with the first of the two. Only where a
parenthesis is open is its closing missed. -/
def clashKind (before : Text) (a b : Char) : ErrorKind :=
  if lacksOperator a b && decide (before.count ')' < before.count '(') then .unmatchedParenthesis
  else .malformedExpression

def Text.ClashFree (t : Text) : Prop :=
  ∀ pair ∈ neighbours t, clashes pair.1 pair.2 = false

instance (t : Text) : Decidable t.ClashFree :=
  inferInstanceAs (Decidable (∀ pair ∈ neighbours t, clashes pair.1 pair.2 = false))

/-- The text clashes between `front ++ [a]` and `b`, and nowhere before. -/
structure Text.FirstClash (t front : Text) (a b : Char) : Prop where
  found : front ++ [a, b] <+: t
  clash : clashes a b = true
  free : Text.ClashFree (front ++ [a])

theorem Text.FirstClash.not_clashFree {t front : Text} {a b : Char}
    (first : t.FirstClash front a b) : ¬ t.ClashFree := by
  intro free
  have member : (a, b) ∈ neighbours (front ++ [a, b]) := by
    rw [neighbours_append_cons]
    exact List.mem_append_right _ (List.mem_cons_self ..)
  cases (free _ (mem_neighbours_of_within first.found.isInfix member)).symm.trans first.clash

theorem Text.clashFree_cons {c : Char} {rest : Text} :
    ClashFree (c :: rest) ↔ (∀ next ∈ rest.head?, clashes c next = false) ∧ rest.ClashFree := by
  cases rest with
  | nil => simp [ClashFree, neighbours]
  | cons next rest =>
    simp only [ClashFree, neighbours_cons_cons, List.forall_mem_cons, List.head?_cons,
      Option.mem_some_iff, forall_eq']

theorem Text.exists_firstClash (t : Text) :
    t.ClashFree ∨ ∃ front a b, t.FirstClash front a b := by
  induction t with
  | nil => exact Or.inl (by simp [ClashFree, neighbours])
  | cons c rest ih =>
    cases rest with
    | nil => exact Or.inl (by simp [ClashFree, neighbours])
    | cons next rest =>
      by_cases here : clashes c next = true
      · have alone : ClashFree [c] := by simp [ClashFree, neighbours]
        exact Or.inr ⟨[], c, next, ⟨rest, rfl⟩, here, alone⟩
      · have apart : clashes c next = false := Bool.eq_false_iff.mpr here
        rcases ih with free | ⟨front, a, b, ⟨more, shape⟩, clash, free⟩
        · exact Or.inl (clashFree_cons.mpr ⟨by simpa using apart, free⟩)
        · refine Or.inr ⟨c :: front, a, b, ⟨more, congrArg (c :: ·) shape⟩, clash, ?_⟩
          have first : (front ++ [a]).head? = some next := by
            cases front <;> cases shape <;> rfl
          exact clashFree_cons.mpr ⟨by simpa [first] using apart, free⟩

theorem key_cases {c : Char} (key : isKey c = true) :
    endsOperand c = true ∨ isOperator c = true ∨ c = '(' := by
  simp only [isKey, Bool.or_eq_true, beq_iff_eq] at key
  rcases key with ((digit | operator) | rfl) | rfl
  · exact Or.inl (by simp [endsOperand, digit])
  · exact Or.inr (Or.inl operator)
  · exact Or.inr (Or.inr rfl)
  · exact Or.inl rfl

/-- Neighbours that are in order and do not clash may follow each other. -/
theorem continues_of_apart {a b : Char} (keyA : isKey a = true) (keyB : isKey b = true)
    (apart : ¬(isOperator a = true ∧ isOperator b = true)) (full : ¬(a = '(' ∧ b = ')'))
    (free : clashes a b = false) : continues (some a) b = true := by
  obtain ⟨noOperand, noOperator⟩ :
      ¬ lacksOperand a b = true ∧ ¬ lacksOperator a b = true := by
    simpa [clashes] using free
  rw [lacksOperand_iff] at noOperand
  rw [lacksOperator_iff] at noOperator
  by_cases digit : b.isDigit = true
  · have unclosed : a ≠ ')' := by
      rintro rfl
      exact noOperator ⟨rfl, Or.inr ⟨digit, rfl⟩⟩
    simpa [continues, digit] using unclosed
  by_cases opening : b = '('
  · have waiting : endsOperand a = false := by
      rw [Bool.eq_false_iff]
      intro ended
      exact noOperator ⟨ended, Or.inl opening⟩
    simp [continues, opening, waiting]
  have second : isOperator b = true ∨ b = ')' := by
    simpa [isKey, digit, opening] using keyB
  have ended : endsOperand a = true := by
    rcases key_cases keyA with ended | sign | rfl
    · exact ended
    · rcases second with operator | closing
      · exact absurd ⟨sign, operator⟩ apart
      · exact absurd (Or.inr ⟨sign, closing⟩) noOperand
    · rcases second with operator | closing
      · exact absurd (Or.inl ⟨rfl, operator⟩) noOperand
      · exact absurd ⟨rfl, closing⟩ full
  simpa [continues, digit, opening, ended] using second

/-- The first character of a text whose structure is in order. -/
theorem Text.IsFlawless.continues_head {t : Text} {c : Char} (flawless : t.IsFlawless)
    (shown : t.head? = some c) (key : isKey c = true) : continues none c = true := by
  obtain ⟨rest, rfl⟩ := List.head?_eq_some_iff.mp shown
  have notOperator : isOperator c = false := flawless.noLeadingOperator
  have notClosing : c ≠ ')' := by
    rintro rfl
    cases flawless.balanced
  simp only [isKey, notOperator, Bool.or_false, Bool.or_eq_true, beq_iff_eq] at key
  rcases key with (digit | rfl) | closing
  · simp [continues, digit]
  · rfl
  · exact absurd closing notClosing

/-- Up to the first clash the grammar can go on. -/
theorem Text.IsFlawless.chained_of_start {t start : Text} (flawless : t.IsFlawless)
    (keys : ∀ c ∈ t, isKey c = true) (initial : start <+: t) (free : start.ClashFree) :
    chained none start = true := by
  refine chained_of_neighbours ?_ ?_
  · intro c shown
    have first : t.head? = some c := by
      obtain ⟨rest, rfl⟩ := initial
      obtain ⟨more, rfl⟩ := List.head?_eq_some_iff.mp shown
      rfl
    exact flawless.continues_head first (keys c (List.mem_of_mem_head? first))
  · intro a b member
    have inside := mem_neighbours_of_within initial.isInfix member
    have full : ¬(a = '(' ∧ b = ')') := by
      rintro ⟨rfl, rfl⟩
      exact flawless.noEmptyParentheses inside
    obtain ⟨memberA, memberB⟩ := List.of_mem_zip inside
    exact continues_of_apart (keys a memberA) (keys b (List.mem_of_mem_tail memberB))
      (flawless.noOperators a b inside) full (free (a, b) member)

theorem Text.IsFlawless.ends {t : Text} (flawless : t.IsFlawless)
    (keys : ∀ c ∈ t, isKey c = true) : t.getLast?.any endsOperand = true := by
  obtain ⟨front, last, rfl⟩ := List.eq_nil_or_concat t |>.resolve_left flawless.filled
  rw [List.concat_eq_append] at flawless keys ⊢
  have notOperator : isOperator last = false := by simpa using flawless.noTrailingOperator
  have notOpening : last ≠ '(' := by
    rintro rfl
    have balance := flawless.balanced
    rw [finalDepth?_append, Option.bind_eq_some_iff] at balance
    obtain ⟨depth, _, level⟩ := balance
    cases level
  have ended : endsOperand last = true := by
    rcases key_cases (keys last (by simp)) with ended | operator | opening
    · exact ended
    · cases operator.symm.trans notOperator
    · exact absurd opening notOpening
  simpa using ended

/-- Without clashes the grammar derives all that validation lets pass. -/
theorem isDerivable_of_clashFree {t : Text} (flawless : t.withoutBlanks.IsFlawless)
    (keys : ∀ c ∈ t.withoutBlanks, isKey c = true) (free : t.withoutBlanks.ClashFree) :
    t.IsDerivable := by
  have chain := flawless.chained_of_start keys List.prefix_rfl free
  exact Text.isDerivable_iff.mpr ⟨chain, flawless.balanced, flawless.ends keys⟩

/-- No run of digits is torn apart by a clash. -/
theorem isDigit_of_clashes {a b : Char} (clash : clashes a b = true) (digit : a.isDigit = true) :
    b.isDigit = false := by
  have ended : endsOperand a = true := by simp [endsOperand, digit]
  rw [clashes, Bool.or_eq_true] at clash
  rcases clash with operand | operator
  · cases ended.symm.trans (endsOperand_of_lacksOperand operand)
  · rcases (lacksOperator_iff.mp operator).2 with rfl | ⟨_, other⟩
    · rfl
    · cases digit.symm.trans other

/-- Whether a parenthesis is open behind a text. -/
theorem count_lt_iff {before : Text} {depth : Nat} (level : finalDepth? 0 before = some depth) :
    before.count ')' < before.count '(' ↔ 0 < depth := by
  have tally := count_of_finalDepth? level
  omega

theorem Token.BeginsWith.refuses {token : Token} {a b : Char} (begins : token.BeginsWith b)
    (lacks : lacksOperand a b = true) :
    (∃ op, token.terminal = .operator op) ∨ token.terminal = .closing := by
  have second : isOperator b = true ∨ b = ')' := by
    rcases lacksOperand_iff.mp lacks with ⟨_, operator⟩ | ⟨_, closing⟩
    · exact Or.inl operator
    · exact Or.inr closing
  rcases begins with ⟨digit, _⟩ | made
  · rcases second with operator | rfl
    · cases digit.symm.trans (isDigit_of_isOperator operator)
    · cases digit
  · rcases Lexeme.terminal_of_ofChar? made with ⟨op, _, terminal⟩ | ⟨rfl, _⟩ | ⟨_, terminal⟩
    · exact Or.inl ⟨op, terminal⟩
    · rcases second with operator | closing
      · cases operator
      · cases closing
    · exact Or.inr terminal

theorem Token.BeginsWith.supplies {token : Token} {a b : Char} (begins : token.BeginsWith b)
    (lacks : lacksOperator a b = true) :
    (∃ value, token.terminal = .number value) ∨ token.terminal = .opening := by
  rcases begins with ⟨_, number⟩ | made
  · exact Or.inl number
  · have second : b = '(' := by
      rcases (lacksOperator_iff.mp lacks).2 with opening | ⟨digit, _⟩
      · exact opening
      · cases digit.symm.trans (Lexeme.isDigit_of_ofChar? made)
    subst second
    have opening : Lexeme.opening (some ['(']) = token.lexeme := Option.some.inj made
    exact Or.inr (by rw [Token.terminal, ← opening]; rfl)

/-- The scan stops between the two. -/
theorem Flat.step_of_clash {token : Token} {before : Text} {a b : Char} {depth : Nat}
    (clash : clashes a b = true) (level : finalDepth? 0 before = some depth)
    (begins : token.BeginsWith b) :
    Flat.step token (.after (some a) depth) =
      .settle (.rejected depth (clashKind before a b)) := by
  have open_iff := count_lt_iff level
  rw [clashes, Bool.or_eq_true] at clash
  rcases clash with operand | operator
  · have ended := endsOperand_of_lacksOperand operand
    have waiting : State.after (some a) depth = .expecting depth := by
      simp [State.after, ended]
    have supplied : lacksOperator a b = false := by
      rw [Bool.eq_false_iff, ne_eq, lacksOperator_iff, ended]
      simp
    have kind : clashKind before a b = .malformedExpression := by
      simp [clashKind, supplied]
    rw [waiting, kind]
    rcases begins.refuses operand with ⟨op, terminal⟩ | terminal <;> simp [step, terminal]
  · have reading : State.after (some a) depth = .holding depth := by
      simp [State.after, (lacksOperator_iff.mp operator).1]
    rw [reading, clashKind, operator]
    simp only [open_iff, Bool.true_and, decide_eq_true_eq]
    rcases begins.supplies operator with ⟨value, terminal⟩ | terminal <;>
      cases depth <;> simp [step, terminal]

/-- The tokens in front of the first clash are all read, and the scan settles on the next one. -/
theorem Text.FirstClash.exists_scan {t front : Text} {a b : Char} (first : t.FirstClash front a b)
    (flawless : t.IsFlawless) (keys : ∀ c ∈ t, isKey c = true) :
    ∃ before token after depth, Token.Cut 0 (front ++ [a]) before ∧
      Token.Cut 0 t (before ++ token :: after) ∧ ∀ back,
        Flat.scanFrom (.expecting 0) 0 (before ++ token :: back) =
          some (.rejected depth (clashKind (front ++ [a]) a b), before.length) := by
  obtain ⟨rest, shape⟩ := first.found
  have whole : t = (front ++ [a]) ++ b :: rest := by
    rw [← shape]
    simp
  have initial : front ++ [a] <+: t := ⟨b :: rest, whole.symm⟩
  have chain := flawless.chained_of_start keys initial first.free
  obtain ⟨depth, level⟩ : ∃ depth, finalDepth? 0 (front ++ [a]) = some depth := by
    have balance := flawless.balanced
    rw [whole, finalDepth?_append, Option.bind_eq_some_iff] at balance
    obtain ⟨depth, level, _⟩ := balance
    exact ⟨depth, level⟩
  have known (c : Char) (member : c ∈ t) := known_of_isKey (keys c member)
  obtain ⟨before, front_cut⟩ := Token.exists_cut 0 fun c member => known c (initial.mem member)
  have back_known (c : Char) (member : c ∈ b :: rest) := known c (by
    rw [whole]
    exact List.mem_append_right _ member)
  obtain ⟨others, back_cut⟩ := Token.exists_cut (0 + (front ++ [a]).length) back_known
  obtain ⟨token, after, rfl, begins⟩ := back_cut.exists_first
  have apart : ∀ c ∈ (front ++ [a]).getLast?, c.isDigit = true →
      Token.NoDigitFirst (b :: rest) := by
    intro last shown digit c next
    obtain rfl : a = last := by simpa using shown
    obtain rfl : b = c := by simpa using next
    exact isDigit_of_clashes first.clash digit
  have cut := front_cut.join apart back_cut
  rw [← whole] at cut
  have read : Flat.readAll? (.expecting 0) before = some (.after (some a) depth) := by
    have scanned : Flat.readAll? (.expecting 0) before = scanned? none 0 (front ++ [a]) :=
      front_cut.readAll?_eq none 0 (by simp)
    simpa [scanned?, chain, level] using scanned
  have settled := Flat.step_of_clash first.clash level begins
  refine ⟨before, token, after, depth, front_cut, cut, fun back => ?_⟩
  rw [Flat.scanFrom_append 0 _ read, Flat.scanFrom, settled, Nat.zero_add]

/-- Each number in the text can be written in one piece. -/
def Text.HasShortNumbers (t : Text) : Prop :=
  ∀ tokens, Token.ofText t = .ok tokens → ∀ token ∈ tokens, ∀ value,
    token.terminal = .number value → value.natAbs < Nat.pow 10 Numeral.pieceLimit

theorem Text.HasShortNumbers.not_isLongNumber {t : Text} {tokens : List Token} {token : Token}
    (short : t.HasShortNumbers) (made : Token.ofText t = .ok tokens) (member : token ∈ tokens) :
    ¬ token.IsLongNumber := by
  intro long
  obtain ⟨value, shape, large⟩ := Token.isLongNumber_iff.mp long
  have number : token.terminal = .number value := by
    rw [Token.terminal, shape]
    rfl
  exact Nat.not_lt.mpr large (short tokens made token member value number)

/-- The first clash fixes the error, unless a division by zero in front of it comes first. -/
theorem Text.FirstClash.valueOf_eq_error {t front : Text} {a b : Char}
    (first : t.withoutBlanks.FirstClash front a b) (flawless : t.withoutBlanks.IsFlawless)
    (keys : ∀ c ∈ t.withoutBlanks, isKey c = true)
    (nests : t.NestsWithin stack.room) (short : t.HasShortNumbers) :
    ∃ fault, valueOf stack t = .error fault ∧
      (fault.kind? = some (clashKind (front ++ [a]) a b) ∨
        fault = .divisionByZero ∧
          ∃ c ∈ front ++ [a], Operator.ofGlyph? c = some (.multiplicative .dividedBy)) := by
  obtain ⟨before, token, after, depth, front_cut, cut, settles⟩ := first.exists_scan flawless keys
  have made : Token.ofText t = .ok (before ++ token :: after ++
      [Token.mark t.withoutBlanks.length]) := Token.ofText_eq_ok_iff.mpr ⟨_, cut, rfl⟩
  have valued := valueOf_of_nests cut nests
  generalize marked : before ++ token :: after ++ [Token.mark t.withoutBlanks.length] = tokens
    at made valued
  have shape : tokens = before ++ token :: (after ++ [Token.mark t.withoutBlanks.length]) := by
    rw [← marked, List.append_assoc, List.cons_append]
  have blamed : tokens[before.length]? = some token := by simp [shape]
  have front_tokens : tokens.take before.length = before := by simp [shape]
  have found : Flat.scanFrom (.expecting 0) 0 tokens =
      some (.rejected depth (clashKind (front ++ [a]) a b), 0 + before.length) := by
    rw [shape, settles, Nat.zero_add]
  have agrees : Evaluation.Agrees tokens[before.length]?
      (.rejected depth (clashKind (front ++ [a]) a b)) (0 + before.length)
      (Evaluation.run .whole none tokens) := Evaluation.runFrom_agrees found
  rw [Nat.zero_add] at agrees
  have divides := Evaluation.exists_division_of_agrees agrees
  rcases agrees with ⟨_, other, same, allows⟩ | ⟨_, byZero⟩
  · obtain rfl : token = other := Option.some.inj (blamed.symm.trans same)
    rcases allows with ⟨_, long, _⟩ | ⟨_, fault, _, known, failed⟩
    · have member : token ∈ tokens := by simp [shape]
      exact absurd long (short.not_isLongNumber made member)
    · exact ⟨fault, valued.trans failed, Or.inl known⟩
  · obtain ⟨sign, member, division⟩ := divides byZero
    rw [front_tokens] at member
    exact ⟨.divisionByZero, valued.trans byZero,
      Or.inr ⟨rfl, front_cut.exists_glyph member division⟩⟩

/-- Neighbouring characters decide how an expression of digits, operators and parentheses is
calculated whose structure is in order. If none clash, it has a value or divides by zero. If some
do, it has none, and the first that do fix the error, unless it divides by zero before. -/
theorem clashes_decide_calculation (stack : Stack) (limits : Limits) {t : Text}
    (keys : ∀ c ∈ t.withoutBlanks, isKey c = true) (valid : validate t = none)
    (nests : t.NestsWithin 300) (short : t.HasShortNumbers) :
    ∃ verdict, calculate stack limits t = .ok verdict ∧
      (t.withoutBlanks.ClashFree →
        (∃ value, verdict.value? = some value) ∨ verdict.error? = some .divisionByZero) ∧
      (¬ t.withoutBlanks.ClashFree → verdict.value? = none ∧
        ∃ front a b, t.withoutBlanks.FirstClash front a b ∧
          (verdict.error? = some (clashKind (front ++ [a]) a b) ∨
            verdict.error? = some .divisionByZero ∧
              ∃ c ∈ front ++ [a], Operator.ofGlyph? c = some (.multiplicative .dividedBy))) := by
  have flawless : t.withoutBlanks.IsFlawless := by
    rw [validate_eq_flaw?] at valid
    exact flaw?_eq_none_iff.mp valid
  have room : t.NestsWithin stack.room := nests.mono stack.ample
  rcases t.withoutBlanks.exists_firstClash with free | ⟨front, a, b, first⟩
  · rcases valueOf_of_isDerivable (isDerivable_of_clashFree flawless keys free) room with
      ⟨value, valued⟩ | byZero
    · refine ⟨_, calculate_of_value limits valid valued, fun _ => Or.inl ⟨value, ?_⟩,
        fun clash => absurd free clash⟩
      split <;> rfl
    · exact ⟨_, calculate_of_kind limits valid byZero rfl, fun _ => Or.inr rfl,
        fun clash => absurd free clash⟩
  · have clashing : ¬ t.withoutBlanks.ClashFree := first.not_clashFree
    obtain ⟨fault, failed, told⟩ := first.valueOf_eq_error flawless keys room short
    rcases told with known | ⟨rfl, division⟩
    · exact ⟨_, calculate_of_kind limits valid failed known, fun free => absurd free clashing,
        fun _ => ⟨rfl, front, a, b, first, Or.inl rfl⟩⟩
    · exact ⟨_, calculate_of_kind limits valid failed rfl, fun free => absurd free clashing,
        fun _ => ⟨rfl, front, a, b, first, Or.inr ⟨rfl, division⟩⟩⟩

/-- The text `(8÷ (4) 2)`, in which no operator stands in front of the last number. -/
def juxtaposed : Text :=
  ['(', '8', '÷', ' ', '(', '4', ')', ' ', '2', ')']

theorem juxtaposed_firstClash :
    juxtaposed.withoutBlanks.FirstClash ['(', '8', '÷', '(', '4'] ')' '2' where
  found := ⟨[')'], rfl⟩
  clash := rfl
  free := by decide

theorem juxtaposed_hasShortNumbers : juxtaposed.HasShortNumbers := by
  intro tokens made token member value number
  have cut : Token.ofText juxtaposed = .ok [⟨.opening (some ['(']), 0⟩, ⟨.number 8, 1⟩,
      ⟨.operator (some ['/']), 2⟩, ⟨.opening (some ['(']), 3⟩, ⟨.number 4, 4⟩,
      ⟨.closing (some [')']), 5⟩, ⟨.number 2, 6⟩, ⟨.closing (some [')']), 7⟩, Token.mark 8] := rfl
  obtain rfl := Except.ok.inj (made.symm.trans cut)
  have digit : value.natAbs < 10 := by
    simp only [List.mem_cons, List.not_mem_nil, or_false] at member
    rcases member with rfl | rfl | rfl | rfl | rfl | rfl | rfl | rfl | rfl <;> cases number
    all_goals decide
  exact Numeral.lt_pow_pieceLimit digit

theorem juxtaposed_calculate :
    (∀ c ∈ juxtaposed.withoutBlanks, isKey c = true) ∧ validate juxtaposed = none ∧
      juxtaposed.NestsWithin 300 ∧ juxtaposed.HasShortNumbers ∧
      ∃ verdict, calculate .shallow {} juxtaposed = .ok verdict ∧ verdict.value? = none ∧
        verdict.error? = some .unmatchedParenthesis := by
  have keys : ∀ c ∈ juxtaposed.withoutBlanks, isKey c = true := List.all_eq_true.mp rfl
  have valid : validate juxtaposed = none := rfl
  have nests : juxtaposed.NestsWithin 300 := by decide
  have short := juxtaposed_hasShortNumbers
  obtain ⟨verdict, calculated, _, clashing⟩ :=
    clashes_decide_calculation .shallow {} keys valid nests short
  obtain ⟨noValue, _⟩ := clashing juxtaposed_firstClash.not_clashFree
  have known : (calculate .shallow {} juxtaposed).map Verdict.error? =
      .ok (some .unmatchedParenthesis) := rfl
  rw [calculated] at known
  exact ⟨keys, valid, nests, short, verdict, calculated, noValue, Except.ok.inj known⟩

end Reckoner
