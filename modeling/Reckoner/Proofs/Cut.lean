import Reckoner.Proofs.Nesting
import Reckoner.Token.Lexer

namespace Reckoner

theorem Lexeme.ofChar?_eq_some_iff {c : Char} {lexeme : Lexeme} :
    ofChar? c = some lexeme ↔
      (∃ op, Operator.ofGlyph? c = some op ∧ lexeme = .operator (some [op.glyph])) ∨
        (c = '(' ∧ lexeme = .opening (some ['('])) ∨
        (c = ')' ∧ lexeme = .closing (some [')'])) := by
  unfold ofChar?
  constructor
  · intro made
    split at made
    · exact Or.inl ⟨_, ‹_›, (Option.some.inj made).symm⟩
    · split at made
      · exact Or.inr (Or.inl ⟨‹_›, (Option.some.inj made).symm⟩)
      · split at made
        · exact Or.inr (Or.inr ⟨‹_›, (Option.some.inj made).symm⟩)
        · cases made
  · rintro (⟨op, glyph, rfl⟩ | ⟨rfl, rfl⟩ | ⟨rfl, rfl⟩)
    · simp [glyph]
    · rfl
    · rfl

/-- A single character makes an operator or a parenthesis. -/
theorem Lexeme.terminal_of_ofChar? {c : Char} {lexeme : Lexeme} (made : ofChar? c = some lexeme) :
    (∃ op, Operator.ofGlyph? c = some op ∧ lexeme.terminal = .operator op) ∨
      (c = '(' ∧ lexeme.terminal = .opening) ∨ (c = ')' ∧ lexeme.terminal = .closing) := by
  rcases ofChar?_eq_some_iff.mp made with ⟨op, glyph, rfl⟩ | ⟨rfl, rfl⟩ | ⟨rfl, rfl⟩
  · exact Or.inl ⟨op, glyph, by simp [terminal, Operator.ofCanonical?_glyph]⟩
  · exact Or.inr (Or.inl ⟨rfl, rfl⟩)
  · exact Or.inr (Or.inr ⟨rfl, rfl⟩)

theorem Lexeme.ofGlyph?_of_ofChar? {c : Char} {lexeme : Lexeme} {op : Operator}
    (made : ofChar? c = some lexeme) (same : lexeme.terminal = .operator op) :
    Operator.ofGlyph? c = some op := by
  rcases terminal_of_ofChar? made with ⟨other, glyph, terminal⟩ | ⟨_, terminal⟩ | ⟨_, terminal⟩
  · cases terminal.symm.trans same
    exact glyph
  · cases terminal.symm.trans same
  · cases terminal.symm.trans same

theorem Lexeme.eq_opening_of_ofChar? {c : Char} {lexeme : Lexeme} (made : ofChar? c = some lexeme)
    (same : lexeme.terminal = .opening) : c = '(' := by
  rcases terminal_of_ofChar? made with ⟨_, _, terminal⟩ | ⟨shape, _⟩ | ⟨_, terminal⟩
  · cases terminal.symm.trans same
  · exact shape
  · cases terminal.symm.trans same

theorem Lexeme.eq_closing_of_ofChar? {c : Char} {lexeme : Lexeme} (made : ofChar? c = some lexeme)
    (same : lexeme.terminal = .closing) : c = ')' := by
  rcases terminal_of_ofChar? made with ⟨_, _, terminal⟩ | ⟨_, terminal⟩ | ⟨shape, _⟩
  · cases terminal.symm.trans same
  · cases terminal.symm.trans same
  · exact shape

theorem Operator.isDigit_of_ofGlyph? {c : Char} {op : Operator} (glyph : ofGlyph? c = some op) :
    c.isDigit = false := by
  unfold ofGlyph? at glyph
  split at glyph <;> first | rfl | cases glyph

theorem Operator.ne_parenthesis_of_ofGlyph? {c : Char} {op : Operator}
    (glyph : ofGlyph? c = some op) : c ≠ '(' ∧ c ≠ ')' := by
  constructor <;> (rintro rfl; cases glyph)

theorem Lexeme.isDigit_of_ofChar? {c : Char} {lexeme : Lexeme} (made : ofChar? c = some lexeme) :
    c.isDigit = false := by
  rcases ofChar?_eq_some_iff.mp made with ⟨op, glyph, _⟩ | ⟨rfl, _⟩ | ⟨rfl, _⟩
  · exact Operator.isDigit_of_ofGlyph? glyph
  · rfl
  · rfl

namespace Token

theorem parentheses_of_ofChar? {c : Char} {lexeme : Lexeme} (made : Lexeme.ofChar? c = some lexeme)
    (pos : Int) : opens ⟨lexeme, pos⟩ = (c == '(') ∧ closes ⟨lexeme, pos⟩ = (c == ')') := by
  rcases Lexeme.terminal_of_ofChar? made with ⟨op, glyph, terminal⟩ | ⟨rfl, terminal⟩ |
    ⟨rfl, terminal⟩
  · obtain ⟨notOpening, notClosing⟩ := Operator.ne_parenthesis_of_ofGlyph? glyph
    simp [opens, closes, Token.terminal, terminal, notOpening, notClosing]
  · simp [opens, closes, Token.terminal, terminal]
  · simp [opens, closes, Token.terminal, terminal]

/-- No digit goes first. -/
def NoDigitFirst (t : Text) : Prop :=
  ∀ c ∈ t.head?, c.isDigit = false

/-- A text and the tokens it is cut into from a position on, its end not marked. -/
inductive Cut : Nat → Text → List Token → Prop
  | done {pos : Nat} : Cut pos [] []
  | symbol {pos : Nat} {c : Char} {lexeme : Lexeme} {rest : Text} {tokens : List Token} :
      Lexeme.ofChar? c = some lexeme → Cut (pos + 1) rest tokens →
      Cut pos (c :: rest) (⟨lexeme, pos⟩ :: tokens)
  | number {pos : Nat} {digits rest : Text} {tokens : List Token} :
      digits ≠ [] → (∀ c ∈ digits, c.isDigit = true) → NoDigitFirst rest →
      Cut (pos + digits.length) rest tokens →
      Cut pos (digits ++ rest) (⟨.number (Nat.ofDigitChars 10 digits 0 : Nat), pos⟩ :: tokens)

/-- A token moved on in the text. -/
def shift (token : Token) (distance : Nat) : Token :=
  { token with pos := token.pos + distance }

/-- The mark that the lexer puts at the end. -/
def mark (pos : Nat) : Token :=
  ⟨.stop none, pos⟩

theorem shift_mark (pos distance : Nat) : (mark pos).shift distance = mark (pos + distance) := by
  rw [shift, mark, mark, Int.natCast_add]

theorem scanFrom_digits {run digits : Text} {pos : Nat} (rest : Text)
    (all : ∀ c ∈ digits, c.isDigit = true) :
    scanFrom run pos (digits ++ rest) =
      scanFrom (digits.reverse ++ run) (pos + digits.length) rest := by
  induction digits generalizing run pos with
  | nil => rfl
  | cons c digits ih =>
    rw [List.cons_append, scanFrom, if_pos (all c (List.mem_cons_self ..)),
      ih fun other member => all other (List.mem_cons_of_mem _ member)]
    simp only [List.reverse_cons, List.append_assoc, List.cons_append, List.nil_append,
      List.length_cons, Nat.add_assoc, Nat.add_comm 1]

/-- A run of digits ends where no digit follows. -/
theorem scanFrom_run {run rest : Text} {pos : Nat} (ends : NoDigitFirst rest) :
    scanFrom run pos rest = (scanFrom [] pos rest).map (ofRun run pos ++ ·) := by
  cases rest with
  | nil => rfl
  | cons c rest =>
    have other : c.isDigit = false := ends c rfl
    simp only [scanFrom, other]
    cases Lexeme.ofChar? c with
    | none => rfl
    | some lexeme => cases scanFrom [] (pos + 1) rest <;> rfl

theorem Cut.scanFrom_eq {pos : Nat} {t : Text} {tokens : List Token} (cut : Cut pos t tokens) :
    scanFrom [] pos t = .ok (tokens ++ [mark (pos + t.length)]) := by
  induction cut with
  | done => rfl
  | @symbol pos c lexeme rest tokens made _ ih =>
    rw [scanFrom, if_neg (by simp [Lexeme.isDigit_of_ofChar? made]), made]
    simp only [ih, List.length_cons]
    simp only [Nat.add_assoc, Nat.add_comm 1]
    rfl
  | @number pos digits rest tokens filled all ends _ ih =>
    have value : Numeral.ofDigits digits = Nat.ofDigitChars 10 digits 0 :=
      Numeral.ofDigits_eq digits
    rw [scanFrom_digits rest all, List.append_nil, scanFrom_run ends, ih]
    simp [ofRun, filled, value, Except.map, Nat.add_assoc]

/-- A cut from behind a run of digits is a cut from before it. -/
theorem Cut.ofRun {run rest : Text} {pos : Nat} {tokens : List Token}
    (all : ∀ c ∈ run, c.isDigit = true) (room : run.length ≤ pos) (ends : NoDigitFirst rest)
    (cut : Cut pos rest tokens) :
    Cut (pos - run.length) (run.reverse ++ rest) (Token.ofRun run pos ++ tokens) := by
  cases run with
  | nil => exact cut
  | cons c run =>
    have back : pos - (c :: run).length + (c :: run).reverse.length = pos := by
      rw [List.length_reverse]
      omega
    have number : Cut (pos - (c :: run).length) ((c :: run).reverse ++ rest)
        (⟨.number (Nat.ofDigitChars 10 (c :: run).reverse 0 : Nat),
          (pos - (c :: run).length : Nat)⟩ :: tokens) :=
      .number (by simp) (fun other member => all other (List.mem_reverse.mp member)) ends
        (by rw [back]; exact cut)
    simpa [Token.ofRun, Numeral.ofDigits_eq] using number

theorem exists_cut_of_scanFrom {run t : Text} {pos : Nat} {all : List Token}
    (digits : ∀ c ∈ run, c.isDigit = true) (room : run.length ≤ pos)
    (scanned : scanFrom run pos t = .ok all) :
    ∃ tokens, all = tokens ++ [mark (pos + t.length)] ∧
      Cut (pos - run.length) (run.reverse ++ t) tokens := by
  induction t generalizing run pos all with
  | nil =>
    cases scanned
    refine ⟨Token.ofRun run pos, rfl, ?_⟩
    simpa using Cut.ofRun digits room (by simp [NoDigitFirst]) .done
  | cons c rest ih =>
    cases digit : c.isDigit with
    | true =>
      rw [scanFrom, if_pos digit] at scanned
      have more : ∀ other ∈ c :: run, other.isDigit = true := by
        intro other member
        rcases List.mem_cons.mp member with rfl | member
        · exact digit
        · exact digits other member
      obtain ⟨tokens, rfl, cut⟩ := ih more (by simpa using room) scanned
      refine ⟨tokens, by simp [Nat.add_assoc, Nat.add_comm 1], ?_⟩
      simpa using cut
    | false =>
      rw [scanFrom, if_neg (by simp [digit])] at scanned
      cases made : Lexeme.ofChar? c with
      | none => simp [made] at scanned
      | some lexeme =>
        rw [made] at scanned
        cases later : scanFrom [] (pos + 1) rest with
        | error fault => simp [later, bind, Except.bind] at scanned
        | ok others =>
          rw [later] at scanned
          cases scanned
          obtain ⟨tokens, rfl, cut⟩ := ih (by simp) (Nat.zero_le _) later
          refine ⟨Token.ofRun run pos ++ ⟨lexeme, pos⟩ :: tokens, ?_, ?_⟩
          · simp [Nat.add_assoc, Nat.add_comm 1]
          · have ends : NoDigitFirst (c :: rest) := by simpa [NoDigitFirst] using digit
            exact Cut.ofRun digits room ends (.symbol made cut)

/-- The lexer cuts a text without its blanks and marks the end. -/
theorem ofText_eq_ok_iff {t : Text} {all : List Token} :
    ofText t = .ok all ↔
      ∃ tokens, Cut 0 t.withoutBlanks tokens ∧ all = tokens ++ [mark t.withoutBlanks.length] := by
  constructor
  · intro made
    obtain ⟨tokens, rfl, cut⟩ := exists_cut_of_scanFrom (by simp) (Nat.zero_le _) made
    exact ⟨tokens, cut, by rw [Nat.zero_add]⟩
  · rintro ⟨tokens, cut, rfl⟩
    rw [ofText, cut.scanFrom_eq, Nat.zero_add]

/-- A text of digits, operators and parentheses can be cut. -/
theorem exists_cut {t : Text} (pos : Nat)
    (known : ∀ c ∈ t, c.isDigit = true ∨ (Lexeme.ofChar? c).isSome = true) :
    ∃ tokens, Cut pos t tokens := by
  have total (run : Text) : ∃ all, scanFrom run pos t = .ok all := by
    induction t generalizing run pos with
    | nil => exact ⟨_, rfl⟩
    | cons c rest ih =>
      have later := fun pos =>
        ih pos fun other member => known other (List.mem_cons_of_mem _ member)
      cases digit : c.isDigit with
      | true =>
        rw [scanFrom, if_pos digit]
        exact later (pos + 1) (c :: run)
      | false =>
        rw [scanFrom, if_neg (by simp [digit])]
        obtain ⟨lexeme, made⟩ : ∃ lexeme, Lexeme.ofChar? c = some lexeme := by
          simpa [digit, Option.isSome_iff_exists] using known c (List.mem_cons_self ..)
        obtain ⟨others, scanned⟩ := later (pos + 1) []
        exact ⟨_, by rw [made]; simp only [scanned]; rfl⟩
  obtain ⟨all, scanned⟩ := total []
  obtain ⟨tokens, _, cut⟩ := exists_cut_of_scanFrom (by simp) (Nat.zero_le _) scanned
  exact ⟨tokens, cut⟩

/-- Anything but a digit, an operator or a parenthesis. -/
def IsForeign (c : Char) : Prop :=
  c.isDigit = false ∧ Lexeme.ofChar? c = none

theorem not_isForeign_iff {c : Char} :
    ¬ IsForeign c ↔ c.isDigit = true ∨ (Lexeme.ofChar? c).isSome = true := by
  cases digit : c.isDigit <;> simp [IsForeign, digit, Option.isSome_iff_ne_none]

/-- The first foreign character is reported with its place. -/
theorem scanFrom_foreign {run front rest : Text} {pos : Nat} {c : Char}
    (known : ∀ other ∈ front, ¬ IsForeign other) (foreign : IsForeign c) :
    scanFrom run pos (front ++ c :: rest) = .error (.foreignCharacter c (pos + front.length)) := by
  induction front generalizing run pos with
  | nil =>
    obtain ⟨notDigit, missing⟩ := foreign
    simp [scanFrom, notDigit, missing]
  | cons first front ih =>
    have later (run : Text) := @ih run (pos + 1) fun other member =>
      known other (List.mem_cons_of_mem _ member)
    have place : pos + 1 + front.length = pos + (first :: front).length := by
      rw [List.length_cons]
      omega
    rw [place] at later
    rw [List.cons_append, scanFrom]
    rcases not_isForeign_iff.mp (known first (List.mem_cons_self ..)) with digit | made
    · rw [if_pos digit]
      exact later (first :: run)
    · obtain ⟨lexeme, made⟩ := Option.isSome_iff_exists.mp made
      have notDigit := Lexeme.isDigit_of_ofChar? made
      rw [if_neg (by simp [notDigit]), made]
      simp only [later []]
      rfl

/-- Some character is the first foreign one unless there is none. -/
theorem exists_first_foreign (t : Text) :
    (∀ c ∈ t, ¬ IsForeign c) ∨ ∃ front c rest, t = front ++ c :: rest ∧
      (∀ other ∈ front, ¬ IsForeign other) ∧ IsForeign c := by
  induction t with
  | nil => exact Or.inl (by simp)
  | cons first t ih =>
    by_cases here : IsForeign first
    · exact Or.inr ⟨[], first, t, rfl, by simp, here⟩
    · rcases ih with known | ⟨front, c, rest, rfl, known, foreign⟩
      · exact Or.inl (List.forall_mem_cons.mpr ⟨here, known⟩)
      · exact Or.inr ⟨first :: front, c, rest, rfl, List.forall_mem_cons.mpr ⟨here, known⟩, foreign⟩

/-- A text is cut into tokens unless there is a foreign character in it, and the first one is
reported. -/
theorem ofText_cases (t : Text) :
    (∃ tokens, Cut 0 t.withoutBlanks tokens) ∨
      ∃ front c rest, t.withoutBlanks = front ++ c :: rest ∧
        (∀ other ∈ front, ¬ IsForeign other) ∧ IsForeign c ∧
        ofText t = .error (.foreignCharacter c front.length) := by
  rcases exists_first_foreign t.withoutBlanks with known | ⟨front, c, rest, shape, known, foreign⟩
  · exact Or.inl (exists_cut 0 fun c member => not_isForeign_iff.mp (known c member))
  · refine Or.inr ⟨front, c, rest, shape, known, foreign, ?_⟩
    rw [ofText, shape, scanFrom_foreign known foreign, Nat.zero_add]

/-- The token can begin with the character: a number with a digit, anything else with its glyph. -/
def BeginsWith (token : Token) (c : Char) : Prop :=
  (c.isDigit = true ∧ ∃ value, token.terminal = .number value) ∨
    Lexeme.ofChar? c = some token.lexeme

namespace Cut

variable {pos : Nat} {t front back : Text} {tokens others : List Token}

/-- Cuts are joined where no run of digits is torn apart. -/
theorem join (cut : Cut pos front tokens)
    (apart : ∀ c ∈ front.getLast?, c.isDigit = true → NoDigitFirst back)
    (next : Cut (pos + front.length) back others) : Cut pos (front ++ back) (tokens ++ others) := by
  induction cut with
  | done => exact next
  | @symbol pos c lexeme rest tokens made _ ih =>
    rw [List.length_cons, Nat.add_comm rest.length, ← Nat.add_assoc] at next
    refine .symbol made (ih (fun last shown => apart last ?_) next)
    rw [Option.mem_def] at shown
    rw [List.getLast?_cons, shown]
    rfl
  | @number pos digits rest tokens filled all ends _ ih =>
    rw [List.length_append, ← Nat.add_assoc] at next
    rw [List.append_assoc]
    refine .number filled all ?_ (ih (fun last shown => apart last ?_) next)
    · cases rest with
      | nil =>
        rw [List.append_nil] at apart
        have shown := List.getLast?_eq_some_getLast filled
        exact apart _ shown (all _ (List.getLast_mem filled))
      | cons => exact ends
    · rw [Option.mem_def] at shown
      rw [List.getLast?_append, shown]
      rfl

theorem append (cut : Cut pos front tokens) (apart : NoDigitFirst back)
    (next : Cut (pos + front.length) back others) : Cut pos (front ++ back) (tokens ++ others) :=
  cut.join (fun _ _ _ => apart) next

/-- The first token begins with the first character. -/
theorem exists_first {c : Char} {rest : Text} (cut : Cut pos (c :: rest) tokens) :
    ∃ token more, tokens = token :: more ∧ token.BeginsWith c := by
  generalize shape : c :: rest = t at cut
  cases cut with
  | done => cases shape
  | symbol made _ =>
    cases shape
    exact ⟨_, _, rfl, Or.inr made⟩
  | @number _ digits rest _ filled all _ _ =>
    obtain ⟨first, digits, rfl⟩ := List.exists_cons_of_ne_nil filled
    cases shape
    exact ⟨_, _, rfl, Or.inl ⟨all c (List.mem_cons_self ..), _, rfl⟩⟩

/-- An operator among the tokens has its glyph in the text. -/
theorem exists_glyph {token : Token} {op : Operator} (cut : Cut pos t tokens)
    (member : token ∈ tokens) (terminal : token.terminal = .operator op) :
    ∃ c ∈ t, Operator.ofGlyph? c = some op := by
  induction cut with
  | done => cases member
  | symbol made _ ih =>
    rcases List.mem_cons.mp member with rfl | later
    · exact ⟨_, List.mem_cons_self .., Lexeme.ofGlyph?_of_ofChar? made terminal⟩
    · obtain ⟨c, found, glyph⟩ := ih later
      exact ⟨c, List.mem_cons_of_mem _ found, glyph⟩
  | number _ _ _ _ ih =>
    rcases List.mem_cons.mp member with rfl | later
    · cases terminal
    · obtain ⟨c, found, glyph⟩ := ih later
      exact ⟨c, List.mem_append_right _ found, glyph⟩

/-- A cut comes apart between any two tokens, and no run of digits is torn apart there. -/
theorem exists_parts (cut : Cut pos t (tokens ++ others)) :
    ∃ front back, t = front ++ back ∧ Cut pos front tokens ∧
      (∀ c ∈ front.getLast?, c.isDigit = true → NoDigitFirst back) ∧
      Cut (pos + front.length) back others := by
  induction tokens generalizing pos t with
  | nil => exact ⟨[], t, rfl, .done, by simp, cut⟩
  | cons first tokens ih =>
    cases cut with
    | @symbol _ c lexeme rest _ made cut =>
      obtain ⟨front, back, rfl, before, apart, after⟩ := ih cut
      refine ⟨c :: front, back, rfl, .symbol made before, fun last shown digit => ?_, ?_⟩
      · cases front with
        | nil =>
          obtain rfl : c = last := by simpa using shown
          exact absurd digit (by simp [Lexeme.isDigit_of_ofChar? made])
        | cons => exact apart last (by simpa using shown) digit
      · rw [List.length_cons, Nat.add_comm front.length, ← Nat.add_assoc]
        exact after
    | @number _ digits rest _ filled all ends cut =>
      obtain ⟨front, back, rfl, before, apart, after⟩ := ih cut
      have border : NoDigitFirst front := by
        cases front with
        | nil => simp [NoDigitFirst]
        | cons => exact ends
      refine ⟨digits ++ front, back, by rw [List.append_assoc], .number filled all border before,
        fun last shown digit => ?_, ?_⟩
      · cases front with
        | nil => exact ends
        | cons => exact apart last (by simpa using shown) digit
      · rw [List.length_append, ← Nat.add_assoc]
        exact after

/-- At a token that is no number it comes apart around a single character. -/
theorem split {token : Token} (cut : Cut pos t (tokens ++ token :: others))
    (noNumber : ∀ value, token.terminal ≠ .number value) :
    ∃ front c back, t = front ++ c :: back ∧ Cut pos front tokens ∧
      Lexeme.ofChar? c = some token.lexeme ∧ Cut (pos + front.length + 1) back others := by
  obtain ⟨front, back, rfl, before, _, after⟩ := cut.exists_parts
  cases after with
  | symbol made rest => exact ⟨front, _, _, rfl, before, made, rest⟩
  | number => exact absurd rfl (noNumber _)

theorem eq_nil (cut : Cut pos [] tokens) : tokens = [] := by
  generalize empty : ([] : Text) = t at cut
  cases cut with
  | done => rfl
  | symbol => cases empty
  | number filled => exact absurd (List.append_eq_nil_iff.mp empty.symm).1 filled

/-- The tokens stand where the text does. -/
theorem pos_le (cut : Cut pos t tokens) :
    ∀ token ∈ tokens, ∃ place : Nat, token.pos = place ∧ place ≤ pos + t.length := by
  induction cut with
  | done => simp
  | @symbol pos _ _ rest _ _ _ ih =>
    intro token member
    rcases List.mem_cons.mp member with rfl | member
    · exact ⟨pos, rfl, Nat.le_add_right _ _⟩
    · obtain ⟨place, same, within⟩ := ih token member
      exact ⟨place, same, by rw [List.length_cons]; omega⟩
  | @number pos digits rest _ _ _ _ _ ih =>
    intro token member
    rcases List.mem_cons.mp member with rfl | member
    · exact ⟨pos, rfl, Nat.le_add_right _ _⟩
    · obtain ⟨place, same, within⟩ := ih token member
      exact ⟨place, same, by rw [List.length_append]; omega⟩

/-- Only the places of the tokens depend on where the text begins. -/
theorem shift (cut : Cut pos t tokens) (distance : Nat) :
    Cut (pos + distance) t (tokens.map (·.shift distance)) := by
  have place (token : Token) (pos : Nat) (lexeme : Lexeme) (here : token = ⟨lexeme, pos⟩) :
      token.shift distance = ⟨lexeme, (pos + distance : Nat)⟩ := by
    rw [here, Token.shift, Int.natCast_add]
  induction cut with
  | done => exact .done
  | @symbol pos c lexeme rest tokens made _ ih =>
    rw [List.map_cons, place _ pos lexeme rfl]
    rw [Nat.add_right_comm] at ih
    exact .symbol made ih
  | @number pos digits rest tokens filled all ends _ ih =>
    rw [List.map_cons, place _ pos _ rfl]
    rw [Nat.add_right_comm] at ih
    exact .number filled all ends ih

/-- No foreign character is cut. -/
theorem not_isForeign (cut : Cut pos t tokens) : ∀ c ∈ t, ¬ IsForeign c := by
  induction cut with
  | done => simp
  | @symbol pos c lexeme rest tokens made _ ih =>
    intro other member foreign
    rcases List.mem_cons.mp member with rfl | later
    · cases made.symm.trans foreign.2
    · exact ih other later foreign
  | @number pos digits rest tokens filled all ends _ ih =>
    intro other member foreign
    rcases List.mem_append.mp member with digit | later
    · cases (all other digit).symm.trans foreign.1
    · exact ih other later foreign

/-- The end is marked only once. -/
theorem terminal_ne_stop (cut : Cut pos t tokens) : ∀ token ∈ tokens, token.terminal ≠ .stop := by
  induction cut with
  | done => simp
  | symbol made _ ih =>
    intro token member
    rcases List.mem_cons.mp member with rfl | member
    · rcases Lexeme.terminal_of_ofChar? made with ⟨_, _, shape⟩ | ⟨_, shape⟩ | ⟨_, shape⟩ <;>
        simp [Token.terminal, shape]
    · exact ih token member
  | number _ _ _ _ ih =>
    intro token member
    rcases List.mem_cons.mp member with rfl | member
    · simp [Token.terminal, Lexeme.terminal]
    · exact ih token member

/-- Tokens nest like the text that they are cut from. -/
theorem nestWithin {bound pos' : Nat} (cut : Cut pos t tokens) (nests : t.NestsWithin bound) :
    Token.NestWithin bound (tokens ++ [mark pos']) := by
  induction cut generalizing bound with
  | done => exact (NestsWithin.cons_iff (by rfl)).mpr .nil
  | @symbol pos c lexeme rest tokens made _ ih =>
    obtain ⟨opens, closes⟩ := parentheses_of_ofChar? made pos
    have free := nests.room
    rw [← opens, ← closes] at free
    have room : bound + (⟨lexeme, pos⟩ : Token).closes.toNat - (⟨lexeme, pos⟩ : Token).opens.toNat +
        (⟨lexeme, pos⟩ : Token).opens.toNat = bound + (⟨lexeme, pos⟩ : Token).closes.toNat := by
      omega
    refine (NestsWithin.cons_iff room).mpr (ih ((NestsWithin.cons_iff ?_).mp nests))
    rw [← opens, ← closes]
    exact room
  | @number pos digits rest tokens filled all ends _ ih =>
    refine (NestsWithin.cons_iff (by rfl)).mpr (ih ((NestsWithin.append_iff ?_).mp nests))
    intro c member
    have digit := all c member
    constructor <;> (rw [beq_eq_false_iff_ne]; rintro rfl; exact absurd digit (by decide))

end Cut

end Token

end Reckoner
