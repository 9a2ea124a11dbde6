import Reckoner.Display
import Reckoner.Proofs.Validity
import Reckoner.Proofs.ViableStart

namespace Reckoner

variable {stack : Stack}

theorem Lexeme.ofChar?_canonicalGlyph (c : Char) : ofChar? (canonicalGlyph c) = ofChar? c := by
  fun_cases canonicalGlyph c <;> rfl

/-- What is no operator has only one glyph. -/
theorem canonicalGlyph_eq_self {c : Char} (plain : isOperator c = false) :
    canonicalGlyph c = c := by
  fun_cases canonicalGlyph c <;> first | rfl | cases plain

theorem Token.scanFrom_map_canonicalGlyph (run : Text) (pos : Nat) (t : Text) :
    scanFrom run pos (t.map canonicalGlyph) = scanFrom run pos t := by
  induction t generalizing run pos with
  | nil => rfl
  | cons c rest ih =>
    cases operator : isOperator c with
    | true =>
      have digit := isDigit_of_isOperator operator
      obtain ⟨op, glyph⟩ := Option.isSome_iff_exists.mp operator
      have made : Lexeme.ofChar? c = some (.operator (some [op.glyph])) :=
        Lexeme.ofChar?_eq_some_iff.mpr (Or.inl ⟨op, glyph, rfl⟩)
      simp only [List.map_cons, scanFrom, isDigit_canonicalGlyph, digit,
        Bool.false_eq_true, if_false, Lexeme.ofChar?_canonicalGlyph, made, ih]
    | false => simp only [List.map_cons, scanFrom, canonicalGlyph_eq_self operator, ih]

theorem Token.ofText_eq_canonical (t : Text) : ofText t = scanFrom [] 0 t.canonical :=
  (scanFrom_map_canonicalGlyph [] 0 t.withoutBlanks).symm

/-- Texts with the same canonical text are calculated alike, under all limits. -/
theorem calculate_eq_of_canonical {a b : Text} (limits : Limits)
    (same : a.canonical = b.canonical) : calculate stack limits a = calculate stack limits b := by
  have structure_eq : validate a = validate b := by rw [validate, same, validate]
  have value_eq : valueOf stack a = valueOf stack b := by
    rw [valueOf, Token.ofText_eq_canonical, same, ← Token.ofText_eq_canonical, valueOf]
  rw [calculate, structure_eq, value_eq, calculate]

theorem Text.canonical_of_visible {t : Text} (visible : ∀ c ∈ t, isBlank c = false) :
    t.canonical = t.map canonicalGlyph := by
  rw [canonical, withoutBlanks_of_visible visible]

theorem head?_any_isOperator_map (t : Text) :
    (t.map canonicalGlyph).head?.any isOperator = t.head?.any isOperator := by
  cases t with
  | nil => rfl
  | cons c rest => exact isOperator_canonicalGlyph c

theorem neighbours_map (f : Char → Char) (t : Text) :
    neighbours (t.map f) = (neighbours t).map (Prod.map f f) := by
  rw [neighbours, neighbours, ← List.map_tail, List.zip_map]

/-- Flaws do not depend on glyphs. -/
theorem flaw?_map_canonicalGlyph (t : Text) : flaw? (t.map canonicalGlyph) = flaw? t := by
  have balance : isBalanced (t.map canonicalGlyph) = isBalanced t := by
    rw [isBalanced, finalDepth?_map_canonicalGlyph, isBalanced]
  have leading := head?_any_isOperator_map t
  have double : (neighbours (t.map canonicalGlyph)).any areOperators =
      (neighbours t).any areOperators := by
    have same (pair : Char × Char) :
        areOperators (pair.map canonicalGlyph canonicalGlyph) = areOperators pair := by
      rw [areOperators, Prod.map_fst, Prod.map_snd, isOperator_canonicalGlyph,
        isOperator_canonicalGlyph, areOperators]
    rw [neighbours_map, List.any_map]
    simp only [Function.comp_def, same]
  have trailing : (t.map canonicalGlyph).getLast?.any isOperator = t.getLast?.any isOperator := by
    rw [List.getLast?_map, Option.any_map]
    simp only [isOperator_canonicalGlyph]
  have hollow : (neighbours (t.map canonicalGlyph)).contains ('(', ')') =
      (neighbours t).contains ('(', ')') := by
    rw [Bool.eq_iff_iff, List.contains_iff_mem, List.contains_iff_mem, neighbours_map,
      List.mem_map]
    constructor
    · rintro ⟨⟨a, b⟩, member, same⟩
      rw [Prod.map_apply, Prod.mk.injEq, canonicalGlyph_eq_opening_iff,
        canonicalGlyph_eq_closing_iff] at same
      obtain ⟨rfl, rfl⟩ := same
      exact member
    · exact fun member => ⟨('(', ')'), member, rfl⟩
  have empty : (t.map canonicalGlyph).isEmpty = t.isEmpty := List.isEmpty_map
  exact flaw?_congr balance leading double trailing hollow empty

theorem validate_eq_flaw? (t : Text) : validate t = flaw? t.withoutBlanks := by
  rw [validate, Text.canonical, flaw?_map_canonicalGlyph]

theorem displayGlyph_of_isDigit {c : Char} (digit : c.isDigit = true) : displayGlyph c = c := by
  fun_cases displayGlyph c
  · cases digit
  · cases digit
  · rfl

theorem isBlank_displayGlyph (c : Char) : Text.isBlank (displayGlyph c) = Text.isBlank c := by
  fun_cases displayGlyph c <;> rfl

theorem Text.withoutBlanks_map_displayGlyph (t : Text) :
    withoutBlanks (t.map displayGlyph) = (withoutBlanks t).map displayGlyph := by
  rw [withoutBlanks, withoutBlanks, List.filter_map]
  simp only [Function.comp_def, isBlank_displayGlyph]

theorem Text.withoutBlanks_intercalate (pieces : List Text) :
    withoutBlanks ([' '].intercalate pieces) = withoutBlanks pieces.flatten := by
  induction pieces with
  | nil => rfl
  | cons piece rest ih =>
    cases rest with
    | nil => simp [List.intercalate]
    | cons next rest =>
      have gap : withoutBlanks [' '] = [] := rfl
      rw [List.flatten_cons, List.intercalate_cons_cons, withoutBlanks_append,
        withoutBlanks_append, withoutBlanks_append, ih, gap, List.append_nil]

theorem Text.map_canonicalGlyph_display (t : Text) :
    (t.map displayGlyph).map canonicalGlyph = t.map canonicalGlyph := by
  rw [List.map_map]
  exact List.map_congr_left fun c _ => canonicalGlyph_displayGlyph c

/-- The symbols that a text is typed with are read like the text. -/
theorem Text.canonical_pressed (t : Text) :
    Text.canonical (t.withoutBlanks.map displayGlyph) = t.canonical := by
  rw [canonical, ← withoutBlanks_map_displayGlyph, withoutBlanks_idem,
    withoutBlanks_map_displayGlyph, map_canonicalGlyph_display, canonical]

/-- Display keeps what is typed, up to blanks and glyphs. -/
theorem Text.canonical_display (t : Text) : (display t).canonical = t.canonical := by
  rw [canonical, display, withoutBlanks_intercalate, flatten_words, withoutBlanks_idem,
    withoutBlanks_map_displayGlyph, map_canonicalGlyph_display, canonical]

theorem calculate_display (limits : Limits) (t : Text) :
    calculate stack limits (display t) = calculate stack limits t :=
  calculate_eq_of_canonical limits (Text.canonical_display t)

theorem isAllBlank_eq_canonical (t : Text) : t.isAllBlank = t.canonical.isEmpty := by
  have visible : t.canonical.isEmpty = true ↔ t.isAllBlank = true := by
    rw [List.isEmpty_iff, Text.canonical, List.map_eq_nil_iff, Text.withoutBlanks_eq_nil_iff]
  rw [Bool.eq_iff_iff, visible]

theorem evaluate_eq_of_canonical {a b : Text} (same : a.canonical = b.canonical) :
    evaluate stack a = evaluate stack b := by
  have blank : a.isAllBlank = b.isAllBlank := by
    rw [isAllBlank_eq_canonical, same, ← isAllBlank_eq_canonical]
  have tokens : Token.ofText a = Token.ofText b := by
    rw [Token.ofText_eq_canonical, same, ← Token.ofText_eq_canonical]
  rw [evaluate, blank, tokens, evaluate]

theorem awaitsOperand_canonicalGlyph (c : Char) :
    awaitsOperand (canonicalGlyph c) = awaitsOperand c := by
  simp [awaitsOperand, isOperator_canonicalGlyph, canonicalGlyph_eq_opening_iff]

/-- Parentheses have no second glyph to be counted under. -/
theorem count_map_canonicalGlyph {c : Char} (only : ∀ other, canonicalGlyph other = c ↔ other = c)
    (t : Text) : (t.map canonicalGlyph).count c = t.count c := by
  rw [List.count_eq_countP, List.count_eq_countP, List.countP_map]
  apply List.countP_congr
  intro other _
  rw [Function.comp_apply, beq_iff_eq, beq_iff_eq, only]

/-- The keypad looks at the last character and at the tally of the parentheses, and neither of them
shows which glyph was typed. -/
theorem mayFollow_map_canonicalGlyph (typed : Text) (c : Char) :
    mayFollow (typed.map canonicalGlyph) c = mayFollow typed c := by
  have ended : (typed.map canonicalGlyph).getLast?.any endsOperand =
      typed.getLast?.any endsOperand := by
    rw [List.getLast?_map, Option.any_map]
    simp only [endsOperand_canonicalGlyph]
  have waiting : (typed.map canonicalGlyph).getLast?.all awaitsOperand =
      typed.getLast?.all awaitsOperand := by
    rw [List.getLast?_map, Option.all_map]
    simp only [awaitsOperand_canonicalGlyph]
  have openings := count_map_canonicalGlyph canonicalGlyph_eq_opening_iff typed
  have closings := count_map_canonicalGlyph canonicalGlyph_eq_closing_iff typed
  rw [mayFollow, ended, waiting, openings, closings, mayFollow]

theorem accepts_eq_of_canonical {a b : Text} (same : a.canonical = b.canonical) (symbol : Text) :
    accepts a symbol = accepts b symbol := by
  have follows (c : Char) : mayFollow a.withoutBlanks c = mayFollow b.withoutBlanks c := by
    rw [← mayFollow_map_canonicalGlyph, ← Text.canonical, same, Text.canonical,
      mayFollow_map_canonicalGlyph]
  unfold accepts
  split
  · exact follows _
  · rfl

/-- Two texts that no reader can tell apart: the lexer, the structure, the keypad, the evaluation
and the calculation. -/
structure Text.ReadsAs (a b : Text) : Prop where
  tokens : Token.ofText a = Token.ofText b
  flaw : validate a = validate b
  keys : ∀ symbol, accepts a symbol = accepts b symbol
  value : ∀ stack, evaluate stack a = evaluate stack b
  verdict : ∀ stack limits, calculate stack limits a = calculate stack limits b

theorem readsAs_of_canonical {a b : Text} (same : a.canonical = b.canonical) : a.ReadsAs b where
  tokens := by rw [Token.ofText_eq_canonical, same, ← Token.ofText_eq_canonical]
  flaw := by rw [validate, same, validate]
  keys := accepts_eq_of_canonical same
  value _ := evaluate_eq_of_canonical same
  verdict _ limits := calculate_eq_of_canonical limits same

/-- Texts with the same canonical text are read alike by every reader. A text and what is displayed
for it are such texts. -/
theorem canonical_text_decides :
    (∀ a b : Text, a.canonical = b.canonical → a.ReadsAs b) ∧
      ∀ t : Text, (display t).canonical = t.canonical ∧ (display t).ReadsAs t := by
  refine ⟨fun a b same => readsAs_of_canonical same, fun t => ?_⟩
  have same : (display t).canonical = t.canonical := Text.canonical_display t
  exact ⟨same, readsAs_of_canonical same⟩

/-- The text `( 2 ×`, a tab, `$ 7`, in which a character is foreign. -/
def spacedOut : Text :=
  ['(', ' ', '2', ' ', '×', '\t', '$', ' ', '7']

/-- The same without blanks and under the other glyph. -/
def crowded : Text :=
  ['(', '2', '*', '$', '7']

theorem spacedOut_readsAs_crowded :
    spacedOut.canonical = crowded.canonical ∧ spacedOut.ReadsAs crowded ∧
      Token.ofText spacedOut = .error (.foreignCharacter '$' 3) := by
  have same : spacedOut.canonical = crowded.canonical := by decide
  have alike : spacedOut.ReadsAs crowded := canonical_text_decides.1 spacedOut crowded same
  exact ⟨same, alike, alike.tokens.trans rfl⟩

end Reckoner
