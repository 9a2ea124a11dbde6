import Reckoner.Proofs.Canonical
import Reckoner.Proofs.Spans
import Reckoner.Proofs.Words
import Reckoner.Token.Rendering

namespace Reckoner

/-- A text without the zeros that do not count: a digit stands behind them, and none that counts
in front of them. The flag tells whether such a digit is in front of the text. -/
def dropZerosFrom (behindDigit : Bool) : Text → Text
  | [] => []
  | c :: rest =>
    if c = '0' ∧ behindDigit = false ∧ rest.head?.any Char.isDigit = true then
      dropZerosFrom false rest
    else c :: dropZerosFrom c.isDigit rest

def Text.withoutLeadingZeros (t : Text) : Text :=
  dropZerosFrom false t

theorem dropZerosFrom_symbol {c : Char} (other : c.isDigit = false) (behindDigit : Bool)
    (rest : Text) :
    dropZerosFrom behindDigit (c :: rest) = c :: dropZerosFrom false rest := by
  have notZero : c ≠ '0' := by
    rintro rfl
    cases other
  rw [dropZerosFrom, if_neg fun dropped => notZero dropped.1, other]

theorem dropZerosFrom_ends {rest : Text} (ends : Token.NoDigitFirst rest) (behindDigit : Bool) :
    dropZerosFrom behindDigit rest = dropZerosFrom false rest := by
  cases rest with
  | nil => rfl
  | cons c rest =>
    have other : c.isDigit = false := ends c rfl
    rw [dropZerosFrom_symbol other, dropZerosFrom_symbol other]

/-- Behind a digit that counts all digits do. -/
theorem dropZerosFrom_run {digits : Text} (rest : Text) (all : ∀ c ∈ digits, c.isDigit = true) :
    dropZerosFrom true (digits ++ rest) = digits ++ dropZerosFrom true rest := by
  induction digits with
  | nil => rfl
  | cons c digits ih =>
    have digit := all c (List.mem_cons_self ..)
    rw [List.cons_append, dropZerosFrom, if_neg (by simp), digit,
      ih fun other member => all other (List.mem_cons_of_mem _ member), List.cons_append]

/-- What is left of a run of digits is the text of its value. -/
theorem dropZerosFrom_digits {digits rest : Text} (filled : digits ≠ [])
    (all : ∀ c ∈ digits, c.isDigit = true) (ends : Token.NoDigitFirst rest) :
    dropZerosFrom false (digits ++ rest) =
      Nat.toDigits 10 (Nat.ofDigitChars 10 digits 0) ++ dropZerosFrom false rest := by
  induction digits with
  | nil => exact absurd rfl filled
  | cons c digits ih =>
    have digit := all c (List.mem_cons_self ..)
    have later (other : Char) (member : other ∈ digits) := all other (List.mem_cons_of_mem _ member)
    by_cases zero : c = '0'
    · subst zero
      cases digits with
      | nil =>
        have last : rest.head?.any Char.isDigit = false := by
          cases rest with
          | nil => rfl
          | cons next rest => exact ends next rfl
        rw [List.singleton_append, dropZerosFrom, if_neg (by simp [last]), dropZerosFrom_ends ends]
        rfl
      | cons next digits =>
        have value : Nat.ofDigitChars 10 ('0' :: next :: digits) 0 =
            Nat.ofDigitChars 10 (next :: digits) 0 := rfl
        have dropped : '0' = '0' ∧ false = false ∧
            ((next :: digits) ++ rest).head?.any Char.isDigit = true :=
          ⟨rfl, rfl, later next (List.mem_cons_self ..)⟩
        rw [List.cons_append, dropZerosFrom, if_pos dropped, ih (by simp) later, value]
    · rw [List.cons_append, dropZerosFrom, if_neg fun dropped => zero dropped.1, digit,
        dropZerosFrom_run rest later, dropZerosFrom_ends ends,
        Numeral.toDigits_ofDigitChars_cons all zero, List.cons_append]

theorem noDigitFirst_dropZerosFrom {t : Text} (ends : Token.NoDigitFirst t)
    (behindDigit : Bool) : Token.NoDigitFirst (dropZerosFrom behindDigit t) := by
  cases t with
  | nil => exact ends
  | cons c rest =>
    rw [dropZerosFrom_symbol (ends c rfl)]
    exact ends

theorem noDigitFirst_map_canonicalGlyph {t : Text} (ends : Token.NoDigitFirst t) :
    Token.NoDigitFirst (t.map canonicalGlyph) := by
  cases t with
  | nil => exact ends
  | cons c rest => simpa [Token.NoDigitFirst, isDigit_canonicalGlyph] using ends

theorem map_canonicalGlyph_digits {digits : Text} (all : ∀ c ∈ digits, c.isDigit = true) :
    digits.map canonicalGlyph = digits := by
  refine (List.map_congr_left fun c member => ?_).trans (List.map_id digits)
  exact canonicalGlyph_eq_self (isOperator_of_isDigit (all c member))

/-- A text under canonical glyphs as it is written, plain or for display. -/
def inGlyphs (display : Bool) (t : Text) : Text :=
  if display then t.map displayGlyph else t

theorem inGlyphs_append (display : Bool) (front back : Text) :
    inGlyphs display (front ++ back) = inGlyphs display front ++ inGlyphs display back := by
  cases display with
  | false => rfl
  | true => exact List.map_append

namespace Lexeme

theorem rendered_number (display : Bool) (n : Nat) :
    (number n).rendered display = some (inGlyphs display (Nat.toDigits 10 n)) := by
  have same : (Nat.toDigits 10 n).map displayGlyph = Nat.toDigits 10 n := by
    refine (List.map_congr_left fun c member => ?_).trans (List.map_id _)
    exact displayGlyph_of_isDigit (Numeral.isDigit_of_mem_toDigits c member)
  rw [rendered, Numeral.text_of_nonneg (Int.natCast_nonneg n), Int.natAbs_natCast, inGlyphs, same,
    ite_self]

theorem rendered_symbol (display : Bool) {c : Char} {lexeme : Lexeme}
    (made : ofChar? c = some lexeme) :
    lexeme.rendered display = some (inGlyphs display [canonicalGlyph c]) := by
  rcases ofChar?_eq_some_iff.mp made with ⟨op, glyph, rfl⟩ | ⟨rfl, rfl⟩ | ⟨rfl, rfl⟩
  · rw [← Operator.glyph_eq_canonicalGlyph glyph]
    rcases op with (_ | _) | (_ | _) <;> cases display <;> rfl
  · cases display <;> rfl
  · cases display <;> rfl

end Lexeme

namespace Token

variable {pos : Nat} {t : Text} {tokens : List Token}

/-- What is written for the tokens of a text. -/
theorem Cut.rendered (display : Bool) (cut : Cut pos t tokens) :
    (∀ token ∈ tokens, (token.lexeme.rendered display).isSome = true) ∧
      (tokens.filterMap fun token => token.lexeme.rendered display).flatten =
        inGlyphs display (dropZerosFrom false (t.map canonicalGlyph)) := by
  induction cut with
  | done => cases display <;> exact ⟨by simp, rfl⟩
  | @symbol pos c lexeme rest tokens made _ ih =>
    obtain ⟨each, whole⟩ := ih
    have written := Lexeme.rendered_symbol display made
    have other : (canonicalGlyph c).isDigit = false := by
      rw [isDigit_canonicalGlyph, Lexeme.isDigit_of_ofChar? made]
    refine ⟨List.forall_mem_cons.mpr ⟨by simp [written], each⟩, ?_⟩
    rw [List.filterMap_cons, written]
    simp only [List.flatten_cons, whole]
    rw [List.map_cons, dropZerosFrom_symbol other, ← inGlyphs_append, List.singleton_append]
  | @number pos digits rest tokens filled all ends _ ih =>
    obtain ⟨each, whole⟩ := ih
    have written := Lexeme.rendered_number display (Nat.ofDigitChars 10 digits 0)
    have border := noDigitFirst_map_canonicalGlyph ends
    refine ⟨List.forall_mem_cons.mpr ⟨by simp [written], each⟩, ?_⟩
    rw [List.filterMap_cons, written]
    simp only [List.flatten_cons, whole]
    rw [List.map_append, map_canonicalGlyph_digits all, dropZerosFrom_digits filled all border,
      ← inGlyphs_append]

theorem beforeStop_marked (unmarked : ∀ token ∈ tokens, token.terminal ≠ .stop) (pos : Nat) :
    beforeStop (tokens ++ [mark pos]) = tokens := by
  rw [beforeStop, List.takeWhile_append_of_pos (by simpa using unmarked)]
  simp [mark, Token.terminal, Lexeme.terminal]

/-- Tokens with a long number among them cannot be written. -/
theorem render_of_long (display : Bool) (cut : Cut pos t tokens) (place : Nat)
    (long : ∃ token ∈ tokens, token.IsLongNumber) :
    render display (tokens ++ [mark place]) = .error .unwritable := by
  obtain ⟨token, member, long⟩ := long
  have unwritable := isWritable_eq_false_iff.mpr long
  rw [render, beforeStop_marked cut.terminal_ne_stop]
  rw [if_pos]
  simpa using ⟨token, member, unwritable⟩

theorem render_of_short (display : Bool) (cut : Cut pos t tokens) (place : Nat)
    (short : ∀ token ∈ tokens, ¬ token.IsLongNumber) :
    render display (tokens ++ [mark place]) =
      .ok (inGlyphs display (Text.withoutLeadingZeros (t.map canonicalGlyph))) := by
  obtain ⟨each, whole⟩ := cut.rendered display
  have writable : ((tokens.map (·.lexeme)).all (·.isWritable)) = true := by
    simp only [List.all_map, List.all_eq_true, Function.comp_apply]
    intro token member
    by_contra long
    exact short token member (isWritable_eq_false_iff.mp (by simpa using long))
  have none_missing : (tokens.map (·.lexeme)).findIdx?
      (fun lexeme => (lexeme.rendered display).isNone) = none := by
    rw [List.findIdx?_eq_none_iff]
    simpa using each
  rw [render, beforeStop_marked cut.terminal_ne_stop]
  simp only [writable, none_missing, List.filterMap_map, Function.comp_def, whole]
  rfl

/-- The same tokens are found without the zeros that do not count, perhaps at other places. -/
theorem Cut.exists_withoutLeadingZeros (cut : Cut pos t tokens) (place : Nat) :
    ∃ again, Cut place (Text.withoutLeadingZeros (t.map canonicalGlyph)) again ∧
      again.map (·.lexeme) = tokens.map (·.lexeme) := by
  unfold Text.withoutLeadingZeros
  induction cut generalizing place with
  | done => exact ⟨[], .done, rfl⟩
  | @symbol pos c lexeme rest tokens made _ ih =>
    obtain ⟨again, cut, same⟩ := ih (place + 1)
    have other : (canonicalGlyph c).isDigit = false := by
      rw [isDigit_canonicalGlyph, Lexeme.isDigit_of_ofChar? made]
    rw [← Lexeme.ofChar?_canonicalGlyph] at made
    rw [List.map_cons, dropZerosFrom_symbol other]
    exact ⟨_, .symbol made cut, congrArg (lexeme :: ·) same⟩
  | @number pos digits rest tokens filled all ends _ ih =>
    obtain ⟨again, cut, same⟩ := ih (place + (Nat.toDigits 10 (Nat.ofDigitChars 10 digits 0)).length)
    have border := noDigitFirst_map_canonicalGlyph ends
    rw [List.map_append, map_canonicalGlyph_digits all, dropZerosFrom_digits filled all border]
    have number := Cut.number Nat.toDigits_ne_nil Numeral.isDigit_of_mem_toDigits
      (noDigitFirst_dropZerosFrom border false) cut
    rw [Nat.ofDigitChars_toDigits (by decide) (by decide)] at number
    exact ⟨_, number, congrArg (Lexeme.number (Nat.ofDigitChars 10 digits 0 : Nat) :: ·) same⟩

end Token

/-- Without blanks only the glyphs change on display. -/
theorem display_of_visible {t : Text} (visible : ∀ c ∈ t, Text.isBlank c = false) :
    display t = t.map displayGlyph := by
  have shown := Text.isBlank_of_mem_map isBlank_displayGlyph visible
  exact (Text.isTidy_of_visible shown).eq_intercalate.symm

theorem isBlank_canonicalGlyph (c : Char) : Text.isBlank (canonicalGlyph c) = Text.isBlank c := by
  fun_cases canonicalGlyph c <;> rfl

theorem Text.canonical_canonical (t : Text) : t.canonical.canonical = t.canonical := by
  have visible : ∀ c ∈ t.canonical, isBlank c = false :=
    isBlank_of_mem_map isBlank_canonicalGlyph fun _ => isBlank_of_mem_withoutBlanks
  have once (c : Char) : canonicalGlyph (canonicalGlyph c) = canonicalGlyph c := by
    fun_cases canonicalGlyph c <;> simp_all [canonicalGlyph]
  rw [canonical_of_visible visible, canonical, List.map_map]
  exact List.map_congr_left fun c _ => once c

/-- Tokens that the lexer made are written as the canonical text without the zeros that do not
count, or as that text is displayed. Both are cut into the same tokens again, but for their places
where zeros have gone. A long number among the tokens keeps them from being written at all. -/
theorem rendering_inverts_lexing {t : Text} {tokens : List Token}
    (made : Token.ofText t = .ok tokens) :
    ((∀ token ∈ tokens, ∀ value, token.lexeme = .number value →
        value.natAbs < Nat.pow 10 Numeral.pieceLimit) →
      ∃ plain again, plain = t.canonical.withoutLeadingZeros ∧
        Token.render false tokens = .ok plain ∧ Token.render true tokens = .ok (display plain) ∧
        Token.ofText plain = .ok again ∧ Token.ofText (display plain) = .ok again ∧
        again.map (·.lexeme) = tokens.map (·.lexeme) ∧
        (t.canonical.withoutLeadingZeros = t.canonical → again = tokens)) ∧
      ((∃ token ∈ tokens, ∃ value, token.lexeme = .number value ∧
          Nat.pow 10 Numeral.pieceLimit ≤ value.natAbs) →
        ∀ display, Token.render display tokens = .error .unwritable) := by
  obtain ⟨others, cut, rfl⟩ := Token.ofText_eq_ok_iff.mp made
  constructor
  · intro small
    have short : ∀ token ∈ others, ¬ token.IsLongNumber := by
      intro token member long
      obtain ⟨value, number, large⟩ := Token.isLongNumber_iff.mp long
      exact Nat.not_lt.mpr large (small token (List.mem_append_left _ member) value number)
    obtain ⟨again, cutAgain, same⟩ := cut.exists_withoutLeadingZeros 0
    obtain ⟨plain, shape⟩ : ∃ plain, plain = t.canonical.withoutLeadingZeros := ⟨_, rfl⟩
    rw [← Text.canonical, ← shape] at cutAgain
    have visible : ∀ c ∈ plain, Text.isBlank c = false := fun c member =>
      isBlank_of_known (Token.not_isForeign_iff.mp (cutAgain.not_isForeign c member))
    have read : Token.ofText plain = .ok (again ++ [Token.mark plain.length]) := by
      rw [Token.ofText_eq_ok_iff, Text.withoutBlanks_of_visible visible]
      exact ⟨again, cutAgain, rfl⟩
    refine ⟨plain, _, shape, ?_, ?_, read, ?_, by simp [same, Token.mark], fun clean => ?_⟩
    · rw [Token.render_of_short false cut _ short, ← Text.canonical, ← shape]
      rfl
    · rw [Token.render_of_short true cut _ short, ← Text.canonical, ← shape,
        display_of_visible visible]
      rfl
    · rw [Token.ofText_eq_canonical, Text.canonical_display, ← Token.ofText_eq_canonical, read]
    · have unchanged : Token.ofText plain = Token.ofText t := by
        rw [shape, clean, Token.ofText_eq_canonical, Text.canonical_canonical,
          ← Token.ofText_eq_canonical]
      exact Except.ok.inj (read.symm.trans (unchanged.trans made))
  · rintro ⟨token, member, value, number, large⟩ display
    have long := Token.isLongNumber_iff.mpr ⟨value, number, large⟩
    rcases List.mem_append.mp member with inside | last
    · exact Token.render_of_long display cut _ ⟨token, inside, long⟩
    · rw [List.mem_singleton.mp last] at number
      cases number

/-- The text `007 ×(0 - 00)`, with zeros that do not count and one that does. -/
def padded : Text :=
  ['0', '0', '7', ' ', '×', '(', '0', ' ', '-', ' ', '0', '0', ')']

def paddedTokens : List Token :=
  [⟨.number 7, 0⟩, ⟨.operator (some ['*']), 3⟩, ⟨.opening (some ['(']), 4⟩, ⟨.number 0, 5⟩,
    ⟨.operator (some ['-']), 6⟩, ⟨.number 0, 7⟩, ⟨.closing (some [')']), 9⟩, Token.mark 10]

theorem paddedTokens_rendered :
    Token.ofText padded = .ok paddedTokens ∧
      (∀ token ∈ paddedTokens, ∀ value, token.lexeme = .number value →
        value.natAbs < Nat.pow 10 Numeral.pieceLimit) ∧
      Token.render false paddedTokens = .ok ['7', '*', '(', '0', '-', '0', ')'] ∧
      Token.render true paddedTokens = .ok ['7', '×', '(', '0', '-', '0', ')'] ∧
      ∃ again, Token.ofText ['7', '*', '(', '0', '-', '0', ')'] = .ok again ∧
        again.map (·.lexeme) = paddedTokens.map (·.lexeme) := by
  have made : Token.ofText padded = .ok paddedTokens := rfl
  have small : ∀ token ∈ paddedTokens, ∀ value, token.lexeme = .number value →
      value.natAbs < Nat.pow 10 Numeral.pieceLimit := by
    intro token member value number
    have digit : value.natAbs < 10 := by
      simp only [paddedTokens, List.mem_cons, List.not_mem_nil, or_false] at member
      rcases member with rfl | rfl | rfl | rfl | rfl | rfl | rfl | rfl <;> cases number
      all_goals decide
    exact Numeral.lt_pow_pieceLimit digit
  obtain ⟨plain, again, shape, written, shown, read, _, same, _⟩ :=
    (rendering_inverts_lexing made).1 small
  obtain rfl : plain = ['7', '*', '(', '0', '-', '0', ')'] := shape
  exact ⟨made, small, written, shown, again, read, same⟩

end Reckoner
