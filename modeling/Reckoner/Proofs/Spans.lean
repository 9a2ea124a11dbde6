import Reckoner.Proofs.Cut

namespace Reckoner

/-- The characters that an expression is written with, white space apart. -/
def InAlphabet (c : Char) : Prop :=
  ('0' ≤ c ∧ c ≤ '9') ∨ c ∈ ['+', '-', '*', '/', '×', '÷'] ∨ c = '(' ∨ c = ')'

instance : DecidablePred InAlphabet := fun c =>
  inferInstanceAs (Decidable (('0' ≤ c ∧ c ≤ '9') ∨ _))

theorem isDigit_iff_between {c : Char} : c.isDigit = true ↔ '0' ≤ c ∧ c ≤ '9' := by
  simp [Char.isDigit, Char.le_def]

theorem Operator.exists_ofGlyph?_iff {c : Char} :
    (∃ op, ofGlyph? c = some op) ↔ c ∈ ['+', '-', '*', '/', '×', '÷'] := by
  constructor
  · rintro ⟨op, glyph⟩
    unfold ofGlyph? at glyph
    split at glyph <;> simp_all
  · intro member
    simp only [List.mem_cons, List.not_mem_nil, or_false] at member
    rcases member with rfl | rfl | rfl | rfl | rfl | rfl <;> exact ⟨_, rfl⟩

/-- The lexer knows the characters of the alphabet and no others. -/
theorem Token.not_isForeign_iff_inAlphabet {c : Char} : ¬ IsForeign c ↔ InAlphabet c := by
  rw [not_isForeign_iff, InAlphabet, isDigit_iff_between, ← Operator.exists_ofGlyph?_iff,
    Option.isSome_iff_exists]
  constructor
  · rintro (digit | ⟨lexeme, made⟩)
    · exact Or.inl digit
    · rcases Lexeme.ofChar?_eq_some_iff.mp made with ⟨op, glyph, _⟩ | ⟨opening, _⟩ | ⟨closing, _⟩
      · exact Or.inr (Or.inl ⟨op, glyph⟩)
      · exact Or.inr (Or.inr (Or.inl opening))
      · exact Or.inr (Or.inr (Or.inr closing))
  · rintro (digit | ⟨op, glyph⟩ | opening | closing)
    · exact Or.inl digit
    · exact Or.inr ⟨_, Lexeme.ofChar?_eq_some_iff.mpr (Or.inl ⟨op, glyph, rfl⟩)⟩
    · exact Or.inr ⟨_, Lexeme.ofChar?_eq_some_iff.mpr (Or.inr (Or.inl ⟨opening, rfl⟩))⟩
    · exact Or.inr ⟨_, Lexeme.ofChar?_eq_some_iff.mpr (Or.inr (Or.inr ⟨closing, rfl⟩))⟩

/-- The pieces of text that spell a lexeme. -/
inductive Lexeme.SpelledBy : Lexeme → Text → Prop
  | number {digits : Text} : digits ≠ [] → (∀ c ∈ digits, c.isDigit = true) →
      SpelledBy (.number (Nat.ofDigitChars 10 digits 0 : Nat)) digits
  | operator {c : Char} : isOperator c = true →
      SpelledBy (.operator (some [canonicalGlyph c])) [c]
  | opening : SpelledBy (.opening (some ['('])) ['(']
  | closing : SpelledBy (.closing (some [')'])) [')']

theorem Operator.glyph_eq_canonicalGlyph {c : Char} {op : Operator}
    (glyph : ofGlyph? c = some op) : op.glyph = canonicalGlyph c := by
  have member := exists_ofGlyph?_iff.mp ⟨op, glyph⟩
  simp only [List.mem_cons, List.not_mem_nil, or_false] at member
  rcases member with rfl | rfl | rfl | rfl | rfl | rfl <;> (cases glyph; rfl)

theorem Lexeme.spelledBy_of_ofChar? {c : Char} {lexeme : Lexeme} (made : ofChar? c = some lexeme) :
    lexeme.SpelledBy [c] := by
  rcases ofChar?_eq_some_iff.mp made with ⟨op, glyph, rfl⟩ | ⟨rfl, rfl⟩ | ⟨rfl, rfl⟩
  · have operator : isOperator c = true := by
      rw [isOperator, glyph]
      rfl
    rw [Operator.glyph_eq_canonicalGlyph glyph]
    exact .operator operator
  · exact .opening
  · exact .closing

/-- A lexeme is spelled by a run of digits or by a single character. -/
theorem Lexeme.SpelledBy.cases_digits {lexeme : Lexeme} {piece : Text}
    (spelled : lexeme.SpelledBy piece) :
    (∃ c, piece = [c] ∧ ofChar? c = some lexeme) ∨
      (lexeme = .number (Nat.ofDigitChars 10 piece 0 : Nat) ∧ piece ≠ [] ∧
        ∀ c ∈ piece, c.isDigit = true) := by
  cases spelled with
  | number filled all => exact Or.inr ⟨rfl, filled, all⟩
  | @operator c operator =>
    obtain ⟨op, glyph⟩ := Option.isSome_iff_exists.mp operator
    refine Or.inl ⟨c, rfl, ofChar?_eq_some_iff.mpr (Or.inl ⟨op, glyph, ?_⟩)⟩
    rw [Operator.glyph_eq_canonicalGlyph glyph]
  | opening => exact Or.inl ⟨'(', rfl, rfl⟩
  | closing => exact Or.inl ⟨')', rfl, rfl⟩

namespace Token

def IsNumber (token : Token) : Prop :=
  ∃ value, token.lexeme = .number value

/-- A token with the text that it is made from, which runs from its place to that of the next token.
A number takes in all the digits that stand there. -/
structure Spans (t : Text) (token next : Token) (before span behind : Text) : Prop where
  whole : t = before ++ (span ++ behind)
  start : token.pos = before.length
  stop : next.pos = (before.length + span.length : Nat)
  spelled : token.lexeme.SpelledBy span
  maximal : token.IsNumber → (∀ c ∈ before.getLast?, c.isDigit = false) ∧ NoDigitFirst behind

end Token

/-- A text cut into tokens, said without the lexer: the spans of the tokens follow each other from
the beginning to the end, which is marked there and nowhere else. -/
structure Text.IsCutInto (t : Text) (tokens : List Token) : Prop where
  start : tokens.head?.map (·.pos) = some 0
  spans : ∀ front token next back, tokens = front ++ token :: next :: back →
    ∃ before span behind, Token.Spans t token next before span behind
  stop : ∃ others, tokens = others ++ [Token.mark t.length] ∧
    ∀ token ∈ others, token.terminal ≠ .stop
  apart : ∀ front token next back, tokens = front ++ token :: next :: back →
    ¬(token.IsNumber ∧ next.IsNumber)

namespace Token

variable {pos : Nat} {t : Text} {tokens others : List Token}

theorem not_isNumber_of_ofChar? {c : Char} {token : Token}
    (made : Lexeme.ofChar? c = some token.lexeme) : ¬ token.IsNumber := by
  rintro ⟨value, number⟩
  rw [number] at made
  rcases Lexeme.terminal_of_ofChar? made with ⟨_, _, other⟩ | ⟨_, other⟩ | ⟨_, other⟩ <;>
    simp [Lexeme.terminal] at other

/-- What spells a number begins with a digit. -/
theorem isDigit_of_spelledBy {token : Token} {span : Text}
    (spelled : token.lexeme.SpelledBy span) (number : token.IsNumber) :
    ∃ c rest, span = c :: rest ∧ c.isDigit = true := by
  rcases spelled.cases_digits with ⟨c, _, made⟩ | ⟨_, filled, all⟩
  · exact absurd number (not_isNumber_of_ofChar? made)
  · obtain ⟨c, rest, rfl⟩ := List.exists_cons_of_ne_nil filled
    exact ⟨c, rest, rfl, all c (List.mem_cons_self ..)⟩

namespace Cut

variable {pos : Nat} {t : Text} {tokens others back : List Token} {token next : Token}

/-- The first token begins where the text does. -/
theorem pos_of_head (cut : Cut pos t tokens)
    (shape : tokens ++ [mark (pos + t.length)] = next :: back) : next.pos = pos := by
  cases cut <;> (cases shape; rfl)

theorem not_isNumber_of_head (cut : Cut pos t tokens) (ends : NoDigitFirst t)
    (shape : tokens ++ [mark (pos + t.length)] = next :: back) : ¬ next.IsNumber := by
  cases cut with
  | done =>
    obtain ⟨rfl, _⟩ := List.cons.inj shape
    rintro ⟨value, number⟩
    cases number
  | symbol made =>
    obtain ⟨rfl, _⟩ := List.cons.inj shape
    exact not_isNumber_of_ofChar? made
  | number filled all =>
    obtain ⟨c, digits, rfl⟩ := List.exists_cons_of_ne_nil filled
    have notDigit : c.isDigit = false := ends c rfl
    have digit : c.isDigit = true := all c (List.mem_cons_self ..)
    rw [notDigit] at digit
    cases digit

/-- The first token of a cut and the next one, which may be the mark at the end. -/
theorem span_of_head (cut : Cut pos t (token :: others))
    (shape : others ++ [mark (pos + t.length)] = next :: back) :
    ∃ span behind, t = span ++ behind ∧ token.pos = pos ∧ next.pos = (pos + span.length : Nat) ∧
      token.lexeme.SpelledBy span ∧ (token.IsNumber → NoDigitFirst behind ∧ ¬ next.IsNumber) := by
  cases cut with
  | @symbol _ c lexeme rest _ made cut =>
    rw [List.length_cons, Nat.add_comm rest.length, ← Nat.add_assoc] at shape
    exact ⟨[c], rest, rfl, rfl, cut.pos_of_head shape, Lexeme.spelledBy_of_ofChar? made,
      fun numeric => absurd numeric (not_isNumber_of_ofChar? made)⟩
  | @number _ digits rest _ filled all ends cut =>
    rw [List.length_append, ← Nat.add_assoc] at shape
    exact ⟨digits, rest, rfl, rfl, cut.pos_of_head shape, .number filled all,
      fun _ => ⟨ends, cut.not_isNumber_of_head ends shape⟩⟩

/-- Of two tokens that follow each other the first one is no mark. -/
theorem eq_append_of_marked {front : List Token} {last : Token}
    (shape : tokens ++ [last] = front ++ token :: next :: back) :
    ∃ rest, tokens = front ++ token :: rest ∧ rest ++ [last] = next :: back := by
  obtain ⟨rest, other, same⟩ : ∃ rest other, next :: back = rest ++ [other] := by
    rcases List.eq_nil_or_concat (next :: back) with empty | ⟨rest, other, same⟩
    · cases empty
    · exact ⟨rest, other, by rw [same, List.concat_eq_append]⟩
  have whole : tokens ++ [last] = (front ++ token :: rest) ++ [other] := by
    rw [shape, same, List.append_assoc, List.cons_append]
  obtain ⟨rfl, ended⟩ := List.append_inj' whole rfl
  exact ⟨rest, rfl, by rw [same, ended]⟩

theorem spans_of_neighbours {front : List Token} (cut : Cut 0 t tokens)
    (shape : tokens ++ [mark t.length] = front ++ token :: next :: back) :
    (∃ before span behind, Spans t token next before span behind) ∧
      ¬(token.IsNumber ∧ next.IsNumber) := by
  obtain ⟨rest, rfl, ended⟩ := eq_append_of_marked shape
  obtain ⟨before, later, rfl, _, apart, after⟩ := cut.exists_parts
  rw [Nat.zero_add] at after
  rw [List.length_append] at ended
  obtain ⟨span, behind, rfl, start, stop, spelled, ends⟩ := after.span_of_head ended
  refine ⟨⟨before, span, behind, rfl, start, stop, spelled, fun numeric => ⟨?_, (ends numeric).1⟩⟩,
    fun both => (ends both.1).2 both.2⟩
  intro last shown
  by_contra digit
  obtain ⟨c, more, rfl, first⟩ := isDigit_of_spelledBy spelled numeric
  have notDigit := apart last shown (by simpa using digit) c rfl
  rw [first] at notDigit
  cases notDigit

theorem isCutInto (cut : Cut 0 t tokens) : t.IsCutInto (tokens ++ [mark t.length]) where
  start := by
    obtain ⟨first, more, shape⟩ : ∃ first more, tokens ++ [mark t.length] = first :: more :=
      List.exists_cons_of_ne_nil (by simp)
    rw [shape]
    exact congrArg some (cut.pos_of_head (by rw [Nat.zero_add, shape]))
  spans _ _ _ _ shape := (cut.spans_of_neighbours shape).1
  stop := ⟨tokens, rfl, cut.terminal_ne_stop⟩
  apart _ _ _ _ shape := (cut.spans_of_neighbours shape).2

end Cut

theorem Spans.cut {token next : Token} {before span behind : Text}
    (spans : Spans t token next before span behind)
    (rest : Cut (before.length + span.length) behind others) :
    Cut before.length (span ++ behind) (token :: others) := by
  obtain ⟨lexeme, pos⟩ := token
  obtain rfl : pos = before.length := spans.start
  rcases spans.spelled.cases_digits with ⟨c, rfl, made⟩ | ⟨rfl, filled, all⟩
  · exact .symbol made rest
  · exact .number filled all (spans.maximal ⟨_, rfl⟩).2 rest

/-- From each token on, what is left of the text is cut into what is left of the tokens. -/
theorem cut_from (cut : t.IsCutInto (tokens ++ [mark t.length])) {front back : List Token}
    (shape : tokens = front ++ back) {first : Token} {more : List Token}
    (here : back ++ [mark t.length] = first :: more) :
    ∃ place : Nat, first.pos = place ∧ Cut place (t.drop place) back := by
  induction back generalizing front first more with
  | nil =>
    obtain ⟨rfl, _⟩ := List.cons.inj here
    exact ⟨t.length, rfl, by rw [List.drop_length]; exact .done⟩
  | cons token back ih =>
    obtain ⟨rfl, _⟩ := List.cons.inj here
    obtain ⟨next, later, following⟩ : ∃ next later, back ++ [mark t.length] = next :: later :=
      List.exists_cons_of_ne_nil (by simp)
    have whole : tokens ++ [mark t.length] = front ++ token :: next :: later := by
      rw [shape, List.append_assoc, List.cons_append, following]
    obtain ⟨before, span, behind, spans⟩ := cut.spans _ _ _ _ whole
    have advanced : tokens = (front ++ [token]) ++ back := by simpa using shape
    obtain ⟨place, reached, rest⟩ := ih advanced following
    obtain rfl : place = before.length + span.length := by
      have same := reached.symm.trans spans.stop
      omega
    have left : t.drop before.length = span ++ behind := by rw [spans.whole, List.drop_left]
    have last : t.drop (before.length + span.length) = behind := by
      rw [← List.drop_drop, left, List.drop_left]
    rw [last] at rest
    exact ⟨before.length, spans.start, by rw [left]; exact spans.cut rest⟩

theorem exists_cut_of_isCutInto (cut : t.IsCutInto tokens) :
    ∃ others, Cut 0 t others ∧ tokens = others ++ [mark t.length] := by
  obtain ⟨others, rfl, _⟩ := cut.stop
  obtain ⟨first, more, shape⟩ : ∃ first more, others ++ [mark t.length] = first :: more :=
    List.exists_cons_of_ne_nil (by simp)
  obtain ⟨place, reached, whole⟩ := cut_from cut (List.nil_append others).symm shape
  have start := cut.start
  rw [shape] at start
  obtain rfl : place = 0 := by
    have zero : first.pos = 0 := Option.some.inj start
    omega
  exact ⟨others, whole, rfl⟩

/-- The first character outside the alphabet is the one that is reported. -/
theorem ofText_eq_error_iff {t : Text} {fault : Fault} :
    ofText t = .error fault ↔
      ∃ front c rest, t.withoutBlanks = front ++ c :: rest ∧
        (∀ other ∈ front, InAlphabet other) ∧ ¬ InAlphabet c ∧
        fault = .foreignCharacter c front.length := by
  simp only [← not_isForeign_iff_inAlphabet, not_not]
  constructor
  · intro refused
    rcases ofText_cases t with ⟨tokens, cut⟩ | ⟨front, c, rest, shape, known, foreign, other⟩
    · cases (ofText_eq_ok_iff.mpr ⟨tokens, cut, rfl⟩).symm.trans refused
    · exact ⟨front, c, rest, shape, known, foreign, Except.error.inj (refused.symm.trans other)⟩
  · rintro ⟨front, c, rest, shape, known, foreign, rfl⟩
    rw [ofText, shape, scanFrom_foreign known foreign, Nat.zero_add]

theorem ofText_eq_ok_iff_isCutInto {t : Text} :
    ofText t = .ok tokens ↔ t.withoutBlanks.IsCutInto tokens := by
  rw [ofText_eq_ok_iff]
  constructor
  · rintro ⟨others, cut, rfl⟩
    exact cut.isCutInto
  · exact exists_cut_of_isCutInto

end Token

/-- A text is cut into tokens unless a character is foreign to the alphabet, and then the first such
character is reported with its place. The tokens are those whose spans lie one behind the other
from the beginning of the text without blanks to its end. -/
theorem lexing_is_exact (t : Text) :
    ((∃ fault, Token.ofText t = .error fault) ↔ ∃ c ∈ t.withoutBlanks, ¬ InAlphabet c) ∧
      (∀ fault, Token.ofText t = .error fault ↔
        ∃ front c rest, t.withoutBlanks = front ++ c :: rest ∧
          (∀ other ∈ front, InAlphabet other) ∧ ¬ InAlphabet c ∧
          fault = .foreignCharacter c front.length) ∧
      ∀ tokens, Token.ofText t = .ok tokens ↔ t.withoutBlanks.IsCutInto tokens := by
  refine ⟨?_, fun fault => Token.ofText_eq_error_iff, fun tokens =>
    Token.ofText_eq_ok_iff_isCutInto⟩
  constructor
  · rintro ⟨fault, refused⟩
    obtain ⟨front, c, rest, shape, _, foreign, _⟩ := Token.ofText_eq_error_iff.mp refused
    exact ⟨c, by simp [shape], foreign⟩
  · rintro ⟨c, member, foreign⟩
    rcases Token.ofText_cases t with ⟨tokens, cut⟩ | ⟨front, other, rest, _, _, _, refused⟩
    · exact absurd (Token.not_isForeign_iff_inAlphabet.mp (cut.not_isForeign c member)) foreign
    · exact ⟨_, refused⟩

/-- The text `012 ×(7`, with a blank and with a zero that does not count. -/
def unclosedProduct : Text :=
  ['0', '1', '2', ' ', '×', '(', '7']

theorem unclosedProduct_isCutInto :
    unclosedProduct.withoutBlanks.IsCutInto [⟨.number 12, 0⟩, ⟨.operator (some ['*']), 3⟩,
        ⟨.opening (some ['(']), 4⟩, ⟨.number 7, 5⟩, Token.mark 6] ∧
      ∃ fault, Token.ofText (unclosedProduct ++ ['٣', '$']) = .error fault := by
  have foreign : ¬ InAlphabet '٣' := by decide
  exact ⟨((lexing_is_exact unclosedProduct).2.2 _).mp rfl,
    (lexing_is_exact (unclosedProduct ++ ['٣', '$'])).1.mpr ⟨'٣', by decide, foreign⟩⟩

end Reckoner
