import Mathlib.Algebra.Ring.Int.Defs
import Reckoner.Proofs.DecimalPlaces
import Reckoner.Proofs.RenderedTokens

namespace Reckoner

/-- The digits that a text begins with, white space left out. -/
def Text.leadingDigits (t : Text) : Text :=
  t.withoutBlanks.takeWhile Char.isDigit

namespace Token

/-- Tokens put behind others and moved on in the text. If a number ends the front and a number of
so many digits begins the back, they become one. -/
def link (distance digits : Nat) (front back : List Token) : List Token :=
  match front.getLast?, back with
  | some ⟨.number left, pos⟩, ⟨.number right, _⟩ :: rest =>
    front.dropLast ++ ⟨.number (left * 10 ^ digits + right), pos⟩ :: rest.map (·.shift distance)
  | _, _ => front ++ back.map (·.shift distance)

section Link

variable {distance digits : Nat} {init rest front back : List Token} {left right pos place : Int}

theorem link_numbers :
    link distance digits (init ++ [⟨.number left, pos⟩]) (⟨.number right, place⟩ :: rest) =
      init ++ ⟨.number (left * 10 ^ digits + right), pos⟩ :: rest.map (·.shift distance) := by
  simp [link]

/-- Numbers stand on both sides of the border. -/
def NumbersMeet (front back : List Token) : Prop :=
  ∃ init left pos right place rest,
    front = init ++ [⟨.number left, pos⟩] ∧ back = ⟨.number right, place⟩ :: rest

theorem link_apart (apart : ¬ NumbersMeet front back) :
    link distance digits front back = front ++ back.map (·.shift distance) := by
  unfold link
  split
  · rename_i left pos right place rest last
    obtain ⟨init, rfl⟩ := List.getLast?_eq_some_iff.mp last
    exact absurd ⟨init, left, pos, right, place, rest, rfl, rfl⟩ apart
  · rfl

/-- The mark is no number. -/
theorem numbersMeet_mark {final : Nat} :
    NumbersMeet front (back ++ [mark final]) ↔ NumbersMeet front back := by
  constructor
  · rintro ⟨init, left, pos, right, place, rest, rfl, shape⟩
    cases back with
    | nil => cases shape
    | cons first back =>
      obtain ⟨rfl, -⟩ := List.cons.inj shape
      exact ⟨init, left, pos, right, place, back, rfl, rfl⟩
  · rintro ⟨init, left, pos, right, place, rest, rfl, rfl⟩
    exact ⟨init, left, pos, right, place, rest ++ [mark final], rfl, rfl⟩

theorem link_mark (front back : List Token) (final : Nat) :
    link distance digits front (back ++ [mark final]) =
      link distance digits front back ++ [mark (final + distance)] := by
  by_cases meet : NumbersMeet front back
  · obtain ⟨init, left, pos, right, place, rest, rfl, rfl⟩ := meet
    rw [List.cons_append, link_numbers, link_numbers, List.map_append, List.map_singleton,
      shift_mark, List.append_assoc, List.cons_append]
  · rw [link_apart meet, link_apart (mt numbersMeet_mark.mp meet), List.map_append,
      List.map_singleton, shift_mark, List.append_assoc]

end Link

theorem takeWhile_run {run rest : Text} (ends : NoDigitFirst rest)
    (all : ∀ c ∈ run, c.isDigit = true) : (run ++ rest).takeWhile Char.isDigit = run := by
  rw [List.takeWhile_append_of_pos all]
  cases rest with
  | nil => exact List.append_nil run
  | cons c rest => rw [List.takeWhile_cons_of_neg (by simp [ends c rfl]), List.append_nil]

theorem NoDigitFirst.append {t : Text} (first : NoDigitFirst t) (filled : t ≠ []) (back : Text) :
    NoDigitFirst (t ++ back) := by
  rw [NoDigitFirst, List.head?_append_of_ne_nil _ filled]
  exact first

namespace Cut

variable {pos : Nat} {t front back : Text} {tokens others : List Token}

theorem text_eq_nil (cut : Cut pos t []) : t = [] := by
  cases cut
  rfl

/-- A number that goes first is a run of digits that no digit follows. -/
theorem exists_run {value place : Int} (cut : Cut pos t (⟨.number value, place⟩ :: others)) :
    ∃ run rest, t = run ++ rest ∧ run ≠ [] ∧ (∀ c ∈ run, c.isDigit = true) ∧ NoDigitFirst rest ∧
      value = (Nat.ofDigitChars 10 run 0 : Nat) ∧ place = pos ∧
      Cut (pos + run.length) rest others := by
  cases cut with
  | symbol made => exact absurd ⟨value, rfl⟩ (@not_isNumber_of_ofChar? _ ⟨_, pos⟩ made)
  | number filled all ends cut => exact ⟨_, _, rfl, filled, all, ends, rfl, rfl, cut⟩

/-- A text that ends with a digit ends with a number. -/
theorem exists_last_number (cut : Cut pos t tokens) {c : Char} (last : t.getLast? = some c)
    (digit : c.isDigit = true) : ∃ init left place, tokens = init ++ [⟨.number left, place⟩] := by
  induction cut with
  | done => cases last
  | @symbol pos first lexeme rest tokens made cut ih =>
    cases rest with
    | nil =>
      obtain rfl : first = c := by simpa using last
      exact absurd digit (by simp [Lexeme.isDigit_of_ofChar? made])
    | cons =>
      obtain ⟨init, left, place, rfl⟩ := ih (by simpa using last)
      exact ⟨_ :: init, left, place, rfl⟩
  | @number pos digits rest tokens filled all ends cut ih =>
    cases rest with
    | nil =>
      rw [cut.eq_nil]
      exact ⟨[], _, _, rfl⟩
    | cons =>
      obtain ⟨init, left, place, rfl⟩ := ih (by simpa using last)
      exact ⟨_ :: init, left, place, rfl⟩

/-- A text that begins with a digit begins with a number. -/
theorem exists_first_number (cut : Cut pos t tokens) {c : Char} (first : t.head? = some c)
    (digit : c.isDigit = true) : ∃ right place rest, tokens = ⟨.number right, place⟩ :: rest := by
  cases cut with
  | done => cases first
  | symbol made =>
    obtain rfl := Option.some.inj first
    exact absurd digit (by simp [Lexeme.isDigit_of_ofChar? made])
  | number => exact ⟨_, _, _, rfl⟩

/-- Unless numbers meet at the border, no run of digits is torn apart there. -/
theorem apart_of_not_numbersMeet (before : Cut pos front tokens) (after : Cut pos back others)
    (apart : ¬ NumbersMeet tokens others) :
    ∀ c ∈ front.getLast?, c.isDigit = true → NoDigitFirst back := by
  intro c last digit next first
  by_contra nextDigit
  obtain ⟨init, left, leftPos, rfl⟩ := before.exists_last_number last digit
  obtain ⟨right, rightPos, rest, rfl⟩ := after.exists_first_number first (by simpa using nextDigit)
  exact apart ⟨init, left, leftPos, right, rightPos, rest, rfl, rfl⟩

/-- Digits behind others count as the lower places. -/
theorem ofDigitChars_append_run (left right : Text) :
    ((Nat.ofDigitChars 10 (left ++ right) 0 : Nat) : Int) =
      (Nat.ofDigitChars 10 left 0 : Nat) * 10 ^ right.length +
        (Nat.ofDigitChars 10 right 0 : Nat) := by
  have whole := Numeral.ofDigits_append left right
  simp only [Numeral.ofDigits_eq] at whole
  rw [whole, Int.natCast_add, Int.natCast_mul, Int.natCast_pow]
  rfl

/-- Runs of digits that meet at the border become one run. -/
theorem link_runs {init rest : List Token} {left leftPos right rightPos : Int}
    (before : Cut 0 front (init ++ [⟨.number left, leftPos⟩]))
    (after : Cut 0 back (⟨.number right, rightPos⟩ :: rest)) :
    Cut 0 (front ++ back)
      (init ++ ⟨.number (left * 10 ^ (back.takeWhile Char.isDigit).length + right), leftPos⟩ ::
        rest.map (·.shift front.length)) := by
  obtain ⟨start, _, rfl, initial, untorn, ending⟩ := before.exists_parts
  obtain ⟨leftRun, _, rfl, leftFilled, leftDigits, -, rfl, rfl, final⟩ := ending.exists_run
  obtain ⟨rightRun, behind, rfl, -, rightDigits, ends, rfl, -, later⟩ := after.exists_run
  -- Nothing is left behind the run that ends the first text, so the other run goes on in it.
  obtain rfl := final.text_eq_nil
  rw [List.append_nil] at untorn
  have both : ∀ c ∈ leftRun ++ rightRun, c.isDigit = true := by
    simpa only [List.forall_mem_append] using And.intro leftDigits rightDigits
  have filled : leftRun ++ rightRun ≠ [] := by simp [leftFilled]
  have moved := later.shift (start ++ leftRun).length
  have places : 0 + rightRun.length + (start ++ leftRun).length =
      0 + start.length + (leftRun ++ rightRun).length := by
    simp only [List.length_append]
    omega
  rw [places] at moved
  have border (c : Char) (last : c ∈ start.getLast?) (digit : c.isDigit = true) :
      NoDigitFirst ((leftRun ++ rightRun) ++ behind) :=
    ((untorn c last digit).append leftFilled rightRun).append filled behind
  have joined := initial.join border (.number filled both ends moved)
  rw [takeWhile_run ends rightDigits, ← ofDigitChars_append_run]
  simpa only [List.append_nil, List.append_assoc] using joined

/-- Texts that are put together are cut like the parts, numbers at the border apart. -/
theorem link (before : Cut 0 front tokens) (after : Cut 0 back others) :
    Cut 0 (front ++ back)
      (Token.link front.length (back.takeWhile Char.isDigit).length tokens others) := by
  by_cases meet : NumbersMeet tokens others
  · obtain ⟨init, left, leftPos, right, rightPos, rest, rfl, rfl⟩ := meet
    rw [link_numbers]
    exact before.link_runs after
  · rw [link_apart meet]
    exact before.join (before.apart_of_not_numbersMeet after meet) (after.shift front.length)

end Cut

end Token

/-- Of two texts put together, the tokens of the first are followed by those of the second, which
are moved on by its length without white space. Only where a number ends the first and a number
begins the second, they become one, with all the digits that begin the second as its lower places.
A foreign character is reported at its place, the first text before the second. -/
theorem lexing_of_joined_texts (a b : Text) :
    (∀ front back, Token.ofText a = .ok front → Token.ofText b = .ok back →
        Token.ofText (a ++ b) =
          .ok (Token.link a.withoutBlanks.length b.leadingDigits.length
            (Token.beforeStop front) back)) ∧
      (∀ fault, Token.ofText a = .error fault → Token.ofText (a ++ b) = .error fault) ∧
      ∀ front fault, Token.ofText a = .ok front → Token.ofText b = .error fault →
        ∃ c place, fault = .foreignCharacter c place ∧
          Token.ofText (a ++ b) =
            .error (.foreignCharacter c (a.withoutBlanks.length + place)) := by
  have whole : (a ++ b).withoutBlanks = a.withoutBlanks ++ b.withoutBlanks := List.filter_append ..
  refine ⟨?_, ?_, ?_⟩
  · intro front back first second
    obtain ⟨tokens, before, rfl⟩ := Token.ofText_eq_ok_iff.mp first
    obtain ⟨others, after, rfl⟩ := Token.ofText_eq_ok_iff.mp second
    rw [Token.beforeStop_marked before.terminal_ne_stop, Token.link_mark, Nat.add_comm,
      ← List.length_append, ← whole]
    exact Token.ofText_eq_ok_iff.mpr ⟨_, by rw [whole]; exact before.link after, rfl⟩
  · intro fault first
    obtain ⟨front, c, rest, shape, known, foreign, rfl⟩ := Token.ofText_eq_error_iff.mp first
    exact Token.ofText_eq_error_iff.mpr
      ⟨front, c, rest ++ b.withoutBlanks, by simp [whole, shape], known, foreign, rfl⟩
  · intro tokens fault first second
    obtain ⟨others, before, rfl⟩ := Token.ofText_eq_ok_iff.mp first
    obtain ⟨front, c, rest, shape, known, foreign, rfl⟩ := Token.ofText_eq_error_iff.mp second
    have allKnown : ∀ other ∈ a.withoutBlanks ++ front, InAlphabet other := by
      intro other member
      rcases List.mem_append.mp member with inFirst | inSecond
      · exact Token.not_isForeign_iff_inAlphabet.mp (before.not_isForeign other inFirst)
      · exact known other inSecond
    refine ⟨c, front.length, rfl, Token.ofText_eq_error_iff.mpr
      ⟨a.withoutBlanks ++ front, c, rest, by simp [whole, shape], allKnown, foreign, ?_⟩⟩
    rw [List.length_append]

/-- The texts `1 2` and ` 0 07+3`, whose digits run on across the border. -/
theorem numbersAcross_joined :
    Token.ofText (['1', ' ', '2'] ++ [' ', '0', ' ', '0', '7', '+', '3']) =
        .ok [⟨.number 12007, 0⟩, ⟨.operator (some ['+']), 5⟩, ⟨.number 3, 6⟩, Token.mark 7] ∧
      Token.ofText (['$', '1'] ++ ['2']) = .error (.foreignCharacter '$' 0) ∧
      Token.ofText (['1', ' ', '2'] ++ ['(', '$']) = .error (.foreignCharacter '$' 3) := by
  refine ⟨?_, (lexing_of_joined_texts ['$', '1'] ['2']).2.1 _ rfl, ?_⟩
  · exact (lexing_of_joined_texts ['1', ' ', '2'] [' ', '0', ' ', '0', '7', '+', '3']).1 _ _ rfl rfl
  · obtain ⟨c, place, shape, refused⟩ :=
      (lexing_of_joined_texts ['1', ' ', '2'] ['(', '$']).2.2 _ _ rfl rfl
    cases shape
    exact refused

end Reckoner
