import Reckoner.Token

namespace Reckoner

namespace Numeral

/-- The number of decimal digits; the sign is none. -/
def digitCount (value : Int) : Nat :=
  (text value.natAbs).length

theorem digitCount_le_iff {value : Int} {digits : Nat} (positive : 0 < digits) :
    digitCount value ≤ digits ↔ value.natAbs < Nat.pow 10 digits := by
  have unsigned : text value.natAbs = Nat.toDigits 10 value.natAbs := by
    rw [text, if_neg (by omega), Int.natAbs_natCast]
  rw [digitCount, unsigned]
  exact Nat.length_toDigits_le_iff (by decide) positive

theorem fits_iff {value : Int} {digits : Nat} (positive : 0 < digits) :
    fits value digits = true ↔ digitCount value ≤ digits := by
  rw [digitCount_le_iff positive]
  exact decide_eq_true_iff

theorem isWritable_iff {value : Int} : isWritable value = true ↔ digitCount value ≤ pieceLimit := by
  rw [digitCount_le_iff (by decide)]
  exact decide_eq_true_iff

/-- A single digit can always be written out. -/
theorem lt_pow_pieceLimit {n : Nat} (digit : n < 10) : n < Nat.pow 10 pieceLimit := by
  have room (digits : Nat) (positive : 0 < digits) : 10 ≤ Nat.pow 10 digits :=
    Nat.le_self_pow (Nat.ne_of_gt positive) 10
  exact Nat.lt_of_lt_of_le digit (room pieceLimit (by decide))

theorem text?_of_digitCount_le {value : Int} (few : digitCount value ≤ pieceLimit) :
    text? value = some (text value) := by
  rw [text?, if_pos (isWritable_iff.mpr few)]

theorem isDigit_of_mem_toDigits {n : Nat} : ∀ c ∈ Nat.toDigits 10 n, c.isDigit = true :=
  fun _ member => Nat.isDigit_of_mem_toDigits (by decide) (by decide) member

theorem text_of_nonneg {value : Int} (nonneg : 0 ≤ value) :
    text value = Nat.toDigits 10 value.natAbs := by
  rw [text, if_neg (by omega)]

theorem text_of_neg {value : Int} (negative : value < 0) :
    text value = '-' :: Nat.toDigits 10 value.natAbs := by
  rw [text, if_pos negative]

/-- A digit is the text of its value. -/
theorem toDigits_of_isDigit {c : Char} (digit : c.isDigit = true) :
    Nat.toDigits 10 (c.toNat - '0'.toNat) = [c] := by
  obtain ⟨low, high⟩ : 48 ≤ c.toNat ∧ c.toNat ≤ 57 := Char.isDigit_iff_toNat.mp digit
  have zero : '0'.toNat = 48 := rfl
  have small : c.toNat - '0'.toNat < 10 := by omega
  have named : ∀ n < 10, Nat.digitChar n = Char.ofNat (48 + n) := by decide
  have back : 48 + (c.toNat - '0'.toNat) = c.toNat := by omega
  rw [Nat.toDigits_of_lt_base small, named _ small, back, Char.ofNat_toNat]

/-- Digits behind a number that is not zero are kept when it is written out again. -/
theorem toDigits_ofDigitChars {digits : Text} {value : Nat} (positive : 0 < value)
    (all : ∀ c ∈ digits, c.isDigit = true) :
    Nat.toDigits 10 (Nat.ofDigitChars 10 digits value) = Nat.toDigits 10 value ++ digits := by
  induction digits generalizing value with
  | nil => simp
  | cons c digits ih =>
    have digit := all c (List.mem_cons_self ..)
    obtain ⟨low, high⟩ : 48 ≤ c.toNat ∧ c.toNat ≤ 57 := Char.isDigit_iff_toNat.mp digit
    have zero : '0'.toNat = 48 := rfl
    have longer := Nat.toDigits_append_toDigits (b := 10) (n := value)
      (d := c.toNat - '0'.toNat) (by decide) positive (by omega)
    rw [Nat.ofDigitChars_cons, ih (by omega) fun other member =>
      all other (List.mem_cons_of_mem _ member), ← longer, toDigits_of_isDigit digit,
      List.append_assoc, List.singleton_append]

/-- Only zeros in front are lost when digits are read and written again. -/
theorem toDigits_ofDigitChars_cons {c : Char} {digits : Text}
    (all : ∀ other ∈ c :: digits, other.isDigit = true) (counts : c ≠ '0') :
    Nat.toDigits 10 (Nat.ofDigitChars 10 (c :: digits) 0) = c :: digits := by
  have digit := all c (List.mem_cons_self ..)
  obtain ⟨low, high⟩ : 48 ≤ c.toNat ∧ c.toNat ≤ 57 := Char.isDigit_iff_toNat.mp digit
  have zero : '0'.toNat = 48 := rfl
  have notZero : c.toNat ≠ '0'.toNat := fun same => counts (Char.toNat_inj.mp same)
  rw [Nat.ofDigitChars_cons, toDigits_ofDigitChars (by omega) fun other member =>
    all other (List.mem_cons_of_mem _ member), Nat.mul_zero, Nat.zero_add,
    toDigits_of_isDigit digit, List.singleton_append]

end Numeral

/-- A number with more digits than can be written in one piece. -/
def Token.IsLongNumber (token : Token) : Prop :=
  ∃ value, token.lexeme = .number value ∧ Numeral.pieceLimit < Numeral.digitCount value

theorem Token.isLongNumber_iff {token : Token} :
    token.IsLongNumber ↔
      ∃ value, token.lexeme = .number value ∧ Nat.pow 10 Numeral.pieceLimit ≤ value.natAbs := by
  have size (value : Int) : Numeral.pieceLimit < Numeral.digitCount value ↔
      Nat.pow 10 Numeral.pieceLimit ≤ value.natAbs := by
    have limit : Numeral.digitCount value ≤ Numeral.pieceLimit ↔ _ :=
      Numeral.digitCount_le_iff (by decide)
    rw [← Nat.not_le, limit, Nat.not_lt]
  simp only [IsLongNumber, size]

theorem Token.IsLongNumber.terminal {token : Token} (long : token.IsLongNumber) :
    ∃ value, token.terminal = .number value := by
  obtain ⟨value, shape, _⟩ := long
  exact ⟨value, by simp [Token.terminal, shape, Lexeme.terminal]⟩

theorem Token.isWritable_eq_false_iff {token : Token} :
    token.lexeme.isWritable = false ↔ token.IsLongNumber := by
  constructor
  · intro long
    cases shape : token.lexeme with
    | number value =>
      rw [shape] at long
      have unwritable : ¬ Numeral.isWritable value = true := by simpa [Lexeme.isWritable] using long
      rw [Numeral.isWritable_iff] at unwritable
      exact ⟨value, shape, by omega⟩
    | operator | opening | closing | stop | other => simp [Lexeme.isWritable, shape] at long
  · rintro ⟨value, shape, long⟩
    rw [shape, Lexeme.isWritable, Bool.eq_false_iff, ne_eq, Numeral.isWritable_iff]
    omega

end Reckoner
