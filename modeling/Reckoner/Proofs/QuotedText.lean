import Reckoner.Text.Quoted

namespace Reckoner.Text

def hexDigitValue (digit : Char) : Nat :=
  if digit.isDigit then digit.toNat - '0'.toNat else digit.toNat - 'a'.toNat + 10

def hexValue (digits : Text) : Nat :=
  digits.foldl (fun value digit => 16 * value + hexDigitValue digit) 0

theorem hexDigitValue_digitChar : ∀ n < 16, hexDigitValue (Nat.digitChar n) = n := by
  decide

theorem hexValue_toDigits (n : Nat) : hexValue (Nat.toDigits 16 n) = n := by
  induction n using Nat.strongRecOn with
  | ind n ih =>
    by_cases single : n < 16
    · rw [Nat.toDigits_of_lt_base single]
      simp [hexValue, hexDigitValue_digitChar n single]
    · have earlier := ih (n / 16) (by omega)
      rw [hexValue] at earlier
      rw [Nat.toDigits_of_base_le (by decide) (by omega), hexValue, List.foldl_append, earlier,
        List.foldl_cons, List.foldl_nil, hexDigitValue_digitChar _ (Nat.mod_lt _ (by decide))]
      exact Nat.div_add_mod n 16

theorem hexValue_hexDigits (width n : Nat) : hexValue (hexDigits width n) = n := by
  have zeros (count : Nat) (t : Text) : hexValue (List.replicate count '0' ++ t) = hexValue t := by
    induction count with
    | zero => rfl
    | succ count ih => exact ih
  rw [hexDigits, List.leftpad, zeros, hexValue_toDigits]

theorem length_hexDigits {width n : Nat} (positive : 0 < width) (short : n < Nat.pow 16 width) :
    (hexDigits width n).length = width := by
  have few : (Nat.toDigits 16 n).length ≤ width :=
    (Nat.length_toDigits_le_iff (by decide) positive).mpr short
  rw [hexDigits, List.length_leftpad, Nat.max_eq_left few]

/-- The character that the first escape stands for, and what follows the escape. -/
def unescape? : Text → Option (Char × Text)
  | '\\' :: 'n' :: rest => some ('\n', rest)
  | '\\' :: 'r' :: rest => some ('\r', rest)
  | '\\' :: 't' :: rest => some ('\t', rest)
  | '\\' :: 'x' :: rest => some (Char.ofNat (hexValue (rest.take 2)), rest.drop 2)
  | '\\' :: 'u' :: rest => some (Char.ofNat (hexValue (rest.take 4)), rest.drop 4)
  | '\\' :: 'U' :: rest => some (Char.ofNat (hexValue (rest.take 8)), rest.drop 8)
  | '\\' :: c :: rest => some (c, rest)
  | c :: rest => some (c, rest)
  | [] => none

/-- A code point in digits of a fixed number is read back. -/
theorem hexDigits_split {width : Nat} {c : Char} (positive : 0 < width)
    (short : c.toNat < Nat.pow 16 width) (rest : Text) :
    Char.ofNat (hexValue ((hexDigits width c.toNat ++ rest).take width)) = c ∧
      (hexDigits width c.toNat ++ rest).drop width = rest := by
  have long := length_hexDigits positive short
  rw [List.take_left' long, List.drop_left' long, hexValue_hexDigits]
  exact ⟨Char.ofNat_toNat c, rfl⟩

/-- An escape is read back, whatever follows it. -/
theorem unescape?_escape {mark : Char} (quotes : mark = '\x27' ∨ mark = '"') (c : Char)
    (rest : Text) : unescape? (escape mark c ++ rest) = some (c, rest) := by
  have small : c.toNat < Nat.pow 16 8 := c.val.toNat_lt
  unfold escape
  split
  · rename_i named
    rcases named with rfl | rfl
    · rcases quotes with rfl | rfl <;> rfl
    · rfl
  · rename_i plain
    obtain ⟨-, noSlash⟩ := not_or.mp plain
    split
    · subst c
      rfl
    split
    · subst c
      rfl
    split
    · subst c
      rfl
    split
    · simp [unescape?, noSlash]
    -- What is left is written by its code point, in two, four or eight digits.
    split
    · obtain ⟨read, left⟩ := hexDigits_split (by decide : 0 < 2) ‹_› rest
      simp only [List.cons_append, unescape?, read, left]
    split
    · obtain ⟨read, left⟩ := hexDigits_split (by decide : 0 < 4) ‹_› rest
      simp only [List.cons_append, unescape?, read, left]
    · obtain ⟨read, left⟩ := hexDigits_split (by decide : 0 < 8) small rest
      simp only [List.cons_append, unescape?, read, left]

theorem flatMap_escape_injective {mark : Char} (quotes : mark = '\x27' ∨ mark = '"') {a b : Text}
    (same : a.flatMap (escape mark) = b.flatMap (escape mark)) : a = b := by
  induction a generalizing b with
  | nil =>
    cases b with
    | nil => rfl
    | cons d b =>
      have read := congrArg unescape? same
      rw [List.flatMap_cons, unescape?_escape quotes] at read
      cases read
  | cons c a ih =>
    have read := congrArg unescape? same
    rw [List.flatMap_cons, unescape?_escape quotes] at read
    cases b with
    | nil => cases read
    | cons d b =>
      rw [List.flatMap_cons, unescape?_escape quotes] at read
      obtain ⟨rfl, later⟩ := Prod.mk.inj (Option.some.inj read)
      rw [ih later]

theorem quotationMark_eq (t : Text) : quotationMark t = '\x27' ∨ quotationMark t = '"' := by
  unfold quotationMark
  split
  · exact Or.inr rfl
  · exact Or.inl rfl

/-- Texts that look the same in quotation marks are the same. -/
theorem quoted_injective {a b : Text} (same : quoted a = quoted b) : a = b := by
  have shape := String.ofList_injective same
  obtain ⟨mark, inner⟩ := List.cons.inj shape
  rw [mark] at inner
  exact flatMap_escape_injective (quotationMark_eq b) (List.append_cancel_right inner)

end Reckoner.Text
