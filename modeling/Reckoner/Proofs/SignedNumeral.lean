import Mathlib.Data.List.TakeWhile
import Mathlib.Data.Nat.Digits.Defs
import Reckoner.Numeral.Signed
import Reckoner.Proofs.DigitCount

namespace Reckoner

/-- A list without the items at its ends that have a property. -/
def stripped {α : Type} (p : α → Bool) (items : List α) : List α :=
  ((items.dropWhile p).reverse.dropWhile p).reverse

section Stripped

variable {α : Type} {p : α → Bool} {left core right : List α}

theorem exists_margins (p : α → Bool) (items : List α) :
    ∃ left right, items = left ++ stripped p items ++ right ∧ (∀ item ∈ left, p item = true) ∧
      ∀ item ∈ right, p item = true := by
  let rest := items.dropWhile p
  have front : items = items.takeWhile p ++ rest := List.takeWhile_append_dropWhile.symm
  have back : rest = stripped p items ++ (rest.reverse.takeWhile p).reverse := by
    rw [stripped, ← List.reverse_append, List.takeWhile_append_dropWhile, List.reverse_reverse]
  refine ⟨items.takeWhile p, (rest.reverse.takeWhile p).reverse, ?_, ?_, ?_⟩
  · rw [List.append_assoc, ← back]
    exact front
  · exact fun item member => List.mem_takeWhile_imp member
  · exact fun item member => List.mem_takeWhile_imp (List.mem_reverse.mp member)

/-- What stands between margins and neither begins nor ends with an item of theirs is left. -/
theorem stripped_eq_core {first last : α} {inner front : List α}
    (margin : ∀ item ∈ left, p item = true) (marginToo : ∀ item ∈ right, p item = true)
    (begins : core = first :: inner) (bare : p first = false)
    (ends : core = front ++ [last]) (bareToo : p last = false) :
    stripped p (left ++ core ++ right) = core := by
  have opened : (left ++ core ++ right).dropWhile p = core ++ right := by
    rw [List.append_assoc, List.dropWhile_append_of_pos margin, begins, List.cons_append,
      List.dropWhile_cons_of_neg (by simp [bare])]
  have closed : (core ++ right).reverse.dropWhile p = core.reverse := by
    rw [List.reverse_append,
      List.dropWhile_append_of_pos fun item member => marginToo item (List.mem_reverse.mp member),
      ends, List.reverse_append, List.reverse_singleton, List.singleton_append,
      List.dropWhile_cons_of_neg (by simp [bareToo])]
  rw [stripped, opened, closed, List.reverse_reverse]

end Stripped

namespace Text

theorem exists_zero_of_decimalDigit? {c : Char} {digit : Nat}
    (found : decimalDigit? c = some digit) :
    ∃ start ∈ zeros, digit < 10 ∧ c.toNat = start + digit := by
  obtain ⟨start, member, here⟩ := List.exists_of_findSome?_eq_some found
  obtain ⟨within, same⟩ := Option.ite_none_right_eq_some.mp here
  cases same
  exact ⟨start, member, by omega, by omega⟩

theorem isBlank_of_decimalDigit? {c : Char} {digit : Nat} (found : decimalDigit? c = some digit) :
    isBlank c = false := by
  obtain ⟨start, member, small, code⟩ := exists_zero_of_decimalDigit? found
  have all : ∀ start ∈ zeros, ∀ digit < 10, isBlank (Char.ofNat (start + digit)) = false := by
    decide +kernel
  rw [← Char.ofNat_toNat c, code]
  exact all start member digit small

end Text

namespace Numeral

open Text

/-- Digits of any script with their values, single underscores allowed between them. -/
inductive Digits : Text → List Nat → Prop
  | last {c : Char} {digit : Nat} : decimalDigit? c = some digit → Digits [c] [digit]
  | next {c : Char} {digit : Nat} {rest : Text} {digits : List Nat} :
      decimalDigit? c = some digit → Digits rest digits → Digits (c :: rest) (digit :: digits)
  | spaced {c : Char} {digit : Nat} {rest : Text} {digits : List Nat} :
      decimalDigit? c = some digit → Digits rest digits →
      Digits (c :: '_' :: rest) (digit :: digits)

/-- The number that has these digits. -/
def positional (digits : List Nat) : Nat :=
  Nat.ofDigits 10 digits.reverse

/-- An integer in its notation: a sign or none, and directly behind it no more digits than are read
in one piece. -/
inductive Spells : Text → Int → Prop
  | unsigned {t : Text} {digits : List Nat} : Digits t digits → digits.length ≤ 4300 →
      Spells t (positional digits)
  | plus {t : Text} {digits : List Nat} : Digits t digits → digits.length ≤ 4300 →
      Spells ('+' :: t) (positional digits)
  | minus {t : Text} {digits : List Nat} : Digits t digits → digits.length ≤ 4300 →
      Spells ('-' :: t) (-positional digits)

/-- What may stand behind a digit, with the values of the digits in it. -/
def GoesOn (rest : Text) (digits : List Nat) : Prop :=
  (rest = [] ∧ digits = []) ∨ Digits rest digits ∨
    ∃ later, rest = '_' :: later ∧ Digits later digits

theorem digits_cons_iff {c : Char} {rest : Text} {digits : List Nat} :
    Digits (c :: rest) digits ↔
      ∃ digit tail, decimalDigit? c = some digit ∧ GoesOn rest tail ∧ digits = digit :: tail := by
  constructor
  · intro read
    cases read with
    | last found => exact ⟨_, _, found, Or.inl ⟨rfl, rfl⟩, rfl⟩
    | next found later => exact ⟨_, _, found, Or.inr (Or.inl later), rfl⟩
    | spaced found later => exact ⟨_, _, found, Or.inr (Or.inr ⟨_, rfl, later⟩), rfl⟩
  · rintro ⟨digit, tail, found, ⟨rfl, rfl⟩ | later | ⟨later, rfl, read⟩, rfl⟩
    · exact .last found
    · exact .next found later
    · exact .spaced found read

theorem not_digits_underscore {rest : Text} {digits : List Nat} :
    ¬ Digits ('_' :: rest) digits := by
  intro read
  obtain ⟨digit, _, found, _⟩ := digits_cons_iff.mp read
  cases found

theorem digitValues?_cons {c : Char} (afterDigit : Bool) (rest : Text) (digits : List Nat)
    (other : c ≠ '_') :
    digitValues? afterDigit (c :: rest) = some digits ↔
      ∃ digit tail, decimalDigit? c = some digit ∧ digitValues? true rest = some tail ∧
        digits = digit :: tail := by
  rw [digitValues?, if_neg other]
  simp only [Option.bind_eq_bind, Option.bind_eq_some_iff, Option.pure_def, Option.some.injEq]
  constructor
  · rintro ⟨digit, found, tail, read, same⟩
    exact ⟨digit, tail, found, read, same.symm⟩
  · rintro ⟨digit, tail, found, read, same⟩
    exact ⟨digit, found, tail, read, same.symm⟩

theorem goesOn_underscore {rest : Text} {digits : List Nat} :
    GoesOn ('_' :: rest) digits ↔ Digits rest digits := by
  constructor
  · rintro (⟨absurd, _⟩ | read | ⟨later, same, read⟩)
    · cases absurd
    · exact absurd read not_digits_underscore
    · cases same
      exact read
  · exact fun read => Or.inr (Or.inr ⟨rest, rfl, read⟩)

theorem goesOn_cons {c : Char} {rest : Text} {digits : List Nat} (other : c ≠ '_') :
    GoesOn (c :: rest) digits ↔ Digits (c :: rest) digits := by
  constructor
  · rintro (⟨absurd, _⟩ | read | ⟨later, same, _⟩)
    · cases absurd
    · exact read
    · cases same
      exact absurd rfl other
  · exact fun read => Or.inr (Or.inl read)

/-- Digits are read in front and behind other digits, where underscores may stand as well. -/
theorem digitValues?_iff (t : Text) (digits : List Nat) :
    (digitValues? false t = some digits ↔ Digits t digits) ∧
      (digitValues? true t = some digits ↔ GoesOn t digits) := by
  -- Both at once: reading goes from one to the other at a digit, and back at an underscore.
  induction t generalizing digits with
  | nil =>
    constructor
    · constructor
      · intro read
        cases read
      · intro read
        cases read
    · constructor
      · intro read
        cases read
        exact Or.inl ⟨rfl, rfl⟩
      · rintro (⟨_, rfl⟩ | read | ⟨later, absurd, _⟩)
        · rfl
        · cases read
        · cases absurd
  | cons c rest ih =>
    by_cases underscore : c = '_'
    · subst underscore
      constructor
      · constructor
        · intro read
          cases read
        · intro read
          exact absurd read not_digits_underscore
      · rw [goesOn_underscore]
        exact (ih digits).1
    · have read (afterDigit : Bool) :
          digitValues? afterDigit (c :: rest) = some digits ↔ Digits (c :: rest) digits := by
        rw [digitValues?_cons afterDigit rest digits underscore, digits_cons_iff]
        simp only [(ih _).2]
      exact ⟨read false, (read true).trans (goesOn_cons underscore).symm⟩

theorem foldl_eq_positional (digits : List Nat) :
    digits.foldl (fun value digit => 10 * value + digit) 0 = positional digits := by
  rw [positional, Nat.ofDigits_eq_foldr, List.foldr_reverse]
  congr 1
  funext value digit
  rw [Nat.cast_id, Nat.add_comm]

theorem unsigned?_eq_some_iff {t : Text} {n : Nat} :
    unsigned? t = some n ↔
      ∃ digits, Digits t digits ∧ digits.length ≤ 4300 ∧ n = positional digits := by
  simp only [unsigned?, Option.bind_eq_bind, Option.bind_eq_some_iff, (digitValues?_iff t _).1,
    Option.ite_none_right_eq_some, Option.pure_def, Option.some.injEq, foldl_eq_positional]
  constructor
  · rintro ⟨digits, read, few, same⟩
    exact ⟨digits, read, few, same.symm⟩
  · rintro ⟨digits, read, few, same⟩
    exact ⟨digits, read, few, same.symm⟩

theorem Digits.lt_ten {t : Text} {digits : List Nat} (read : Digits t digits) :
    ∀ digit ∈ digits, digit < 10 := by
  induction read with
  | last found =>
    obtain ⟨_, _, small, _⟩ := exists_zero_of_decimalDigit? found
    simpa using small
  | next found _ ih | spaced found _ ih =>
    obtain ⟨_, _, small, _⟩ := exists_zero_of_decimalDigit? found
    exact List.forall_mem_cons.mpr ⟨small, ih⟩

theorem Digits.positional_lt {t : Text} {digits : List Nat} {limit : Nat} (read : Digits t digits)
    (few : digits.length ≤ limit) : positional digits < Nat.pow 10 limit := by
  have below : positional digits < Nat.pow 10 digits.reverse.length :=
    Nat.ofDigits_lt_base_pow_length (by decide) fun digit member =>
      read.lt_ten digit (List.mem_reverse.mp member)
  rw [List.length_reverse] at below
  exact Nat.lt_of_lt_of_le below (Nat.pow_le_pow_right (by decide) few)

/-- Digits begin and end with a digit, whatever stands between them. -/
theorem Digits.ends {t : Text} {digits : List Nat} (read : Digits t digits) :
    (∃ first inner, t = first :: inner ∧ (decimalDigit? first).isSome = true) ∧
      ∃ front last, t = front ++ [last] ∧ (decimalDigit? last).isSome = true := by
  induction read with
  | @last c _ found =>
    have digit : (decimalDigit? c).isSome = true := Option.isSome_of_eq_some found
    exact ⟨⟨c, [], rfl, digit⟩, [], c, rfl, digit⟩
  | @next c _ rest _ found _ ih =>
    obtain ⟨_, front, last, rfl, digit⟩ := ih
    exact ⟨⟨c, _, rfl, Option.isSome_of_eq_some found⟩, c :: front, last, rfl, digit⟩
  | @spaced c _ rest _ found _ ih =>
    obtain ⟨_, front, last, rfl, digit⟩ := ih
    exact ⟨⟨c, _, rfl, Option.isSome_of_eq_some found⟩, c :: '_' :: front, last, rfl, digit⟩

theorem isBlank_of_isMargin {c : Char} (margin : isMargin c = true) : isBlank c = true :=
  (Bool.and_eq_true_iff.mp margin).1

namespace Spells

variable {core : Text} {value : Int}

theorem ends (spelled : Spells core value) :
    (∃ first inner, core = first :: inner ∧ isBlank first = false) ∧
      ∃ front last, core = front ++ [last] ∧ isBlank last = false := by
  have bare {c : Char} (digit : (decimalDigit? c).isSome = true) : isBlank c = false := by
    obtain ⟨_, found⟩ := Option.isSome_iff_exists.mp digit
    exact isBlank_of_decimalDigit? found
  cases spelled with
  | unsigned read =>
    obtain ⟨⟨first, inner, begins, digit⟩, front, last, rfl, lastDigit⟩ := read.ends
    exact ⟨⟨first, inner, begins, bare digit⟩, front, last, rfl, bare lastDigit⟩
  | plus read | minus read =>
    obtain ⟨_, front, last, rfl, lastDigit⟩ := read.ends
    exact ⟨⟨_, _, rfl, by decide⟩, _ :: front, last, rfl, bare lastDigit⟩

theorem visible {left right : Text} (spelled : Spells core value) :
    isAllBlank (left ++ core ++ right) = false := by
  obtain ⟨⟨first, inner, rfl, bare⟩, _⟩ := spelled.ends
  simp [isAllBlank, bare]

/-- Blanks around an integer, of whatever kind, can be told from it. -/
theorem stripped_eq {p : Char → Bool} {left right : Text} (spelled : Spells core value)
    (blank : ∀ c, p c = true → isBlank c = true) (margin : ∀ c ∈ left, p c = true)
    (marginToo : ∀ c ∈ right, p c = true) : stripped p (left ++ core ++ right) = core := by
  have bare {c : Char} (inner : isBlank c = false) : p c = false := by
    cases outer : p c with
    | false => rfl
    | true => exact absurd (blank c outer) (by simp [inner])
  obtain ⟨⟨first, inner, begins, bareFirst⟩, front, last, ends, bareLast⟩ := spelled.ends
  exact stripped_eq_core margin marginToo begins (bare bareFirst) ends (bare bareLast)

theorem writable (spelled : Spells core value) : text? value = some (text value) := by
  have size : value.natAbs < Nat.pow 10 pieceLimit := by
    cases spelled with
    | unsigned read few | plus read few => exact read.positional_lt few
    | minus read few =>
      rw [Int.natAbs_neg]
      exact read.positional_lt few
  exact text?_of_digitCount_le ((digitCount_le_iff (by decide)).mpr size)

end Spells

theorem Digits.unsigned?_eq {t : Text} {digits : List Nat} (read : Digits t digits)
    (few : digits.length ≤ 4300) : unsigned? t = some (positional digits) :=
  unsigned?_eq_some_iff.mpr ⟨digits, read, few, rfl⟩

/-- Once nothing stands around it any more, an integer has to be all there is. -/
theorem signed?_of_stripped {t core : Text} {value : Int} (bare : stripped isMargin t = core) :
    signed? t = some value ↔ Spells core value := by
  have inner : ((t.dropWhile isMargin).reverse.dropWhile isMargin).reverse = core := bare
  simp only [signed?, inner]
  constructor
  · intro read
    split at read
    all_goals
      obtain ⟨_, found, rfl⟩ := Option.map_eq_some_iff.mp read
      obtain ⟨n, number, same⟩ := Option.bind_eq_some_iff.mp found
      obtain ⟨digits, spelled, few, rfl⟩ := unsigned?_eq_some_iff.mp number
      cases same
    · exact .minus spelled few
    · exact .plus spelled few
    · exact .unsigned spelled few
  · intro spelled
    cases spelled with
    | plus read few | minus read few => simp [read.unsigned?_eq few]
    | unsigned read few =>
      obtain ⟨first, _, rfl, digit⟩ := read.ends.1
      split
      · next same =>
        cases same
        exact absurd digit (by decide)
      · next same =>
        cases same
        exact absurd digit (by decide)
      · simp [read.unsigned?_eq few]

theorem signed?_eq_some_iff {t : Text} {value : Int} :
    signed? t = some value ↔
      ∃ left core right, t = left ++ core ++ right ∧ (∀ c ∈ left, isMargin c = true) ∧
        (∀ c ∈ right, isMargin c = true) ∧ Spells core value := by
  constructor
  · intro read
    obtain ⟨left, right, whole, margin, marginToo⟩ := exists_margins isMargin t
    exact ⟨left, _, right, whole, margin, marginToo, (signed?_of_stripped rfl).mp read⟩
  · rintro ⟨left, core, right, rfl, margin, marginToo, spelled⟩
    exact (signed?_of_stripped
      (spelled.stripped_eq (fun _ => isBlank_of_isMargin) margin marginToo)).mpr spelled

end Numeral

end Reckoner
