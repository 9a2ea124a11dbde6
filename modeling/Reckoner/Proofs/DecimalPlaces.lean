import Reckoner.Proofs.SignedNumeral

namespace Reckoner.Numeral

/-- The value of a digit is its place among the ten. -/
def digitValue (c : Char) : Nat :=
  ['0', '1', '2', '3', '4', '5', '6', '7', '8', '9'].idxOf c

theorem digitValue_eq {c : Char} (digit : c.isDigit = true) :
    digitValue c = c.toNat - '0'.toNat := by
  obtain ⟨low, high⟩ : 48 ≤ c.toNat ∧ c.toNat ≤ 57 := Char.isDigit_iff_toNat.mp digit
  have zero : '0'.toNat = 48 := rfl
  have placed : ∀ n < 10, digitValue (Char.ofNat (48 + n)) = n := by decide
  have here := placed (c.toNat - '0'.toNat) (by omega)
  rwa [zero, Nat.add_sub_cancel' low, Char.ofNat_toNat] at here

theorem flatten_blocksFrom (block : Text) (room : Nat) (digits : Text) :
    (blocksFrom block room digits).flatten = block.reverse ++ digits := by
  induction digits generalizing block room with
  | nil => simp [blocksFrom]
  | cons c rest ih => cases room <;> simp [blocksFrom, ih]

theorem blocksFrom_ne_nil (block : Text) (room : Nat) (digits : Text) :
    blocksFrom block room digits ≠ [] := by
  induction digits generalizing block room with
  | nil => exact List.cons_ne_nil _ _
  | cons c rest ih =>
    cases room with
    | zero => exact List.cons_ne_nil _ _
    | succ room => exact ih (c :: block) room

/-- A block ends where it is full, but for the last one. -/
theorem length_of_mem_dropLast_blocksFrom {block digits piece : Text} {room : Nat}
    (whole : block.length + room = blockSize)
    (member : piece ∈ (blocksFrom block room digits).dropLast) : piece.length = blockSize := by
  induction digits generalizing block room with
  | nil => cases member
  | cons c rest ih =>
    cases room with
    | zero =>
      rw [blocksFrom, List.dropLast_cons_of_ne_nil (blocksFrom_ne_nil _ _ _)] at member
      rcases List.mem_cons.mp member with rfl | later
      · rw [List.length_reverse]
        exact whole
      · exact ih (by simp [blockSize]) later
    | succ room => exact ih (by simp only [List.length_cons]; omega) member

theorem isDigit_of_mem_zeros {count : Nat} :
    ∀ c ∈ List.replicate count '0', c.isDigit = true := by
  intro c member
  rw [List.eq_of_mem_replicate member]
  rfl

theorem ofDigits_eq_positional {digits : Text} (all : ∀ c ∈ digits, c.isDigit = true) :
    ofDigits digits = positional (digits.map digitValue) := by
  have same : digits.map digitValue = digits.map fun c => c.toNat - '0'.toNat :=
    List.map_congr_left fun c member => digitValue_eq (all c member)
  rw [ofDigits_eq, Nat.ofDigitChars_eq_foldl, ← foldl_eq_positional, same, List.foldl_map]

theorem ofDigits_append (front back : Text) :
    ofDigits (front ++ back) = ofDigits front * 10 ^ back.length + ofDigits back := by
  rw [ofDigits_eq, ofDigits_eq, ofDigits_eq, Nat.ofDigitChars_append,
    Nat.ofDigitChars_eq_ofDigitChars_zero (l := back), Nat.mul_comm]

theorem ofDigits_zeros (count : Nat) (digits : Text) :
    ofDigits (List.replicate count '0' ++ digits) = ofDigits digits := by
  rw [ofDigits_eq, ofDigits_eq, Nat.ofDigitChars_append, Nat.ofDigitChars_replicate_zero,
    Nat.mul_zero]

theorem ofDigits_text (n : Nat) : ofDigits (text n) = n := by
  rw [ofDigits_eq, text_of_nonneg (Int.natCast_nonneg n), Int.natAbs_natCast,
    Nat.ofDigitChars_ten_toDigits]

/-- Digits are read as the number that has them in its places, and no digits as zero. Digits that
stand behind others move them up by as many places, zeros in front change nothing, and the decimal
text of a number is read as that number. The blocks put together are the digits, all of them but the
last are full, and each is short enough to be read in one piece. -/
theorem blocks_leave_no_trace :
    (∀ digits : Text, (∀ c ∈ digits, c.isDigit = true) →
        ofDigits digits = positional (digits.map digitValue)) ∧
      ofDigits [] = 0 ∧
      (∀ front back : Text,
        ofDigits (front ++ back) = ofDigits front * 10 ^ back.length + ofDigits back) ∧
      (∀ count digits, ofDigits (List.replicate count '0' ++ digits) = ofDigits digits) ∧
      (∀ n : Nat, ofDigits (text n) = n) ∧
      ∀ digits : Text, (blocks digits).flatten = digits ∧
        (∀ block ∈ (blocks digits).dropLast, block.length = blockSize) ∧
        ∀ block ∈ blocks digits, block.length ≤ pieceLimit := by
  refine ⟨fun _ => ofDigits_eq_positional, rfl, ofDigits_append, ofDigits_zeros, ofDigits_text,
    fun digits => ⟨flatten_blocksFrom [] blockSize digits, ?_, ?_⟩⟩
  · exact fun block => length_of_mem_dropLast_blocksFrom (Nat.zero_add blockSize)
  · intro block member
    have short : block.length ≤ blockSize :=
      length_le_of_mem_blocksFrom (Nat.zero_add blockSize) member
    exact short.trans (by decide)

/-- A seven with zeros behind it that the first block has no room for. -/
def overfull : Text :=
  '7' :: List.replicate blockSize '0'

theorem overfull_leaves_no_trace :
    (∀ c ∈ overfull, c.isDigit = true) ∧
      ofDigits overfull = positional (overfull.map digitValue) ∧
      ofDigits overfull = 7 * 10 ^ blockSize := by
  have all : ∀ c ∈ overfull, c.isDigit = true :=
    List.forall_mem_cons.mpr ⟨rfl, isDigit_of_mem_zeros⟩
  obtain ⟨placed, none, apart, zeros, _⟩ := blocks_leave_no_trace
  have seven : ofDigits ['7'] = 7 := rfl
  have nothing : ofDigits (List.replicate blockSize '0') = 0 := by
    rw [← List.append_nil (List.replicate blockSize '0'), zeros, none]
  have whole : ofDigits overfull = _ := apart ['7'] (List.replicate blockSize '0')
  rw [List.length_replicate, seven, nothing, Nat.add_zero] at whole
  exact ⟨all, placed overfull all, whole⟩

/-- Without the zeros in front, digits are as many as those of their number. Zero has one all the
same. -/
theorem digitCount_ofDigits {digits : Text} (all : ∀ c ∈ digits, c.isDigit = true) :
    digitCount (ofDigits digits) = max 1 (digits.dropWhile (· == '0')).length := by
  induction digits with
  | nil => rfl
  | cons c rest ih =>
    by_cases zero : c = '0'
    · subst zero
      have same : ofDigits ('0' :: rest) = ofDigits rest := ofDigits_zeros 1 rest
      rw [same, List.dropWhile_cons_of_pos rfl]
      exact ih fun other member => all other (List.mem_cons_of_mem _ member)
    · have written : text (ofDigits (c :: rest)) = c :: rest := by
        rw [text_of_nonneg (Int.natCast_nonneg _), Int.natAbs_natCast, ofDigits_eq,
          toDigits_ofDigitChars_cons all zero]
      rw [List.dropWhile_cons_of_neg (by simpa using zero), digitCount, Int.natAbs_natCast, written,
        List.length_cons]
      omega

/-- With one digit or more, a number fits a display if its decimal text without the sign is no
longer than that. Digits that are read fit if those behind the zeros in front are no more. -/
theorem limit_counts_digits {limit : Int} (positive : 1 ≤ limit) :
    (∀ value, fits value limit = true ↔ ((text value.natAbs).length : Int) ≤ limit) ∧
      ∀ digits : Text, (∀ c ∈ digits, c.isDigit = true) →
        (fits (ofDigits digits) limit = true ↔
          ((digits.dropWhile (· == '0')).length : Int) ≤ limit) := by
  obtain ⟨room, rfl⟩ : ∃ room : Nat, limit = room := ⟨limit.toNat, by omega⟩
  have some_room : 0 < room := by omega
  have counted (value : Int) : fits value room = true ↔ digitCount value ≤ room :=
    fits_iff some_room
  refine ⟨fun value => ?_, fun digits all => ?_⟩
  · rw [counted, digitCount, Nat.cast_le]
  · rw [counted, digitCount_ofDigits all, Nat.cast_le]
    omega

/-- A zero, and the digits of the least number that is too long to be written in one piece. -/
def leastOverlong : Text :=
  '0' :: '1' :: List.replicate pieceLimit '0'

theorem leastOverlong_counted :
    ((1 : Int) ≤ pieceLimit ∧ (1 : Int) ≤ pieceLimit + 1) ∧
      (∀ c ∈ leastOverlong, c.isDigit = true) ∧
      ¬ fits (ofDigits leastOverlong) pieceLimit = true ∧
      fits (ofDigits leastOverlong) (pieceLimit + 1) = true ∧
      ¬ fits (-1000) 3 = true ∧ fits (-999) 3 = true := by
  have all : ∀ c ∈ leastOverlong, c.isDigit = true :=
    List.forall_mem_cons.mpr ⟨rfl, List.forall_mem_cons.mpr ⟨rfl, isDigit_of_mem_zeros⟩⟩
  have counted : ((leastOverlong.dropWhile (· == '0')).length : Int) = pieceLimit + 1 := by
    simp [leastOverlong]
  have positive : (1 : Int) ≤ pieceLimit := by decide
  have longer : (1 : Int) ≤ pieceLimit + 1 := by decide
  refine ⟨⟨positive, longer⟩, all, ?_, ?_, ?_, ?_⟩
  · rw [(limit_counts_digits positive).2 leastOverlong all, counted]
    omega
  · rw [(limit_counts_digits longer).2 leastOverlong all, counted]
  · rw [(limit_counts_digits (by decide)).1 (-1000)]
    decide
  · rw [(limit_counts_digits (by decide)).1 (-999)]
    decide

end Reckoner.Numeral
