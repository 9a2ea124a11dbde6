import Reckoner.Text.Blank

namespace Reckoner.Numeral

/-- The most digits of a number that is read or written in one piece. -/
def pieceLimit : Nat := 4300

def blockSize : Nat := 4000

/-- The digits cut into blocks, `block` holding backwards what has been read of the current one
and `room` counting what it still takes. -/
def blocksFrom (block : Text) (room : Nat) : Text → List Text
  | [] => [block.reverse]
  | c :: rest =>
    match room with
    | 0 => block.reverse :: blocksFrom [c] (blockSize - 1) rest
    | room + 1 => blocksFrom (c :: block) room rest

/-- Blocks of the same size, but for a shorter one at the end. -/
def blocks (digits : Text) : List Text :=
  blocksFrom [] blockSize digits

def appendBlock (value : Nat) (block : Text) : Nat :=
  value * Nat.pow 10 block.length + Nat.ofDigitChars 10 block 0

/-- The number that decimal digits stand for; no digits stand for zero. -/
def ofDigits (digits : Text) : Nat :=
  (blocks digits).foldl appendBlock 0

/-- A number in decimal digits, the sign in front of a negative one. -/
def text (value : Int) : Text :=
  if value < 0 then '-' :: Nat.toDigits 10 value.natAbs else Nat.toDigits 10 value.natAbs

/-- Small enough to be written in one piece. The sign is not counted. -/
def isWritable (value : Int) : Bool :=
  value.natAbs < Nat.pow 10 pieceLimit

def text? (value : Int) : Option Text :=
  if isWritable value then some (text value) else none

/-- Whether a number fits a display of so many digits, the sign not counted. With fewer than no
digits only zero fits, and nothing does once the power of ten below which numbers fit is too small
to be told from zero. -/
def fits (value digits : Int) : Bool :=
  match digits with
  | .ofNat n => value.natAbs < Nat.pow 10 n
  | .negSucc _ => value == 0 && -323 ≤ digits

theorem appendBlock_eq (value : Nat) (block : Text) :
    appendBlock value block = Nat.ofDigitChars 10 block value := by
  rw [appendBlock, Nat.mul_comm, Nat.pow_eq, ← Nat.ofDigitChars_eq_ofDigitChars_zero]

theorem foldl_appendBlock_blocksFrom (block : Text) (room : Nat) (digits : Text) (value : Nat) :
    (blocksFrom block room digits).foldl appendBlock value =
      Nat.ofDigitChars 10 (block.reverse ++ digits) value := by
  induction digits generalizing block room value with
  | nil => simp [blocksFrom, appendBlock_eq]
  | cons c rest ih =>
    cases room with
    | zero => simp [blocksFrom, appendBlock_eq, ih, Nat.ofDigitChars_append]
    | succ room => simp [blocksFrom, ih]

/-- Cutting into blocks does not show in the value. -/
theorem ofDigits_eq (digits : Text) : ofDigits digits = Nat.ofDigitChars 10 digits 0 := by
  simp [ofDigits, blocks, foldl_appendBlock_blocksFrom]

theorem length_le_of_mem_blocksFrom {block digits piece : Text} {room : Nat}
    (whole : block.length + room = blockSize) (member : piece ∈ blocksFrom block room digits) :
    piece.length ≤ blockSize := by
  induction digits generalizing block room with
  | nil =>
    simp only [blocksFrom, List.mem_singleton] at member
    simp only [member, List.length_reverse]
    omega
  | cons c rest ih =>
    cases room with
    | zero =>
      rcases List.mem_cons.mp member with rfl | later
      · simp only [List.length_reverse]
        omega
      · exact ih (by simp [blockSize]) later
    | succ room => exact ih (by simp only [List.length_cons]; omega) member

end Reckoner.Numeral
