import Reckoner.Text.CharRange

namespace Reckoner

/-- What is typed at the keypad or at the prompt, character by character. -/
abbrev Text := List Char

namespace Text

/-- White space beyond ASCII. -/
def wideBlanks : List CharRange :=
  [(0x85, 0x85), (0xA0, 0xA0), (0x1680, 0x1680), (0x2000, 0x200A), (0x2028, 0x2029),
    (0x202F, 0x202F), (0x205F, 0x205F), (0x3000, 0x3000)]

/-- White space, line ends and the separators of files, groups, records and units included. -/
def isBlank (c : Char) : Bool :=
  ('\t' ≤ c && c ≤ '\r') || ('\x1C' ≤ c && c ≤ ' ') ||
    ('\x80' ≤ c && wideBlanks.any (·.contains c))

def withoutBlanks (t : Text) : Text :=
  t.filter (!isBlank ·)

def trimStart (t : Text) : Text :=
  t.dropWhile isBlank

def trim (t : Text) : Text :=
  (trimStart (trimStart t).reverse).reverse

/-- A text of white space only. -/
def isAllBlank (t : Text) : Bool :=
  t.all isBlank

/-- The words of a text, `word` holding backwards what has been read of the current one. -/
def wordsFrom (word : Text) : Text → List Text
  | [] => if word.isEmpty then [] else [word.reverse]
  | c :: rest =>
    if isBlank c then
      if word.isEmpty then wordsFrom [] rest else word.reverse :: wordsFrom [] rest
    else wordsFrom (c :: word) rest

/-- The longest pieces without white space, in order. -/
def words (t : Text) : List Text :=
  wordsFrom [] t

theorem withoutBlanks_append (a b : Text) :
    withoutBlanks (a ++ b) = withoutBlanks a ++ withoutBlanks b :=
  List.filter_append ..

theorem isBlank_of_mem_withoutBlanks {t : Text} {c : Char} (member : c ∈ withoutBlanks t) :
    isBlank c = false := by
  simpa using (List.mem_filter.mp member).2

theorem withoutBlanks_idem (t : Text) : withoutBlanks (withoutBlanks t) = withoutBlanks t := by
  simp [withoutBlanks]

theorem withoutBlanks_eq_nil_iff {t : Text} : withoutBlanks t = [] ↔ isAllBlank t = true := by
  simp [withoutBlanks, isAllBlank]

theorem flatten_wordsFrom (word t : Text) :
    (wordsFrom word t).flatten = word.reverse ++ withoutBlanks t := by
  induction t generalizing word with
  | nil => cases word <;> simp [wordsFrom, withoutBlanks]
  | cons c rest ih =>
    by_cases blank : isBlank c = true
    · cases word <;> simp [wordsFrom, withoutBlanks, blank, ih]
    · simp [wordsFrom, withoutBlanks, blank, ih]

/-- No character is lost and none is added when a text is cut into words. -/
theorem flatten_words (t : Text) : (words t).flatten = withoutBlanks t := by
  simp [words, flatten_wordsFrom]

end Text

end Reckoner
