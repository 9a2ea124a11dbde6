import Reckoner.Operator
import Reckoner.Text.Blank

namespace Reckoner

/-- The words of an expression under their display glyphs, a single space between them. -/
def display (t : Text) : Text :=
  [' '].intercalate (Text.words (t.map displayGlyph))

end Reckoner
