import Reckoner.Fault

namespace Reckoner

/-- The token of a single character, operators under their canonical glyph. -/
def Lexeme.ofChar? (c : Char) : Option Lexeme :=
  match Operator.ofGlyph? c with
  | some op => some (.operator (some [op.glyph]))
  | none =>
    if c = '(' then some (.opening (some ['(']))
    else if c = ')' then some (.closing (some [')']))
    else none

namespace Token

/-- The number whose digits end before `pos`, given backwards, if there are any. -/
def ofRun (run : Text) (pos : Nat) : List Token :=
  if run.isEmpty then []
  else [⟨.number (Numeral.ofDigits run.reverse), (pos - run.length : Nat)⟩]

/-- The tokens of a text without blanks from position `pos` on, `run` holding backwards the digits
that end there. -/
def scanFrom (run : Text) (pos : Nat) : Text → Except Fault (List Token)
  | [] => .ok (ofRun run pos ++ [⟨.stop none, pos⟩])
  | c :: rest =>
    if c.isDigit then scanFrom (c :: run) (pos + 1) rest
    else
      match Lexeme.ofChar? c with
      | some lexeme => do
        let tokens ← scanFrom [] (pos + 1) rest
        return ofRun run pos ++ ⟨lexeme, pos⟩ :: tokens
      | none => .error (.foreignCharacter c pos)

/-- The tokens of a text, the last one marking its end. -/
def ofText (t : Text) : Except Fault (List Token) :=
  scanFrom [] 0 t.withoutBlanks

end Token

end Reckoner
