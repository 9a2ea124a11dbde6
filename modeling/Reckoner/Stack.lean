namespace Reckoner

/-- What the interpreter's stack leaves to a parser. About a thousand calls may be open at once, and
a level of parentheses takes three, one for each rule of the grammar: there is always room for 300
levels and never for 400. How many they are depends on the calls that are open when the parser is
started, so every way into it comes with a stack of its own. -/
structure Stack where
  room : Nat
  ample : 300 ≤ room
  finite : room < 400

/-- The stack of a program that keeps calculating from its main loop. -/
def Stack.shallow : Stack where
  room := 329
  ample := by decide
  finite := by decide

end Reckoner
