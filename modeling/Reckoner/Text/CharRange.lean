namespace Reckoner.Text

/-- The code points from the first to the last, both included. -/
abbrev CharRange := Nat × Nat

def CharRange.contains (range : CharRange) (c : Char) : Bool :=
  range.1 ≤ c.toNat && c.toNat ≤ range.2

theorem CharRange.contains_iff {range : CharRange} {c : Char} :
    range.contains c = true ↔ range.1 ≤ c.toNat ∧ c.toNat ≤ range.2 := by
  simp [contains]

end Reckoner.Text
