import Reckoner.Proofs.Cut
import Reckoner.Proofs.Grammar

namespace Reckoner

open Evaluation

namespace Formula

/-- Whether a left operand needs parentheses: a sum or difference under a product or quotient. -/
def needsWrapLeft : Operator → Formula → Bool
  | .multiplicative _, binary (.additive _) _ _ => true
  | _, _ => false

/-- Whether a right operand needs parentheses: a sum or difference under any operator, a product
or quotient under another one. -/
def needsWrapRight : Operator → Formula → Bool
  | _, binary (.additive _) _ _ => true
  | .multiplicative _, binary (.multiplicative _) _ _ => true
  | _, _ => false

/-- A formula, whether its text is wrapped in parentheses, and the text, without blanks. -/
inductive Written : Formula → Bool → Text → Prop
  | number {digits : Text} : digits ≠ [] → (∀ c ∈ digits, c.isDigit = true) →
      Written (.number (Nat.ofDigitChars 10 digits 0 : Nat)) false digits
  | wrap {formula : Formula} {wrapped : Bool} {t : Text} : Written formula wrapped t →
      Written formula true ('(' :: (t ++ [')']))
  | binary {op : Operator} {c : Char} {left right : Formula} {leftWrapped rightWrapped : Bool}
      {front back : Text} : Written left leftWrapped front →
      (needsWrapLeft op left = true → leftWrapped = true) → Operator.ofGlyph? c = some op →
      Written right rightWrapped back → (needsWrapRight op right = true → rightWrapped = true) →
      Written (.binary op left right) false (front ++ c :: back)

/-- The text that a number is read from may have leading zeros. -/
theorem Written.ofDigits {digits : Text} {value : Int} (filled : digits ≠ [])
    (all : digits.all Char.isDigit = true)
    (read : (Nat.ofDigitChars 10 digits 0 : Nat) = value) :
    Written (.number value) false digits := by
  rw [← read]
  exact .number filled (List.all_eq_true.mp all)

/-- The text renders the formula, with blanks anywhere. -/
def Renders (formula : Formula) (t : Text) : Prop :=
  ∃ wrapped, Written formula wrapped t.withoutBlanks

/-- Whether a rule can read a formula as it is written. -/
def Fits : Rule → Formula → Bool → Prop
  | .whole, _, _ | .expression, _, _ => True
  | .term, formula, wrapped => ∀ op left right,
    formula = binary (.additive op) left right → wrapped = true
  | .factor, formula, wrapped => ∀ op left right, formula = binary op left right → wrapped = true

/-- The rules that derive the operands of an operator. -/
def leftRule : Operator → Rule
  | .additive _ => .expression
  | .multiplicative _ => .term

def rightRule : Operator → Rule
  | .additive _ => .term
  | .multiplicative _ => .factor

theorem fits_left {op : Operator} {formula : Formula} {wrapped : Bool} :
    (needsWrapLeft op formula = true → wrapped = true) ↔ Fits (leftRule op) formula wrapped := by
  rcases op with op | op <;> rcases formula with value | ⟨other | other, left, right⟩ <;>
    simp [needsWrapLeft, leftRule, Fits]

theorem fits_right {op : Operator} {formula : Formula} {wrapped : Bool} :
    (needsWrapRight op formula = true → wrapped = true) ↔ Fits (rightRule op) formula wrapped := by
  rcases op with op | op <;> rcases formula with value | ⟨other | other, left, right⟩ <;>
    simp [needsWrapRight, rightRule, Fits]

/-- A written formula is cut into tokens that every rule fit for it derives. -/
theorem Written.exists_cut {formula : Formula} {wrapped : Bool} {t : Text}
    (written : Written formula wrapped t) (pos : Nat) :
    ∃ tokens, Token.Cut pos t tokens ∧
      ∀ rule, Fits rule formula wrapped → Derives rule tokens formula := by
  induction written generalizing pos with
  | @number digits filled all =>
    have cut : Token.Cut pos (digits ++ []) _ :=
      .number filled all (by simp [Token.NoDigitFirst]) .done
    rw [List.append_nil] at cut
    exact ⟨_, cut, fun rule _ => Derives.ofFactor (.number rfl) rule⟩
  | @wrap formula wrapped t _ ih =>
    obtain ⟨tokens, cut, derived⟩ := ih (pos + 1)
    have closing : Token.Cut (pos + 1 + t.length) [')'] _ := .symbol rfl .done
    refine ⟨_, .symbol rfl (cut.append (by simp [Token.NoDigitFirst]) closing), fun rule _ => ?_⟩
    exact Derives.ofFactor (.group rfl (derived .expression trivial) rfl) rule
  | @binary op c left right _ _ front back _ wrapsLeft glyph _ wrapsRight leftIh rightIh =>
    obtain ⟨before, leftCut, leftDerived⟩ := leftIh pos
    obtain ⟨after, rightCut, rightDerived⟩ := rightIh (pos + front.length + 1)
    have made : Lexeme.ofChar? c = some (.operator (some [op.glyph])) :=
      Lexeme.ofChar?_eq_some_iff.mpr (Or.inl ⟨op, glyph, rfl⟩)
    have apart : Token.NoDigitFirst (c :: back) := by
      simpa [Token.NoDigitFirst] using Operator.isDigit_of_ofGlyph? glyph
    refine ⟨_, leftCut.append apart (.symbol made rightCut), fun rule fits => ?_⟩
    have joined : (⟨.operator (some [op.glyph]), (pos + front.length : Nat)⟩ : Token).terminal =
        .operator op := by
      simp [Token.terminal, Lexeme.terminal, Operator.ofCanonical?_glyph]
    have leftFits := fits_left.mp wrapsLeft
    have rightFits := fits_right.mp wrapsRight
    cases op with
    | additive op =>
      have sum := Derives.sum (leftDerived _ leftFits) joined (rightDerived _ rightFits)
      cases rule with
      | whole => exact .whole sum
      | expression => exact sum
      | term | factor => exact absurd (fits _ _ _ rfl) (by simp)
    | multiplicative op =>
      have product := Derives.product (leftDerived _ leftFits) joined (rightDerived _ rightFits)
      cases rule with
      | whole => exact .whole (.term product)
      | expression => exact .term product
      | term => exact product
      | factor => exact absurd (fits _ _ _ rfl) (by simp)

/-- A text whose operands are written as their rules want them writes the whole formula. -/
theorem written_binary {op : Operator} {left right : Formula} {sign : Token}
    {before after : List Token} {pos : Nat} {t : Text}
    (cut : Token.Cut pos t (before ++ sign :: after)) (joined : sign.terminal = .operator op)
    (leftWritten : ∀ {pos t}, Token.Cut pos t before →
      ∃ wrapped, Written left wrapped t ∧ Fits (leftRule op) left wrapped)
    (rightWritten : ∀ {pos t}, Token.Cut pos t after →
      ∃ wrapped, Written right wrapped t ∧ Fits (rightRule op) right wrapped) :
    Written (.binary op left right) false t := by
  obtain ⟨front, c, back, rfl, leftCut, made, rightCut⟩ := cut.split (by simp [joined])
  obtain ⟨leftWrapped, leftShown, leftFits⟩ := leftWritten leftCut
  obtain ⟨rightWrapped, rightShown, rightFits⟩ := rightWritten rightCut
  have glyph := Lexeme.ofGlyph?_of_ofChar? made joined
  exact .binary leftShown (fits_left.mpr leftFits) glyph rightShown (fits_right.mpr rightFits)

/-- Derived tokens that a text is cut into show how the text writes the formula. -/
theorem exists_written {rule : Rule} {tokens : List Token} {formula : Formula}
    (derived : Derives rule tokens formula) {pos : Nat} {t : Text}
    (cut : Token.Cut pos t tokens) :
    ∃ wrapped, Written formula wrapped t ∧ Fits rule formula wrapped := by
  induction derived generalizing pos t with
  | @number token value terminal =>
    cases cut with
    | symbol made =>
      rcases Lexeme.terminal_of_ofChar? made with ⟨_, _, other⟩ | ⟨_, other⟩ | ⟨_, other⟩ <;>
        cases other.symm.trans terminal
    | number filled all _ rest =>
      cases rest
      cases terminal
      rw [List.append_nil]
      exact ⟨false, .number filled all, by simp [Fits]⟩
  | @group first last tokens formula opening _ closing ih =>
    cases cut with
    | number => cases opening
    | symbol made inner =>
      obtain ⟨front, c, back, rfl, before, found, after⟩ :=
        inner.split (by simp [closing])
      cases after
      obtain rfl := Lexeme.eq_opening_of_ofChar? made opening
      obtain rfl := Lexeme.eq_closing_of_ofChar? found closing
      obtain ⟨wrapped, written, _⟩ := ih before
      exact ⟨true, .wrap written, fun _ _ _ _ => rfl⟩
  | factor _ ih =>
    obtain ⟨wrapped, written, fits⟩ := ih cut
    exact ⟨wrapped, written, fun op left right shape => fits _ left right shape⟩
  | product _ joined _ leftIh rightIh =>
    refine ⟨false, written_binary cut joined leftIh rightIh, ?_⟩
    rintro _ _ _ ⟨⟩
  | term _ ih | whole _ ih =>
    obtain ⟨wrapped, written, _⟩ := ih cut
    exact ⟨wrapped, written, trivial⟩
  | sum _ joined _ leftIh rightIh =>
    exact ⟨false, written_binary cut joined leftIh rightIh, trivial⟩

end Formula

end Reckoner
