import Reckoner.Proofs.DescentScan

namespace Reckoner

open Evaluation

namespace Token

variable {token : Token}

theorem given_kind_name (token : Token) : token.given.kind.name = token.lexeme.className := by
  cases token with
  | mk lexeme pos => cases lexeme <;> rfl

theorem given_shown (token : Token) : token.given.content.shown = token.lexeme.shown := by
  cases token with
  | mk lexeme pos =>
    cases lexeme with
    | number => rfl
    | operator text | opening text | closing text | stop text | other _ text =>
      cases text <;> rfl

theorem given_isWritable (token : Token) :
    token.given.content.isWritable = token.lexeme.isWritable := by
  cases token with
  | mk lexeme pos =>
    cases lexeme with
    | number => rfl
    | operator text | opening text | closing text | stop text | other _ text =>
      cases text <;> rfl

theorem given_number {value : Int} :
    token.terminal = .number value ↔
      token.given.kind = .number ∧ token.given.content = .integer value := by
  cases token with
  | mk lexeme pos =>
    cases lexeme <;> grind [given, terminal, Lexeme.terminal, Lexeme.kind, Lexeme.content]

theorem given_opening : token.terminal = .opening ↔ token.given.kind = .opening := by
  cases token with
  | mk lexeme pos => cases lexeme <;> grind [given, terminal, Lexeme.terminal, Lexeme.kind]

theorem given_closing : token.terminal = .closing ↔ token.given.kind = .closing := by
  cases token with
  | mk lexeme pos => cases lexeme <;> grind [given, terminal, Lexeme.terminal, Lexeme.kind]

theorem given_stop : token.terminal = .stop ↔ token.given.kind = .stop := by
  cases token with
  | mk lexeme pos => cases lexeme <;> grind [given, terminal, Lexeme.terminal, Lexeme.kind]

theorem given_operator {op : Operator} :
    token.given.bare.terminal = .operator op ↔ token.terminal = .operator op := by
  cases token with
  | mk lexeme pos =>
    cases lexeme with
    | operator text => cases text <;> exact Iff.rfl
    | number | opening | closing | stop | other => exact ⟨nofun, nofun⟩

/-- A number of the lexer's holds an integer. -/
theorem exists_integer_given (number : token.given.kind = .number) :
    ∃ value, token.given.content = .integer value := by
  cases token with
  | mk lexeme pos => cases lexeme <;> grind [given, Lexeme.kind, Lexeme.content]

theorem not_isUnhashable_given (token : Token) : ¬ token.given.IsUnhashable := by
  cases token with
  | mk lexeme pos =>
    rintro ⟨kind, items, content⟩
    cases lexeme with
    | operator text => cases text <;> cases content
    | number | opening | closing | stop | other => cases kind

/-- The place of a token that is not too far out to be written. -/
def IsPlaced (token : Token) : Prop :=
  Numeral.isWritable token.pos = true

theorem given_operandExpected (placed : token.IsPlaced) :
    token.given.operandExpected = .ofFault (.operandExpected token) := by
  have message : Fault.operandMessage token.given.kind.name token.given.pos =
      (Fault.operandExpected token).message := by
    rw [given_kind_name]
    rfl
  exact (if_pos placed).trans (congrArg (Failure.reported .malformedExpression) message)

theorem given_closingExpected (placed : token.IsPlaced) :
    token.given.closingExpected = .ofFault (.closingExpected token) :=
  if_pos placed

theorem given_trailing (placed : token.IsPlaced) :
    token.given.trailing =
      .ofFault (if token.lexeme.isWritable then .trailing token else .unwritable) := by
  have place : Numeral.isWritable token.given.pos = true := placed
  rw [GivenToken.trailing, given_isWritable, place, Bool.and_true, given_shown]
  split <;> rfl

theorem getLast?_given (tokens : List Token) :
    (tokens.map given).getLast?.map (·.kind) = some .stop ↔ isTerminated tokens = true := by
  rw [List.getLast?_map, isTerminated]
  cases tokens.getLast? with
  | none => simp
  | some last => simp [← given_stop]

end Token

end Reckoner
