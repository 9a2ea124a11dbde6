import Reckoner.Proofs.Descends
import Reckoner.Proofs.FlatScan
import Reckoner.Proofs.GivenContent

namespace Reckoner

namespace GivenToken

/-- A token as the grammar tells it apart: of the contents only that of an operator counts. -/
def bare (token : GivenToken) : Token where
  lexeme := match token.kind with
    | .number => .number 0
    | .operator => .operator token.content.text?
    | .opening => .opening none
    | .closing => .closing none
    | .stop => .stop none
    | .other name => .other name none
  pos := token.pos

/-- An operator token that cannot be looked up. -/
def IsUnhashable (token : GivenToken) : Prop :=
  token.kind = .operator ∧ ∃ items, token.content = .list items

variable {token : GivenToken} {depth : Nat}

theorem terminal_of_stop (stop : token.kind = .stop) : token.bare.terminal = .stop := by
  simp only [Token.terminal, bare, stop, Lexeme.terminal]

/-- What becomes of a token in front of which an operand is expected. -/
theorem step_expecting (token : GivenToken) (depth : Nat) :
    Flat.step token.bare (.expecting depth) =
      match token.kind with
      | .number => .read (.holding depth)
      | .opening => .read (.expecting (depth + 1))
      | _ => .settle (.rejected depth .malformedExpression) := by
  cases kind : token.kind with
  | operator =>
    cases named : token.content.text?.bind Operator.ofCanonical? <;>
      simp [Flat.step, Token.terminal, bare, kind, Lexeme.terminal, named]
  | number | opening | closing | stop | other =>
    simp [Flat.step, Token.terminal, bare, kind, Lexeme.terminal]

/-- What becomes of a token that is no operator behind an operand. -/
theorem step_holding (noOperator : ∀ op, token.bare.terminal ≠ .operator op) (depth : Nat) :
    Flat.step token.bare (.holding depth) =
      match token.kind, depth with
      | .closing, depth + 1 => .read (.holding depth)
      | .stop, 0 => .settle .accepted
      | _, 0 => .settle (.rejected 0 .malformedExpression)
      | _, depth + 1 => .settle (.rejected (depth + 1) .unmatchedParenthesis) := by
  cases kind : token.kind with
  | operator =>
    cases named : token.content.text?.bind Operator.ofCanonical? with
    | some op =>
      exact absurd (by simp [Token.terminal, bare, kind, Lexeme.terminal, named]) (noOperator op)
    | none => cases depth <;> simp [Flat.step, Token.terminal, bare, kind, Lexeme.terminal, named]
  | number | opening | closing | stop | other =>
    cases depth <;> simp [Flat.step, Token.terminal, bare, kind, Lexeme.terminal]

theorem step_operator {op : Operator} (operator : token.bare.terminal = .operator op) :
    Flat.step token.bare (.holding depth) = .read (.expecting depth) := by
  simp only [Flat.step, operator]

end GivenToken

namespace Descent

/-- The ways in which a token can be looked up among the operators of a tier. -/
inductive Lookup (tier : Tier) (token : GivenToken) : Except Failure (Option Operator) → Prop
  | operator {op : Operator} : token.bare.terminal = .operator op → tier.takes op = true →
      Lookup tier token (.ok (some op))
  | other : (∀ op, token.bare.terminal = .operator op → tier.takes op = false) →
      ¬ token.IsUnhashable → Lookup tier token (.ok none)
  | unhashable : token.IsUnhashable → Lookup tier token (.error .unhashable)

theorem lookup_operator? (tier : Tier) (token : GivenToken) :
    Lookup tier token (operator? tier token) := by
  have plain (noText : token.content.text? = none) (op : Operator) :
      token.bare.terminal ≠ .operator op := by
    cases kind : token.kind <;>
      simp [Token.terminal, GivenToken.bare, Lexeme.terminal, kind, noText]
  by_cases kind : token.kind = .operator
  · rw [operator?, if_pos kind]
    cases content : token.content with
    | nothing | integer =>
      refine .other (fun op named => ?_) fun ⟨_, _, listed⟩ => by cases content.symm.trans listed
      exact absurd named (plain (by rw [content]; rfl) op)
    | list items => exact .unhashable ⟨kind, items, content⟩
    | text t =>
      have hashable : ¬ token.IsUnhashable := fun ⟨_, _, listed⟩ => by
        cases content.symm.trans listed
      have terminal : token.bare.terminal = (Lexeme.operator (some t)).terminal := by
        simp only [Token.terminal, GivenToken.bare, kind, content, Content.text?]
      have looked : (do return (← (Content.text t).operator?).filter tier.takes) =
          (Except.ok ((Operator.ofCanonical? t).filter tier.takes) : Except Failure _) := rfl
      rw [looked]
      cases named : Operator.ofCanonical? t with
      | none =>
        refine .other (fun op known => ?_) hashable
        simp [terminal, Lexeme.terminal, named] at known
      | some op =>
        have known : token.bare.terminal = .operator op := by
          simp [terminal, Lexeme.terminal, named]
        cases takes : tier.takes op with
        | true =>
          rw [Option.filter_some, if_pos takes]
          exact .operator known takes
        | false =>
          rw [Option.filter_some, if_neg (by simp [takes])]
          refine .other (fun other also => ?_) hashable
          cases known.symm.trans also
          exact takes
  · rw [operator?, if_neg kind]
    refine .other (fun op named => ?_) fun unhashable => kind unhashable.1
    cases other : token.kind with
    | operator => exact absurd other kind
    | number | opening | closing | stop | other =>
      simp [Token.terminal, GivenToken.bare, Lexeme.terminal, other] at named

theorem lookup_of_eq {tier : Tier} {token : GivenToken} {found : Except Failure (Option Operator)}
    (known : operator? tier token = found) : Lookup tier token found :=
  known ▸ lookup_operator? tier token

/-- The scan gets from a state at one place to a state at another and reads what is in between. -/
def Passes (tokens : List GivenToken) (state : Flat.State) (cursor : Nat) (next : Flat.State)
    (place : Nat) : Prop :=
  ∃ part, tokens.drop cursor = part ++ tokens.drop place ∧ place = cursor + part.length ∧
    Flat.readAll? state (part.map GivenToken.bare) = some next

variable {tokens : List GivenToken} {tier : Tier} {goal : Goal}
  {room depth limit cursor mid place : Nat} {result : Except Failure Content} {token : GivenToken}
  {state between next : Flat.State}

theorem Passes.refl (state : Flat.State) (place : Nat) : Passes tokens state place state place :=
  ⟨[], rfl, rfl, rfl⟩

theorem Passes.of_read (found : tokens[cursor]? = some token)
    (read : Flat.step token.bare state = .read next) :
    Passes tokens state cursor next (cursor + 1) := by
  obtain ⟨within, same⟩ := List.getElem?_eq_some_iff.mp found
  refine ⟨[token], ?_, rfl, by simp only [List.map_singleton, Flat.readAll?, read]⟩
  rw [List.drop_eq_getElem_cons within, same]
  rfl

theorem Passes.trans (first : Passes tokens state cursor between mid)
    (second : Passes tokens between mid next place) : Passes tokens state cursor next place := by
  obtain ⟨front, shape, rfl, read⟩ := first
  obtain ⟨back, shapeToo, rfl, readToo⟩ := second
  refine ⟨front ++ back, ?_, ?_, ?_⟩
  · rw [shape, shapeToo, List.append_assoc]
  · rw [List.length_append, Nat.add_assoc]
  · rw [List.map_append, Flat.readAll?_append, read, Option.bind_some, readToo]

/-- The state of the scan where a goal begins inside so many parentheses. -/
def Goal.start (depth : Nat) : Goal → Flat.State
  | chain _ | factor => .expecting depth
  | fold _ _ => .holding depth

/-- Whether an operator behind what a goal has read would have been read as well. -/
def Goal.binds : Goal → Operator → Bool
  | chain .sum, _ | fold .sum _, _ => true
  | chain .product, op | fold .product _, op => Tier.product.takes op
  | factor, _ => false

/-- No operator stands at a place that the goal could have read. -/
def Clear (tokens : List GivenToken) (goal : Goal) (place : Nat) : Prop :=
  ∀ token op, tokens[place]? = some token → token.bare.terminal = .operator op →
    goal.binds op = false

theorem Clear.factor (place : Nat) : Clear tokens .factor place :=
  fun _ _ _ _ => rfl

theorem Tier.operand_start (tier : Tier) (depth : Nat) :
    tier.operand.start depth = .expecting depth := by
  cases tier <;> rfl

/-- An operator that neither a tier nor its operands read is none that the tier binds. -/
theorem Clear.of_other {left : Content} (inner : Clear tokens tier.operand cursor)
    (found : tokens[cursor]? = some token)
    (other : ∀ op, token.bare.terminal = .operator op → tier.takes op = false) :
    Clear tokens (.fold tier left) cursor := by
  intro here op same terminal
  cases found.symm.trans same
  have refused := other op terminal
  have refusedToo := inner token op found terminal
  cases tier with
  | product => exact refused
  | sum =>
    cases op with
    | additive => cases refused
    | multiplicative => cases refusedToo

/-- Behind the value of a goal stands no operator that the goal could have read. -/
theorem Descends.clear (descends : Descends tokens goal room cursor result place) {value : Content}
    (valued : result = .ok value)
    (before : ∀ tier left, goal = .fold tier left → Clear tokens tier.operand cursor) :
    Clear tokens goal place := by
  induction descends generalizing value with
  | operandFails | lookupFails | rightFails | combineFails | tooDeep | groupFails | unclosed
  | unexpected => cases valued
  | number | group => exact Clear.factor _
  | @operandRead tier _ _ _ _ _ _ _ _ ih later =>
    have inner := ih rfl fun _ _ same => absurd same (Tier.operand_ne_fold _ _ _)
    have outer := later valued fun _ _ same => by cases same; exact inner
    cases tier <;> exact outer
  | @complete tier _ _ left token found known =>
    cases lookup_of_eq known with
    | other refused => exact (before tier left rfl).of_other found refused
  | @combined tier _ _ _ _ _ _ _ _ _ _ _ _ _ _ _ ih later =>
    have inner := ih rfl fun _ _ same => absurd same (Tier.operand_ne_fold _ _ _)
    have outer := later valued fun _ _ same => by cases same; exact inner
    cases tier <;> exact outer

theorem Descends.clear_of_chain {value : Content}
    (descends : Descends tokens (.chain tier) room cursor (.ok value) place) :
    Clear tokens (.chain tier) place :=
  descends.clear rfl nofun

/-- Nor does a token there that could not be looked up. -/
theorem Descends.not_unhashable (descends : Descends tokens goal room cursor result place)
    {value : Content} (valued : result = .ok value) (chain : goal ≠ .factor)
    (found : tokens[place]? = some token) : ¬ token.IsUnhashable := by
  induction descends generalizing value with
  | operandFails | lookupFails | rightFails | combineFails | tooDeep | groupFails | unclosed
  | unexpected => cases valued
  | number | group => exact absurd rfl chain
  | operandRead _ _ _ later => exact later valued nofun found
  | combined _ _ _ _ _ _ later => exact later valued nofun found
  | @complete tier _ _ _ last here known =>
    cases here.symm.trans found
    cases lookup_of_eq known with
    | other _ hashable => exact hashable

/-- How a descent fails in front of a place, by the state that the scan is in there. -/
inductive Fails (tokens : List GivenToken) (limit place : Nat) : Flat.State → Failure → Prop
  | unexpected {depth : Nat} {token : GivenToken} {failure : Failure} :
      tokens[place]? = some token → token.kind ≠ .number → token.kind ≠ .opening →
      failure = token.operandExpected → Fails tokens limit place (.expecting depth) failure
  | unclosed {depth : Nat} {token : GivenToken} {failure : Failure} :
      tokens[place]? = some token → (∀ op, token.bare.terminal ≠ .operator op) →
      token.kind ≠ .closing → ¬ token.IsUnhashable → failure = token.closingExpected →
      Fails tokens limit place (.holding (depth + 1)) failure
  | unhashable {depth : Nat} {token : GivenToken} :
      tokens[place]? = some token → token.IsUnhashable →
      Fails tokens limit place (.holding depth) .unhashable
  | uncombined {depth index : Nat} {sign : GivenToken} {op : Operator} {left right : Content}
      {failure : Failure} :
      index < place → tokens[index]? = some sign → sign.bare.terminal = .operator op →
      Content.combine op left right = .error failure →
      Fails tokens limit place (.holding depth) failure
  | tooDeep {depth : Nat} : limit < depth → Fails tokens limit place (.expecting depth) .overflow

/-- The same for results of all kinds; a value leaves as many parentheses open as there were. -/
inductive Ends (tokens : List GivenToken) (limit depth place : Nat) :
    Flat.State → Except Failure Content → Prop
  | value (value : Content) : Ends tokens limit depth place (.holding depth) (.ok value)
  | failure {state : Flat.State} {failure : Failure} : Fails tokens limit place state failure →
      Ends tokens limit depth place state (.error failure)

theorem passes_opening (depth : Nat) (found : tokens[cursor]? = some token)
    (opening : token.kind = .opening) :
    Passes tokens (.expecting depth) cursor (.expecting (depth + 1)) (cursor + 1) := by
  have read := token.step_expecting depth
  rw [opening] at read
  exact .of_read found read

theorem terminal_of_operator? {op : Operator} (known : operator? tier token = .ok (some op)) :
    token.bare.terminal = .operator op := by
  cases lookup_of_eq known with
  | operator terminal => exact terminal

theorem passes_operator {op : Operator} (depth : Nat) (found : tokens[cursor]? = some token)
    (known : operator? tier token = .ok (some op)) :
    Passes tokens (.holding depth) cursor (tier.operand.start depth) (cursor + 1) := by
  rw [Tier.operand_start]
  exact .of_read found (GivenToken.step_operator (terminal_of_operator? known))

/-- Where a descent ends, the scan gets to as well. -/
theorem Descends.scans (descends : Descends tokens goal room cursor result place)
    (bounded : depth + room = limit) :
    ∃ state, Passes tokens (goal.start depth) cursor state place ∧
      Ends tokens limit depth place state result := by
  induction descends generalizing depth with
  | @operandFails tier _ _ _ _ _ ih =>
    obtain ⟨state, passed, ends⟩ := ih bounded
    rw [Tier.operand_start] at passed
    exact ⟨state, passed, ends⟩
  | @operandRead tier _ _ _ _ _ _ _ _ ih later =>
    obtain ⟨_, passed, ⟨_⟩⟩ := ih bounded
    obtain ⟨state, further, ends⟩ := later bounded
    rw [Tier.operand_start] at passed
    exact ⟨state, passed.trans further, ends⟩
  | complete => exact ⟨_, .refl _ _, .value _⟩
  | @lookupFails tier _ _ _ token _ found known =>
    cases lookup_of_eq known with
    | unhashable unhashable => exact ⟨_, .refl _ _, .failure (.unhashable found unhashable)⟩
  | rightFails found known _ ih =>
    obtain ⟨state, passed, ends⟩ := ih bounded
    exact ⟨state, (passes_operator depth found known).trans passed, ends⟩
  | combineFails found known inner refused ih =>
    have operator := terminal_of_operator? known
    obtain ⟨_, passed, ⟨_⟩⟩ := ih bounded
    exact ⟨_, (passes_operator depth found known).trans passed,
      .failure (.uncombined inner.cursor_le found operator refused)⟩
  | combined found known _ _ _ ih later =>
    obtain ⟨_, passed, ⟨_⟩⟩ := ih bounded
    obtain ⟨state, further, ends⟩ := later bounded
    exact ⟨state, ((passes_operator depth found known).trans passed).trans further, ends⟩
  | @number _ _ token found number =>
    have read := token.step_expecting depth
    rw [number] at read
    exact ⟨_, .of_read found read, .value _⟩
  | tooDeep found opening =>
    exact ⟨_, passes_opening depth found opening, .failure (.tooDeep (by omega))⟩
  | groupFails found opening _ ih =>
    obtain ⟨state, passed, ends⟩ := @ih (depth + 1) (by omega)
    cases ends with
    | failure fails =>
      exact ⟨state, (passes_opening depth found opening).trans passed, .failure fails⟩
  | @unclosed _ _ _ _ last _ found opening inner behind other ih =>
    obtain ⟨_, passed, ⟨_⟩⟩ := @ih (depth + 1) (by omega)
    have noOperator (op : Operator) (terminal : last.bare.terminal = .operator op) : False := by
      cases inner.clear_of_chain last op behind terminal
    exact ⟨_, (passes_opening depth found opening).trans passed,
      .failure (.unclosed behind noOperator other (inner.not_unhashable rfl nofun behind) rfl)⟩
  | @group _ _ _ _ last _ found opening inner behind closing ih =>
    obtain ⟨_, passed, ⟨_⟩⟩ := @ih (depth + 1) (by omega)
    have noOperator (op : Operator) (terminal : last.bare.terminal = .operator op) : False := by
      cases inner.clear_of_chain last op behind terminal
    have read := GivenToken.step_holding noOperator (depth + 1)
    rw [closing] at read
    exact ⟨_, ((passes_opening depth found opening).trans passed).trans (.of_read behind read),
      .value _⟩
  | unexpected found number opening =>
    exact ⟨_, .refl _ _, .failure (.unexpected found number opening rfl)⟩

end Descent

end Reckoner
