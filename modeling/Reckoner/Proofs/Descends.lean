import Reckoner.Descent

namespace Reckoner.Descent

/-- What the descent has to read: the operands of a tier, or what is still to be joined to those
read so far, or a factor. -/
inductive Goal
  | chain (tier : Tier)
  | fold (tier : Tier) (left : Content)
  | factor

def Goal.parser (tokens : List GivenToken) (room : Nat) : Goal → Parser Content
  | chain tier => Descent.chain tier room tokens
  | fold tier left => Descent.fold tier room left tokens
  | factor => Descent.factor room tokens

def Tier.operand : Tier → Goal
  | sum => .chain .product
  | product => .factor

theorem Tier.operand_ne_fold (tier inner : Tier) (left : Content) :
    tier.operand ≠ .fold inner left := by
  cases tier <;> nofun

/-- The course of a descent from a cursor on, with its result and the cursor at its end. Every token
on the way is looked up at its place. -/
inductive Descends (tokens : List GivenToken) :
    Goal → Nat → Nat → Except Failure Content → Nat → Prop
  | operandFails {tier : Tier} {room cursor place : Nat} {failure : Failure} :
      Descends tokens tier.operand room cursor (.error failure) place →
      Descends tokens (.chain tier) room cursor (.error failure) place
  | operandRead {tier : Tier} {room cursor mid place : Nat} {first : Content}
      {result : Except Failure Content} :
      Descends tokens tier.operand room cursor (.ok first) mid →
      Descends tokens (.fold tier first) room mid result place →
      Descends tokens (.chain tier) room cursor result place
  | complete {tier : Tier} {room cursor : Nat} {left : Content} {token : GivenToken} :
      tokens[cursor]? = some token → operator? tier token = .ok none →
      Descends tokens (.fold tier left) room cursor (.ok left) cursor
  | lookupFails {tier : Tier} {room cursor : Nat} {left : Content} {token : GivenToken}
      {failure : Failure} :
      tokens[cursor]? = some token → operator? tier token = .error failure →
      Descends tokens (.fold tier left) room cursor (.error failure) cursor
  | rightFails {tier : Tier} {room cursor place : Nat} {left : Content} {token : GivenToken}
      {op : Operator} {failure : Failure} :
      tokens[cursor]? = some token → operator? tier token = .ok (some op) →
      Descends tokens tier.operand room (cursor + 1) (.error failure) place →
      Descends tokens (.fold tier left) room cursor (.error failure) place
  | combineFails {tier : Tier} {room cursor place : Nat} {left right : Content}
      {token : GivenToken} {op : Operator} {failure : Failure} :
      tokens[cursor]? = some token → operator? tier token = .ok (some op) →
      Descends tokens tier.operand room (cursor + 1) (.ok right) place →
      Content.combine op left right = .error failure →
      Descends tokens (.fold tier left) room cursor (.error failure) place
  | combined {tier : Tier} {room cursor mid place : Nat} {left right value : Content}
      {token : GivenToken} {op : Operator} {result : Except Failure Content} :
      tokens[cursor]? = some token → operator? tier token = .ok (some op) →
      Descends tokens tier.operand room (cursor + 1) (.ok right) mid →
      Content.combine op left right = .ok value →
      Descends tokens (.fold tier value) room mid result place →
      Descends tokens (.fold tier left) room cursor result place
  | number {room cursor : Nat} {token : GivenToken} :
      tokens[cursor]? = some token → token.kind = .number →
      Descends tokens .factor room cursor (.ok token.content) (cursor + 1)
  | tooDeep {cursor : Nat} {token : GivenToken} :
      tokens[cursor]? = some token → token.kind = .opening →
      Descends tokens .factor 0 cursor (.error .overflow) (cursor + 1)
  | groupFails {room cursor place : Nat} {token : GivenToken} {failure : Failure} :
      tokens[cursor]? = some token → token.kind = .opening →
      Descends tokens (.chain .sum) room (cursor + 1) (.error failure) place →
      Descends tokens .factor (room + 1) cursor (.error failure) place
  | unclosed {room cursor place : Nat} {token last : GivenToken} {value : Content} :
      tokens[cursor]? = some token → token.kind = .opening →
      Descends tokens (.chain .sum) room (cursor + 1) (.ok value) place →
      tokens[place]? = some last → last.kind ≠ .closing →
      Descends tokens .factor (room + 1) cursor (.error last.closingExpected) place
  | group {room cursor place : Nat} {token last : GivenToken} {value : Content} :
      tokens[cursor]? = some token → token.kind = .opening →
      Descends tokens (.chain .sum) room (cursor + 1) (.ok value) place →
      tokens[place]? = some last → last.kind = .closing →
      Descends tokens .factor (room + 1) cursor (.ok value) (place + 1)
  | unexpected {room cursor : Nat} {token : GivenToken} :
      tokens[cursor]? = some token → token.kind ≠ .number → token.kind ≠ .opening →
      Descends tokens .factor room cursor (.error token.operandExpected) cursor

section Run

variable {α β : Type} {first : Parser α} {next : α → Parser β} {tokens : List GivenToken}
  {token : GivenToken} {cursor place : Nat}

theorem bind_of_ok {a : α} (read : first cursor = some (.ok a, place)) :
    (first >>= next) cursor = next a place := by
  change (first cursor).bind _ = _
  rw [read]
  rfl

theorem bind_of_error {failure : Failure} (failed : first cursor = some (.error failure, place)) :
    (first >>= next) cursor = some (.error failure, place) := by
  change (first cursor).bind _ = _
  rw [failed]
  rfl

theorem current_of_some (found : tokens[cursor]? = some token) :
    current tokens cursor = some (.ok token, cursor) := by
  have got : (get : Parser Nat) cursor = some (.ok cursor, cursor) := rfl
  rw [current, bind_of_ok got, found]
  rfl

theorem lift_of_ok {a : α} {known : Except Failure α} (same : known = .ok a) :
    (liftM known : Parser α) cursor = some (.ok a, cursor) := by
  rw [same]
  rfl

theorem lift_of_error {failure : Failure} {known : Except Failure α}
    (same : known = .error failure) :
    (liftM known : Parser α) cursor = some (.error failure, cursor) := by
  rw [same]
  rfl

theorem advance_of_some (found : tokens[cursor]? = some token) :
    advance tokens cursor = some (.ok token, cursor + 1) := by
  rw [advance, bind_of_ok (current_of_some found)]
  rfl

end Run

variable {tokens : List GivenToken} {tier : Tier} {goal : Goal} {room cursor place : Nat}
  {result : Except Failure Content} {token : GivenToken}

theorem operand_eq (tier : Tier) (room : Nat) :
    operand tier room tokens = tier.operand.parser tokens room := by
  cases tier with
  | sum => exact operand.eq_1 ..
  | product => exact operand.eq_2 ..

theorem chain_eq (tier : Tier) (room : Nat) :
    chain tier room tokens =
      tier.operand.parser tokens room >>= fun first => fold tier room first tokens := by
  rw [chain.eq_1, ← operand_eq]

theorem fold_of_operator {left : Content} {op : Operator} (found : tokens[cursor]? = some token)
    (known : operator? tier token = .ok (some op)) :
    fold tier room left tokens cursor =
      (do
        let right ← tier.operand.parser tokens room
        let joined ← Content.combine op left right
        fold tier room joined tokens : Parser Content) (cursor + 1) := by
  rw [fold.eq_1, bind_of_ok (current_of_some found), bind_of_ok (lift_of_ok known)]
  dsimp only
  rw [bind_of_ok (advance_of_some found), operand_eq]

theorem factor_of_opening (found : tokens[cursor]? = some token)
    (opening : token.kind = .opening) :
    factor (room + 1) tokens cursor =
      (do
        let value ← chain .sum room tokens
        let closing ← current tokens
        if closing.kind = .closing then
          let _ ← advance tokens
          return value
        else throw closing.closingExpected : Parser Content) (cursor + 1) := by
  rw [factor.eq_def, bind_of_ok (current_of_some found), opening]
  dsimp only
  rw [bind_of_ok (advance_of_some found)]

/-- A course that can be taken is the one that the parser takes. -/
theorem Descends.parser_eq (descends : Descends tokens goal room cursor result place) :
    goal.parser tokens room cursor = some (result, place) := by
  induction descends with
  | operandFails _ ih =>
    rw [Goal.parser, chain_eq, bind_of_error ih]
  | operandRead _ _ ih later =>
    rw [Goal.parser, chain_eq, bind_of_ok ih]
    exact later
  | complete found known =>
    rw [Goal.parser, fold.eq_1, bind_of_ok (current_of_some found), bind_of_ok (lift_of_ok known)]
    rfl
  | lookupFails found known =>
    rw [Goal.parser, fold.eq_1, bind_of_ok (current_of_some found),
      bind_of_error (lift_of_error known)]
  | rightFails found known _ ih =>
    rw [Goal.parser, fold_of_operator found known, bind_of_error ih]
  | combineFails found known _ refused ih =>
    rw [Goal.parser, fold_of_operator found known, bind_of_ok ih,
      bind_of_error (lift_of_error refused)]
  | combined found known _ joined _ ih later =>
    rw [Goal.parser, fold_of_operator found known, bind_of_ok ih, bind_of_ok (lift_of_ok joined)]
    exact later
  | number found number =>
    rw [Goal.parser, factor.eq_def, bind_of_ok (current_of_some found), number]
    dsimp only
    rw [bind_of_ok (advance_of_some found)]
    rfl
  | tooDeep found opening =>
    rw [Goal.parser, factor.eq_def, bind_of_ok (current_of_some found), opening]
    dsimp only
    rw [bind_of_ok (advance_of_some found)]
    rfl
  | groupFails found opening _ ih =>
    rw [Goal.parser, factor_of_opening found opening]
    exact bind_of_error ih
  | unclosed found opening _ behind other ih =>
    rw [Goal.parser, factor_of_opening found opening]
    refine (bind_of_ok ih).trans ?_
    rw [bind_of_ok (current_of_some behind), if_neg other]
    rfl
  | group found opening _ behind closing ih =>
    rw [Goal.parser, factor_of_opening found opening]
    refine (bind_of_ok ih).trans ?_
    rw [bind_of_ok (current_of_some behind), if_pos closing, bind_of_ok (advance_of_some behind)]
    rfl
  | @unexpected _ _ token found number opening =>
    rw [Goal.parser, factor.eq_def, bind_of_ok (current_of_some found)]
    cases kind : token.kind with
    | number => exact absurd kind number
    | opening => exact absurd kind opening
    | operator | closing | stop | other => rfl

/-- A descent never goes back. -/
theorem Descends.cursor_le (descends : Descends tokens goal room cursor result place) :
    cursor ≤ place := by
  induction descends with
  | operandFails _ ih => exact ih
  | operandRead _ _ ih later => exact Nat.le_trans ih later
  | complete | lookupFails | unexpected => exact Nat.le_refl _
  | rightFails _ _ _ ih | combineFails _ _ _ _ ih | groupFails _ _ _ ih => omega
  | combined _ _ _ _ _ ih later => omega
  | number | tooDeep => omega
  | unclosed _ _ _ _ _ ih | group _ _ _ _ _ ih => omega

/-- The value of a chain or of a factor takes a token at least. -/
theorem Descends.lt_of_value {value : Content}
    (descends : Descends tokens goal room cursor result place) (valued : result = .ok value)
    (fresh : ∀ tier left, goal ≠ .fold tier left) : cursor < place := by
  induction descends generalizing value with
  | operandRead inner later ih _ =>
    exact Nat.lt_of_lt_of_le (ih rfl (Tier.operand_ne_fold _)) later.cursor_le
  | number => exact Nat.lt_succ_self _
  | group _ _ inner => exact Nat.lt_succ_of_lt inner.cursor_le
  | complete | lookupFails | rightFails | combineFails | combined => exact absurd rfl (fresh _ _)
  | operandFails | tooDeep | groupFails | unclosed | unexpected => cases valued

/-- The course of a whole run, by the rule that it enters the grammar by. -/
inductive Reads (tokens : List GivenToken) (room : Nat) :
    Evaluation.Rule → Except Failure Content → Nat → Prop
  | expression {result : Except Failure Content} {place : Nat} :
      Descends tokens (.chain .sum) room 0 result place → Reads tokens room .expression result place
  | term {result : Except Failure Content} {place : Nat} :
      Descends tokens (.chain .product) room 0 result place → Reads tokens room .term result place
  | factor {result : Except Failure Content} {place : Nat} :
      Descends tokens .factor room 0 result place → Reads tokens room .factor result place
  | fails {failure : Failure} {place : Nat} :
      Descends tokens (.chain .sum) room 0 (.error failure) place →
      Reads tokens room .whole (.error failure.reportingDepth) place
  | trailing {value : Content} {token : GivenToken} {place : Nat} :
      Descends tokens (.chain .sum) room 0 (.ok value) place →
      tokens[place]? = some token → token.kind ≠ .stop →
      Reads tokens room .whole (.error token.trailing) place
  | whole {value : Content} {token : GivenToken} {place : Nat} :
      Descends tokens (.chain .sum) room 0 (.ok value) place →
      tokens[place]? = some token → token.kind = .stop →
      Reads tokens room .whole (.ok value) place

theorem catch_eq {parser : Parser Content} (run : parser cursor = some (result, place)) :
    (tryCatch parser fun failure => throw failure.reportingDepth : Parser Content) cursor =
      some (result.mapError Failure.reportingDepth, place) := by
  change (parser cursor).bind _ = _
  rw [run]
  cases result <;> rfl

theorem Reads.parser_eq {rule : Evaluation.Rule} (reads : Reads tokens room rule result place) :
    parser room tokens rule 0 = some (result, place) := by
  cases reads with
  | expression descends | term descends | factor descends => exact descends.parser_eq
  | fails descends => exact bind_of_error (catch_eq descends.parser_eq)
  | trailing descends found other =>
    refine (bind_of_ok (catch_eq descends.parser_eq)).trans ?_
    rw [bind_of_ok (current_of_some found), if_neg other]
    rfl
  | whole descends found stop =>
    refine (bind_of_ok (catch_eq descends.parser_eq)).trans ?_
    rw [bind_of_ok (current_of_some found), if_pos stop]
    rfl

end Reckoner.Descent
