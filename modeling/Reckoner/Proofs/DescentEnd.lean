import Reckoner.Proofs.DescentScan

namespace Reckoner

/-- The place of the first end mark. -/
def firstStop (tokens : List GivenToken) : Nat :=
  tokens.findIdx (·.kind == .stop)

namespace Sequence

variable (sequence : Sequence)

theorem firstStop_lt_length : firstStop sequence.tokens < sequence.tokens.length := by
  obtain ⟨last, shown, stop⟩ := Option.map_eq_some_iff.mp sequence.terminated
  exact List.findIdx_lt_length_of_exists
    ⟨last, List.mem_of_getLast? shown, beq_iff_eq.mpr stop⟩

theorem exists_firstStop :
    ∃ last, sequence.tokens[firstStop sequence.tokens]? = some last ∧ last.kind = .stop := by
  have inside := sequence.firstStop_lt_length
  refine ⟨_, List.getElem?_eq_getElem inside, ?_⟩
  have stop : (sequence.tokens[firstStop sequence.tokens].kind == .stop) = true :=
    List.findIdx_getElem (w := inside)
  exact beq_iff_eq.mp stop

/-- Up to the first end mark there is a token at every place, and only the last one is an end
mark. -/
theorem exists_token {cursor : Nat} (within : cursor ≤ firstStop sequence.tokens) :
    ∃ token, sequence.tokens[cursor]? = some token ∧
      (token.kind ≠ .stop → cursor + 1 ≤ firstStop sequence.tokens) := by
  have inside := within.trans_lt sequence.firstStop_lt_length
  refine ⟨_, List.getElem?_eq_getElem inside, fun other => ?_⟩
  refine Nat.lt_of_le_of_ne within fun same => other ?_
  obtain ⟨last, found, stop⟩ := sequence.exists_firstStop
  subst same
  rw [List.getElem?_eq_getElem inside, Option.some.injEq] at found
  rw [found, stop]

end Sequence

namespace Descent

variable {sequence : Sequence} {tier : Tier} {goal : Goal} {room cursor place : Nat}
  {result : Except Failure Content} {state next : Flat.State}

/-- What the scan has read stands in front of the first end mark. -/
theorem Passes.le_firstStop (passed : Passes sequence.tokens state cursor next place)
    (within : cursor ≤ firstStop sequence.tokens) : place ≤ firstStop sequence.tokens := by
  obtain ⟨part, shape, rfl, read⟩ := passed
  by_contra past
  obtain ⟨last, found, stop⟩ := sequence.exists_firstStop
  obtain ⟨ahead, place⟩ : ∃ ahead, firstStop sequence.tokens = cursor + ahead :=
    ⟨_, (Nat.add_sub_cancel' within).symm⟩
  have inside : ahead < part.length := by omega
  have member : last ∈ part := by
    rw [place, ← List.getElem?_drop, shape, List.getElem?_append_left inside] at found
    exact List.mem_of_getElem? found
  have other := Flat.terminal_ne_stop_of_readAll? read last.bare (List.mem_map_of_mem member)
  exact other (GivenToken.terminal_of_stop stop)

theorem Descends.le_firstStop (descends : Descends sequence.tokens goal room cursor result place)
    (within : cursor ≤ firstStop sequence.tokens) : place ≤ firstStop sequence.tokens := by
  obtain ⟨_, passed, _⟩ := descends.scans (Nat.zero_add room)
  exact passed.le_firstStop within

/-- A goal that can be read from a cursor on, to whatever end. -/
def Readable (sequence : Sequence) (goal : Goal) (room cursor : Nat) : Prop :=
  ∃ result place, Descends sequence.tokens goal room cursor result place

theorem readable_chain (within : cursor ≤ firstStop sequence.tokens)
    (operand : Readable sequence tier.operand room cursor)
    (rest : ∀ first mid, cursor < mid → mid ≤ firstStop sequence.tokens →
      Readable sequence (.fold tier first) room mid) :
    Readable sequence (.chain tier) room cursor := by
  obtain ⟨result, mid, inner⟩ := operand
  cases result with
  | error failure => exact ⟨_, _, .operandFails inner⟩
  | ok first =>
    have further := inner.lt_of_value rfl tier.operand_ne_fold
    obtain ⟨_, _, later⟩ := rest first mid further (inner.le_firstStop within)
    exact ⟨_, _, .operandRead inner later⟩

theorem readable_fold {left : Content} (within : cursor ≤ firstStop sequence.tokens)
    (operand : cursor + 1 ≤ firstStop sequence.tokens →
      Readable sequence tier.operand room (cursor + 1))
    (rest : ∀ value mid, cursor < mid → mid ≤ firstStop sequence.tokens →
      Readable sequence (.fold tier value) room mid) :
    Readable sequence (.fold tier left) room cursor := by
  obtain ⟨token, found, onwards⟩ := sequence.exists_token within
  cases known : operator? tier token with
  | error failure => exact ⟨_, _, .lookupFails found known⟩
  | ok op? =>
    cases op? with
    | none => exact ⟨_, _, .complete found known⟩
    | some op =>
      have further : cursor + 1 ≤ firstStop sequence.tokens := onwards fun stop => by
        have terminal := GivenToken.terminal_of_stop stop
        cases terminal.symm.trans (terminal_of_operator? known)
      obtain ⟨result, mid, inner⟩ := operand further
      cases result with
      | error failure => exact ⟨_, _, .rightFails found known inner⟩
      | ok right =>
        cases joined : Content.combine op left right with
        | error failure => exact ⟨_, _, .combineFails found known inner joined⟩
        | ok value =>
          have later := inner.lt_of_value rfl tier.operand_ne_fold
          obtain ⟨_, _, rest⟩ := rest value mid (by omega) (inner.le_firstStop further)
          exact ⟨_, _, .combined found known inner joined rest⟩

theorem readable_factor (within : cursor ≤ firstStop sequence.tokens)
    (group : ∀ fewer, cursor + 1 ≤ firstStop sequence.tokens →
      Readable sequence (.chain .sum) fewer (cursor + 1)) :
    Readable sequence .factor room cursor := by
  obtain ⟨token, found, onwards⟩ := sequence.exists_token within
  by_cases number : token.kind = .number
  · exact ⟨_, _, .number found number⟩
  by_cases opening : token.kind = .opening
  · cases room with
    | zero => exact ⟨_, _, .tooDeep found opening⟩
    | succ fewer =>
      have further := onwards (by simp [opening])
      obtain ⟨result, place, inner⟩ := group fewer further
      cases result with
      | error failure => exact ⟨_, _, .groupFails found opening inner⟩
      | ok value =>
        obtain ⟨last, behind, _⟩ := sequence.exists_token (inner.le_firstStop further)
        by_cases closing : last.kind = .closing
        · exact ⟨_, _, .group found opening inner behind closing⟩
        · exact ⟨_, _, .unclosed found opening inner behind closing⟩
  · exact ⟨_, _, .unexpected found number opening⟩

/-- A chain is more than the operand that it begins with. -/
def Goal.rank : Goal → Nat
  | chain .sum => 2
  | chain .product => 1
  | factor | fold _ _ => 0

theorem Tier.operand_rank_lt (tier : Tier) : tier.operand.rank < (Goal.chain tier).rank := by
  cases tier <;> decide

/-- Whatever is to be read, reading it comes to an end: a rule that calls another one without moving
on calls a narrower one. -/
theorem readable (sequence : Sequence) (goal : Goal) (room : Nat) {cursor : Nat}
    (within : cursor ≤ firstStop sequence.tokens) : Readable sequence goal room cursor := by
  cases goal with
  | chain tier =>
    exact readable_chain within (readable sequence tier.operand room within)
      fun first mid _ early => readable sequence (.fold tier first) room early
  | fold tier left =>
    exact readable_fold within (fun further => readable sequence tier.operand room further)
      fun value mid _ early => readable sequence (.fold tier value) room early
  | factor =>
    exact readable_factor within fun fewer further => readable sequence (.chain .sum) fewer further
termination_by (firstStop sequence.tokens - cursor, goal.rank)
decreasing_by
  · exact Prod.Lex.right _ tier.operand_rank_lt
  all_goals exact Prod.Lex.left _ _ (by omega)

/-- A run comes to an end, whichever rule it enters the grammar by. -/
theorem exists_reads (sequence : Sequence) (room : Nat) (rule : Evaluation.Rule) :
    ∃ result place, Reads sequence.tokens room rule result place := by
  have start : 0 ≤ firstStop sequence.tokens := Nat.zero_le _
  obtain ⟨result, place, sum⟩ := readable sequence (.chain .sum) room start
  cases rule with
  | whole =>
    cases result with
    | error failure => exact ⟨_, _, .fails sum⟩
    | ok value =>
      obtain ⟨token, found, _⟩ := sequence.exists_token (sum.le_firstStop start)
      by_cases stop : token.kind = .stop
      · exact ⟨_, _, .whole sum found stop⟩
      · exact ⟨_, _, .trailing sum found stop⟩
  | expression => exact ⟨_, _, .expression sum⟩
  | term =>
    obtain ⟨_, _, product⟩ := readable sequence (.chain .product) room start
    exact ⟨_, _, .term product⟩
  | factor =>
    obtain ⟨_, _, factor⟩ := readable sequence .factor room start
    exact ⟨_, _, .factor factor⟩

/-- Tokens do not run out for a parser that fails in one of the known ways. -/
theorem Fails.ne_exhausted {tokens : List GivenToken} {limit : Nat} {failure : Failure}
    (fails : Fails tokens limit place state failure) : failure ≠ .exhausted := by
  cases fails with
  | unexpected _ _ _ same =>
    rw [same, GivenToken.operandExpected]
    split <;> nofun
  | unclosed _ _ _ _ same =>
    rw [same, GivenToken.closingExpected]
    split <;> nofun
  | unhashable | tooDeep => nofun
  | uncombined _ _ _ refused =>
    rintro rfl
    exact Content.combine_ne_exhausted refused

theorem Descends.ne_exhausted (descends : Descends sequence.tokens goal room cursor result place) :
    result ≠ .error .exhausted := by
  obtain ⟨_, _, ends⟩ := descends.scans (Nat.zero_add room)
  cases ends with
  | value => nofun
  | failure fails => exact fun same => fails.ne_exhausted (Except.error.inj same)

theorem Reads.le_firstStop {rule : Evaluation.Rule}
    (reads : Reads sequence.tokens room rule result place) :
    place ≤ firstStop sequence.tokens := by
  cases reads with
  | expression descends | term descends | factor descends | fails descends
  | trailing descends | whole descends => exact descends.le_firstStop (Nat.zero_le _)

theorem Reads.ne_exhausted {rule : Evaluation.Rule}
    (reads : Reads sequence.tokens room rule result place) : result ≠ .error .exhausted := by
  cases reads with
  | expression descends | term descends | factor descends => exact descends.ne_exhausted
  | @fails failure _ descends =>
    have other := descends.ne_exhausted
    cases failure with
    | exhausted => exact absurd rfl other
    | _ => nofun
  | @trailing _ token =>
    rw [GivenToken.trailing]
    split <;> nofun
  | whole => nofun

theorem Reads.of_value {rule : Evaluation.Rule} {value : Content}
    (reads : Reads sequence.tokens room rule (.ok value) place) :
    1 ≤ place ∧ (rule = .whole → place = firstStop sequence.tokens) := by
  have early := reads.le_firstStop
  cases reads with
  | expression descends | term descends | factor descends =>
    exact ⟨descends.lt_of_value rfl nofun, nofun⟩
  | @whole _ token _ descends found stop =>
    refine ⟨descends.lt_of_value rfl nofun, fun _ => Nat.le_antisymm early (Nat.not_lt.mp ?_)⟩
    intro sooner
    obtain ⟨within, same⟩ := List.getElem?_eq_some_iff.mp found
    have other := List.not_of_lt_findIdx sooner
    rw [same, stop] at other
    cases other

/-- Tokens with an end mark at their end are read to an end by every rule of the grammar, whatever
else they are and hold, and on every stack. No token is looked for behind the last one, and reading
gets no further than to the first end mark. A value takes at least one token, and that of a whole
expression all tokens up to the first end mark. -/
theorem descent_ends_by_first_stop (stack : Stack) (sequence : Sequence) (rule : Evaluation.Rule) :
    ∃ result cursor, rule.descend stack sequence = some (result, cursor) ∧
      result ≠ .error .exhausted ∧
      cursor ≤ firstStop sequence.tokens ∧ firstStop sequence.tokens < sequence.tokens.length ∧
      ∀ value, result = .ok value →
        1 ≤ cursor ∧ (rule = .whole → cursor = firstStop sequence.tokens) := by
  obtain ⟨result, cursor, reads⟩ := exists_reads sequence stack.room rule
  refine ⟨result, cursor, reads.parser_eq, reads.ne_exhausted, reads.le_firstStop,
    sequence.firstStop_lt_length, ?_⟩
  rintro value rfl
  exact reads.of_value

end Descent

end Reckoner
