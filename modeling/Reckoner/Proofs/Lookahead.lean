import Reckoner.Proofs.DescentEnd

namespace Reckoner.Descent

variable {tokens others : List GivenToken} {goal : Goal} {rule : Evaluation.Rule}
  {room cursor place : Nat} {result : Except Failure Content}

/-- The tokens up to the place where a descent ends are all that it looks at: no goal looks behind
the place where the goals that it calls end, but at the one token there. -/
theorem Descends.of_agree (descends : Descends tokens goal room cursor result place)
    (agree : ∀ index ≤ place, others[index]? = tokens[index]?) :
    Descends others goal room cursor result place := by
  induction descends with
  | operandFails _ ih => exact .operandFails (ih agree)
  | operandRead _ later ih laterIh =>
    have sooner := later.cursor_le
    exact .operandRead (ih fun index within => agree index (within.trans sooner)) (laterIh agree)
  | complete found known => exact .complete ((agree _ le_rfl).trans found) known
  | lookupFails found known => exact .lookupFails ((agree _ le_rfl).trans found) known
  | rightFails found known inner ih =>
    have sooner := inner.cursor_le
    exact .rightFails ((agree _ (by omega)).trans found) known (ih agree)
  | combineFails found known inner refused ih =>
    have sooner := inner.cursor_le
    exact .combineFails ((agree _ (by omega)).trans found) known (ih agree) refused
  | combined found known inner joined later ih laterIh =>
    have sooner := inner.cursor_le
    have soonerToo := later.cursor_le
    exact .combined ((agree _ (by omega)).trans found) known
      (ih fun index within => agree index (within.trans soonerToo)) joined (laterIh agree)
  | number found number => exact .number ((agree _ (by omega)).trans found) number
  | tooDeep found opening => exact .tooDeep ((agree _ (by omega)).trans found) opening
  | groupFails found opening inner ih =>
    have sooner := inner.cursor_le
    exact .groupFails ((agree _ (by omega)).trans found) opening (ih agree)
  | unclosed found opening inner behind other ih =>
    have sooner := inner.cursor_le
    exact .unclosed ((agree _ (by omega)).trans found) opening (ih agree)
      ((agree _ le_rfl).trans behind) other
  | group found opening inner behind closing ih =>
    have sooner := inner.cursor_le
    exact .group ((agree _ (by omega)).trans found) opening
      (ih fun index within => agree index (by omega)) ((agree _ (by omega)).trans behind) closing
  | unexpected found number opening =>
    exact .unexpected ((agree _ le_rfl).trans found) number opening

theorem Reads.of_agree (reads : Reads tokens room rule result place)
    (agree : ∀ index ≤ place, others[index]? = tokens[index]?) :
    Reads others room rule result place := by
  cases reads with
  | expression descends => exact .expression (descends.of_agree agree)
  | term descends => exact .term (descends.of_agree agree)
  | factor descends => exact .factor (descends.of_agree agree)
  | fails descends => exact .fails (descends.of_agree agree)
  | trailing descends found other =>
    exact .trailing (descends.of_agree agree) ((agree _ le_rfl).trans found) other
  | whole descends found stop =>
    exact .whole (descends.of_agree agree) ((agree _ le_rfl).trans found) stop

/-- A descent reads what it is seen to come to. -/
theorem reads_of_descend {stack : Stack} {sequence : Sequence}
    (descended : rule.descend stack sequence = some (result, place)) :
    Reads sequence.tokens stack.room rule result place := by
  obtain ⟨found, stop, reads⟩ := exists_reads sequence stack.room rule
  obtain ⟨rfl, rfl⟩ := Prod.mk.inj (Option.some.inj (reads.parser_eq.symm.trans descended))
  exact reads

/-- The token at which reading ends is the last one that counts. Other tokens that agree up to it
are read to the same result and the same place, whichever rule is read by and whatever they go on
with. -/
theorem lookahead_decides {stack : Stack} {rule : Evaluation.Rule} {sequence other : Sequence}
    {result : Except Failure Content} {cursor : Nat}
    (descended : rule.descend stack sequence = some (result, cursor))
    (agree : ∀ place ≤ cursor, other.tokens[place]? = sequence.tokens[place]?) :
    rule.descend stack other = some (result, cursor) :=
  ((reads_of_descend descended).of_agree agree).parser_eq

/-- A product and a parenthesis that cannot follow it. -/
def strayOpening : Sequence where
  tokens := [⟨.number, .integer 6, 0⟩, ⟨.operator, .text ['*'], 1⟩, ⟨.number, .integer 7, 2⟩,
    ⟨.opening, .nothing, 3⟩, ⟨.stop, .nothing, 4⟩]
  terminated := rfl

/-- The same with a list as the content of an operator behind it, which is never looked up. -/
def strayDivision : Sequence where
  tokens := strayOpening.tokens.take 4 ++
    [⟨.number, .integer 1, 4⟩, ⟨.operator, .list [['/']], 5⟩, ⟨.number, .integer 0, 6⟩,
      ⟨.stop, .nothing, 7⟩]
  terminated := rfl

theorem strayDivision_reads :
    Evaluation.Rule.term.descend .shallow strayOpening = some (.ok (.integer 42), 3) ∧
      (∀ place ≤ 3, strayDivision.tokens[place]? = strayOpening.tokens[place]?) ∧
      Evaluation.Rule.term.descend .shallow strayDivision = some (.ok (.integer 42), 3) := by
  have agree : ∀ place ≤ 3, strayDivision.tokens[place]? = strayOpening.tokens[place]? := by decide
  have product : Descends strayOpening.tokens (.chain .product) 329 0 (.ok (.integer 42)) 3 := by
    apply Descends.operandRead
    · exact .number rfl rfl
    · exact .combined rfl rfl (.number rfl rfl) rfl (.complete rfl rfl)
  have read : Evaluation.Rule.term.descend .shallow strayOpening = some (.ok (.integer 42), 3) :=
    (Reads.term product).parser_eq
  exact ⟨read, agree, lookahead_decides read agree⟩

end Reckoner.Descent
