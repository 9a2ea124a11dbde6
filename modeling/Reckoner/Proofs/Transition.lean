import Reckoner.Evaluation
import Reckoner.Proofs.Nesting

namespace Reckoner

variable {stack : Stack}

def Token.IsDivision (token : Token) : Prop :=
  token.terminal = .operator (.multiplicative .dividedBy)

namespace Evaluation

variable {rule : Rule} {limit : Option Nat} {token : Token} {state next : State}

/-- The number of parentheses that are open. -/
def State.depth : State → Nat
  | expecting _ outer | holding _ _ outer => outer.length

/-- The ways in which a token can meet a state. -/
inductive Transition (rule : Rule) (limit : Option Nat) (token : Token) : State → Step → Prop
  | number {level : Level} {outer : List Level} {value product : Int} :
      token.terminal = .number value → level.product.close? value = some product →
      Transition rule limit token (.expecting level outer)
        (.read (.holding level.sum product outer))
  | numberByZero {level : Level} {outer : List Level} {value : Int} :
      token.terminal = .number value → level.product.close? value = none →
      Transition rule limit token (.expecting level outer) (.fail .divisionByZero)
  | opening {level : Level} {outer : List Level} :
      token.terminal = .opening → limit.any (· ≤ outer.length) = false →
      Transition rule limit token (.expecting level outer) (.read (.expecting {} (level :: outer)))
  | tooDeep {level : Level} {outer : List Level} {fault : Fault} :
      token.terminal = .opening → limit.any (· ≤ outer.length) = true → fault = rule.depthFault →
      Transition rule limit token (.expecting level outer) (.fail fault)
  | unexpected {level : Level} {outer : List Level} :
      (∀ value, token.terminal ≠ .number value) → token.terminal ≠ .opening →
      Transition rule limit token (.expecting level outer) (.stop (.error (.operandExpected token)))
  | additive {sum : PartialSum} {product : Int} {outer : List Level} {op : Additive} :
      token.terminal = .operator (.additive op) → (outer = [] → rule.takes (.additive op) = true) →
      Transition rule limit token (.holding sum product outer)
        (.read (.expecting { sum := ⟨sum.close product, op⟩ } outer))
  | multiplicative {sum : PartialSum} {product : Int} {outer : List Level} {op : Multiplicative} :
      token.terminal = .operator (.multiplicative op) →
      (outer = [] → rule.takes (.multiplicative op) = true) →
      Transition rule limit token (.holding sum product outer)
        (.read (.expecting { sum, product := ⟨product, op⟩ } outer))
  | closing {sum : PartialSum} {product joined : Int} {level : Level} {outer : List Level} :
      token.terminal = .closing → level.product.close? (sum.close product) = some joined →
      Transition rule limit token (.holding sum product (level :: outer))
        (.read (.holding level.sum joined outer))
  | closingByZero {sum : PartialSum} {product : Int} {level : Level} {outer : List Level} :
      token.terminal = .closing → level.product.close? (sum.close product) = none →
      Transition rule limit token (.holding sum product (level :: outer)) (.fail .divisionByZero)
  | answer {sum : PartialSum} {product : Int} :
      (∀ op, token.terminal = .operator op → rule.takes op = false) →
      Transition rule limit token (.holding sum product [])
        (.stop (rule.answer (sum.close product) token))
  | unclosed {sum : PartialSum} {product : Int} {level : Level} {outer : List Level} :
      (∀ op, token.terminal ≠ .operator op) → token.terminal ≠ .closing →
      Transition rule limit token (.holding sum product (level :: outer))
        (.stop (.error (.closingExpected token)))

theorem depthFault_ne_divisionByZero (rule : Rule) : rule.depthFault ≠ .divisionByZero := by
  cases rule <;> simp [Rule.depthFault]

/-- There are no other ways. -/
theorem step_transition (rule : Rule) (limit : Option Nat) (token : Token) (state : State) :
    Transition rule limit token state (step rule limit token state) := by
  cases state with
  | expecting level outer =>
    cases terminal : token.terminal with
    | number value =>
      simp only [step, terminal, supply]
      split
      · exact .number terminal ‹_›
      · exact .numberByZero terminal ‹_›
    | opening =>
      simp only [step, terminal]
      split
      · exact .tooDeep terminal ‹_› rfl
      · exact .opening terminal (Bool.eq_false_iff.mpr ‹_›)
    | operator | closing | stop | foreign =>
      simp only [step, terminal]
      exact .unexpected (by simp [terminal]) (by simp [terminal])
  | holding sum product outer =>
    cases terminal : token.terminal with
    | operator op =>
      simp only [step, terminal]
      split
      · rename_i refused
        obtain ⟨rfl, refused⟩ := refused
        refine .answer fun other same => ?_
        rw [terminal] at same
        cases same
        exact refused
      · rename_i taken
        have takes : outer = [] → rule.takes op = true := by
          intro outermost
          by_contra refused
          exact taken ⟨outermost, by simpa using refused⟩
        cases op with
        | additive op => exact .additive terminal takes
        | multiplicative op => exact .multiplicative terminal takes
    | closing =>
      cases outer with
      | nil =>
        simp only [step, terminal]
        exact .answer (by simp [terminal])
      | cons level outer =>
        simp only [step, terminal, supply]
        split
        · exact .closing terminal ‹_›
        · exact .closingByZero terminal ‹_›
    | number | opening | stop | foreign =>
      cases outer with
      | nil =>
        simp only [step, terminal]
        exact .answer (by simp [terminal])
      | cons level outer =>
        simp only [step, terminal]
        exact .unclosed (by simp [terminal]) (by simp [terminal])

/-- And only one of them for each token and state. -/
theorem Transition.step_eq {made : Step} (transition : Transition rule limit token state made) :
    step rule limit token state = made := by
  have taken := step_transition rule limit token state
  generalize step rule limit token state = other at taken
  cases transition <;> cases taken <;> simp_all

/-- Only parentheses move the depth. -/
theorem depth_of_read (read : step rule limit token state = .read next) :
    next.depth + token.closes.toNat = state.depth + token.opens.toNat := by
  have transition := step_transition rule limit token state
  rw [read] at transition
  cases transition <;> simp [State.depth, Token.opens, Token.closes, *]

/-- A bound makes a difference only where it is met. -/
theorem step_limited (rule : Rule) (limit : Option Nat) (token : Token) (state : State) :
    step rule limit token state = step rule none token state ∨
      step rule limit token state = .fail rule.depthFault ∧ token.terminal = .opening ∧
        limit.any (· ≤ state.depth) = true := by
  cases state with
  | holding sum product outer => exact Or.inl rfl
  | expecting level outer =>
    cases terminal : token.terminal with
    | opening =>
      cases met : limit.any (· ≤ outer.length) with
      | false => exact Or.inl (by simp [step, terminal, met])
      | true => exact Or.inr ⟨by simp [step, terminal, met], rfl, met⟩
    | number | operator | closing | stop | foreign => exact Or.inl (by simp [step, terminal])

/-- A bound either makes no difference to a run or cuts it off. -/
theorem runFrom_limited (rule : Rule) (limit : Option Nat) (state : State) (cursor : Nat)
    (tokens : List Token) :
    runFrom rule limit state cursor tokens = runFrom rule none state cursor tokens ∨
      (runFrom rule limit state cursor tokens).result = .error rule.depthFault := by
  induction tokens generalizing state cursor with
  | nil => exact Or.inl rfl
  | cons token rest ih =>
    rcases step_limited rule limit token state with same | ⟨cut, _, _⟩
    · simp only [runFrom, same]
      cases step rule none token state with
      | read next => exact ih next (cursor + 1)
      | stop | fail => exact Or.inl rfl
    · exact Or.inr (by simp [runFrom, cut])

/-- Of two bounds only the tighter one can cut a step off. -/
theorem step_of_roomier {bound larger : Nat} (roomier : bound ≤ larger) (rule : Rule)
    (token : Token) (state : State) :
    step rule (some larger) token state = step rule (some bound) token state ∨
      step rule (some bound) token state = .fail rule.depthFault := by
  rcases step_limited rule (some larger) token state with same | ⟨_, opening, met⟩
  · rcases step_limited rule (some bound) token state with alike | ⟨cut, _⟩
    · exact Or.inl (same.trans alike.symm)
    · exact Or.inr cut
  · cases state with
    | holding sum product outer => exact Or.inl rfl
    | expecting level outer =>
      have full : bound ≤ outer.length := roomier.trans (of_decide_eq_true met)
      exact Or.inr (by simp [step, opening, full])

/-- A value that a bound allows comes out under any weaker bound. -/
theorem runFrom_of_roomier {bound larger cursor : Nat} {tokens : List Token} {value : Int}
    (roomier : bound ≤ larger)
    (valued : (runFrom rule (some bound) state cursor tokens).result = .ok value) :
    (runFrom rule (some larger) state cursor tokens).result = .ok value := by
  induction tokens generalizing state cursor with
  | nil => cases valued
  | cons token rest ih =>
    rcases step_of_roomier roomier rule token state with same | cut
    · simp only [runFrom, same] at valued ⊢
      cases read : step rule (some bound) token state with
      | read next =>
        simp only [read] at valued
        exact ih valued
      | stop | fail => simpa only [read] using valued
    · simp [runFrom, cut] at valued

/-- A bound that the tokens stay within makes no difference. -/
theorem runFrom_of_nests {depth bound : Nat} {tokens : List Token} (state : State) (cursor : Nat)
    (room : state.depth + depth ≤ bound) (nests : Token.NestWithin depth tokens) :
    runFrom rule (some bound) state cursor tokens = runFrom rule none state cursor tokens := by
  induction tokens generalizing state cursor depth with
  | nil => rfl
  | cons token rest ih =>
    have free := nests.room
    have same : step rule (some bound) token state = step rule none token state := by
      rcases step_limited rule (some bound) token state with same | ⟨_, opening, met⟩
      · exact same
      · simp only [Token.opens, Token.closes, opening] at free
        simp at met free
        omega
    simp only [runFrom, same]
    cases read : step rule none token state with
    | read next =>
      have moved := depth_of_read read
      have later : Token.NestWithin (depth + token.closes.toNat - token.opens.toNat) rest :=
        (NestsWithin.cons_iff (by omega)).mp nests
      exact ih next (cursor + 1) (by omega) later
    | stop | fail => rfl

/-- Nor does a stack with room for them. -/
theorem run_of_nests {tokens : List Token}
    (nests : Token.NestWithin stack.room tokens) :
    run rule (some stack.room) tokens = run rule none tokens :=
  runFrom_of_nests .start 0 (Nat.zero_add stack.room).le nests

theorem isTerminated_of_cons {rest : List Token} (terminated : isTerminated (token :: rest) = true)
    (notYet : token.terminal ≠ .stop) : isTerminated rest = true := by
  cases rest with
  | nil => simp [isTerminated, notYet] at terminated
  | cons later rest => simpa only [isTerminated, List.getLast?_cons_cons] using terminated

/-- No operand still to come is a divisor. -/
def State.DivisionFree : State → Prop
  | expecting level outer => ∀ around ∈ level :: outer, around.product.op ≠ .dividedBy
  | holding _ _ outer => ∀ around ∈ outer, around.product.op ≠ .dividedBy

theorem close?_ne_none {product : PartialProduct} (free : product.op ≠ .dividedBy) (factor : Int) :
    product.close? factor ≠ none := by
  cases product with
  | mk total op => cases op <;> simp_all [PartialProduct.close?, Multiplicative.combine?]

theorem divisionFree_of_read (free : state.DivisionFree) (other : ¬ token.IsDivision)
    (read : step rule limit token state = .read next) : next.DivisionFree := by
  have transition := step_transition rule limit token state
  rw [read] at transition
  cases transition with
  | number | closing => exact fun around member => free around (List.mem_cons_of_mem _ member)
  | opening | additive => exact List.forall_mem_cons.mpr ⟨by simp, free⟩
  | multiplicative terminal =>
    refine List.forall_mem_cons.mpr ⟨?_, free⟩
    rintro rfl
    exact other terminal

theorem step_ne_divisionByZero (free : state.DivisionFree) :
    step rule limit token state ≠ .fail .divisionByZero := by
  intro failed
  have transition := step_transition rule limit token state
  rw [failed] at transition
  cases transition with
  | numberByZero _ missing => exact close?_ne_none (free _ (List.mem_cons_self ..)) _ missing
  | closingByZero _ missing => exact close?_ne_none (free _ (List.mem_cons_self ..)) _ missing
  | tooDeep _ _ cut => exact depthFault_ne_divisionByZero rule cut.symm

theorem stop_ne_divisionByZero :
    step rule limit token state ≠ .stop (.error .divisionByZero) := by
  intro stopped
  have transition := step_transition rule limit token state
  rw [stopped] at transition
  generalize answered : Except.error Fault.divisionByZero = result at transition
  cases transition with
  | answer =>
    unfold Rule.answer at answered
    split at answered
    · split at answered <;> simp at answered
    · simp at answered
  | unexpected | unclosed => simp at answered

theorem cursor_le_runFrom (rule : Rule) (limit : Option Nat) (state : State) (cursor : Nat)
    (tokens : List Token) : cursor ≤ (runFrom rule limit state cursor tokens).cursor := by
  induction tokens generalizing state cursor with
  | nil => exact le_rfl
  | cons token rest ih =>
    simp only [runFrom]
    cases step rule limit token state with
    | read next => exact (Nat.le_succ cursor).trans (ih next (cursor + 1))
    | stop => exact le_rfl
    | fail => exact Nat.le_succ cursor

/-- A run that divides by zero has read a division. -/
theorem exists_division_of_runFrom {tokens : List Token} {cursor count : Nat}
    (free : state.DivisionFree)
    (failed : (runFrom rule limit state cursor tokens).result = .error .divisionByZero)
    (within : (runFrom rule limit state cursor tokens).cursor ≤ cursor + count) :
    ∃ token ∈ tokens.take count, token.IsDivision := by
  induction tokens generalizing state cursor count with
  | nil => simp [runFrom] at failed
  | cons token rest ih =>
    cases here : step rule limit token state with
    | stop result =>
      simp only [runFrom, here] at failed
      exact absurd (here.trans (congrArg Step.stop failed)) stop_ne_divisionByZero
    | fail fault =>
      simp only [runFrom, here, Except.error.injEq] at failed
      exact absurd (here.trans (congrArg Step.fail failed)) (step_ne_divisionByZero free)
    | read next =>
      simp only [runFrom, here] at failed within
      have later := cursor_le_runFrom rule limit next (cursor + 1) rest
      obtain ⟨count, rfl⟩ : ∃ fewer, count = fewer + 1 := ⟨count - 1, by omega⟩
      rw [List.take_succ_cons]
      by_cases division : token.IsDivision
      · exact ⟨token, List.mem_cons_self .., division⟩
      · have sooner : (runFrom rule limit next (cursor + 1) rest).cursor ≤ cursor + 1 + count := by
          omega
        obtain ⟨found, member, divides⟩ :=
          ih (divisionFree_of_read free division here) failed sooner
        exact ⟨found, List.mem_cons_of_mem _ member, divides⟩

end Evaluation

end Reckoner
