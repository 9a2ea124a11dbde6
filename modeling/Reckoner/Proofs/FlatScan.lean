import Reckoner.Proofs.Grammar
import Reckoner.Proofs.Nesting

namespace Reckoner.Flat

open Evaluation

/-- Whether an operand is to come or has just been read, inside so many parentheses. -/
inductive State
  | expecting (depth : Nat)
  | holding (depth : Nat)
  deriving DecidableEq

/-- How a scan ends in front of a token. -/
inductive Verdict
  | accepted
  | rejected (depth : Nat) (kind : ErrorKind)
  deriving DecidableEq

inductive Move
  | read (next : State)
  | settle (verdict : Verdict)
  deriving DecidableEq

def step (token : Token) : State → Move
  | .expecting depth =>
    match token.terminal with
    | .number _ => .read (.holding depth)
    | .opening => .read (.expecting (depth + 1))
    | _ => .settle (.rejected depth .malformedExpression)
  | .holding depth =>
    match token.terminal, depth with
    | .operator _, depth => .read (.expecting depth)
    | .closing, depth + 1 => .read (.holding depth)
    | .stop, 0 => .settle .accepted
    | _, 0 => .settle (.rejected 0 .malformedExpression)
    | _, depth + 1 => .settle (.rejected (depth + 1) .unmatchedParenthesis)

/-- The verdict on tokens and the index of the token that it falls on. -/
def scanFrom (state : State) (index : Nat) : List Token → Option (Verdict × Nat)
  | [] => none
  | token :: rest =>
    match step token state with
    | .read next => scanFrom next (index + 1) rest
    | .settle verdict => some (verdict, index)

/-- The state after tokens that are all read. -/
def readAll? (state : State) : List Token → Option State
  | [] => some state
  | token :: rest =>
    match step token state with
    | .read next => readAll? next rest
    | .settle _ => none

theorem readAll?_append (state : State) (front back : List Token) :
    readAll? state (front ++ back) =
      (readAll? state front).bind fun next => readAll? next back := by
  induction front generalizing state with
  | nil => rfl
  | cons token rest ih =>
    simp only [List.cons_append, readAll?]
    cases step token state with
    | read next => exact ih next
    | settle => rfl

/-- Tokens that are all read only move the scan on. -/
theorem scanFrom_append {state next : State} {front : List Token} (index : Nat) (back : List Token)
    (read : readAll? state front = some next) :
    scanFrom state index (front ++ back) = scanFrom next (index + front.length) back := by
  induction front generalizing state index with
  | nil =>
    cases read
    rfl
  | cons token rest ih =>
    have place : index + 1 + rest.length = index + (token :: rest).length := by
      rw [List.length_cons]
      omega
    cases here : step token state with
    | read mid =>
      simp only [readAll?, here] at read
      simp only [List.cons_append, scanFrom, here, ih (index + 1) read, place]
    | settle => simp [readAll?, here] at read

/-- The scan never goes past an end mark. -/
theorem terminal_ne_stop_of_read {token : Token} {state next : State}
    (read : step token state = .read next) : token.terminal ≠ .stop := by
  intro stopped
  cases state with
  | expecting depth => simp [step, stopped] at read
  | holding depth => cases depth <;> simp [step, stopped] at read

theorem terminal_ne_stop_of_readAll? {tokens : List Token} {state next : State}
    (read : readAll? state tokens = some next) : ∀ token ∈ tokens, token.terminal ≠ .stop := by
  induction tokens generalizing state with
  | nil => nofun
  | cons token rest ih =>
    cases here : step token state with
    | read mid =>
      simp only [readAll?, here] at read
      exact List.forall_mem_cons.mpr ⟨terminal_ne_stop_of_read here, ih read⟩
    | settle => simp [readAll?, here] at read

/-- The number of parentheses that are open. -/
def State.depth : State → Nat
  | expecting depth | holding depth => depth

theorem depth_of_read {token : Token} {state next : State} (read : step token state = .read next) :
    next.depth + token.closes.toNat = state.depth + token.opens.toNat := by
  cases state with
  | expecting depth =>
    cases terminal : token.terminal with
    | number | opening =>
      simp only [step, terminal, Move.read.injEq] at read
      subst next
      simp [State.depth, Token.opens, Token.closes, terminal]
    | operator | closing | stop | foreign => simp [step, terminal] at read
  | holding depth =>
    cases terminal : token.terminal with
    | operator =>
      simp only [step, terminal, Move.read.injEq] at read
      subst next
      simp [State.depth, Token.opens, Token.closes, terminal]
    | closing =>
      cases depth with
      | zero => simp [step, terminal] at read
      | succ depth =>
        simp only [step, terminal, Move.read.injEq] at read
        subst next
        simp [State.depth, Token.opens, Token.closes, terminal]
    | number | opening | stop | foreign => cases depth <;> simp [step, terminal] at read

/-- The depth is what the parentheses that are read leave open. -/
theorem depth_of_readAll? {tokens : List Token} {state next : State}
    (read : readAll? state tokens = some next) :
    next.depth + tokens.countP Token.closes = state.depth + tokens.countP Token.opens := by
  induction tokens generalizing state with
  | nil =>
    cases read
    rfl
  | cons token rest ih =>
    cases here : step token state with
    | read mid =>
      simp only [readAll?, here] at read
      have moved := depth_of_read here
      have later := ih read
      rw [countP_cons_toNat, countP_cons_toNat]
      omega
    | settle => simp [readAll?, here] at read

theorem le_of_scanFrom {state : State} {verdict : Verdict} {cursor index : Nat}
    {tokens : List Token} (found : scanFrom state cursor tokens = some (verdict, index)) :
    cursor ≤ index := by
  induction tokens generalizing state cursor with
  | nil => simp [scanFrom] at found
  | cons token rest ih =>
    cases here : step token state with
    | read next =>
      simp only [scanFrom, here] at found
      have later := ih found
      omega
    | settle =>
      simp only [scanFrom, here, Option.some.injEq, Prod.mk.injEq] at found
      omega

/-- The scan has read all that stands before its verdict. -/
theorem readAll?_of_scanFrom {state : State} {verdict : Verdict} {cursor index : Nat}
    {tokens : List Token} (found : scanFrom state cursor tokens = some (verdict, index)) :
    ∃ front token back last, tokens = front ++ token :: back ∧ index = cursor + front.length ∧
      readAll? state front = some last ∧ step token last = .settle verdict := by
  induction tokens generalizing state cursor with
  | nil => simp [scanFrom] at found
  | cons first rest ih =>
    cases here : step first state with
    | read next =>
      simp only [scanFrom, here] at found
      obtain ⟨front, token, back, last, rfl, place, read, settled⟩ := ih found
      refine ⟨first :: front, token, back, last, rfl, ?_, by simp [readAll?, here, read], settled⟩
      simp only [List.length_cons]
      omega
    | settle other =>
      simp only [scanFrom, here, Option.some.injEq, Prod.mk.injEq] at found
      obtain ⟨rfl, rfl⟩ := found
      exact ⟨[], first, rest, state, rfl, rfl, rfl, here⟩

/-- Only the end of an expression is accepted. -/
theorem of_accepted {token : Token} {state : State}
    (settled : step token state = .settle .accepted) :
    token.terminal = .stop ∧ state = .holding 0 := by
  unfold step at settled
  split at settled <;> split at settled <;> simp_all

theorem readAll?_of_derives {rule : Rule} {tokens : List Token} {formula : Formula}
    (derived : Derives rule tokens formula) (depth : Nat) :
    readAll? (.expecting depth) tokens = some (.holding depth) := by
  induction derived generalizing depth with
  | number terminal => simp [readAll?, step, terminal]
  | group opening _ closing ih =>
    simp [readAll?, step, opening, readAll?_append, ih (depth + 1), closing]
  | factor _ ih | term _ ih | whole _ ih => exact ih depth
  | product _ joined _ leftIh rightIh | sum _ joined _ leftIh rightIh =>
    simp [readAll?_append, leftIh depth, readAll?, step, joined, rightIh depth]

/-- Nothing, or a sum that a term is still to be joined to. -/
inductive SumStart : List Token → Prop
  | nothing : SumStart []
  | broken {tokens : List Token} {formula : Formula} {sign : Token} {op : Additive} :
      Derives .expression tokens formula → sign.terminal = .operator (.additive op) →
      SumStart (tokens ++ [sign])

/-- Nothing, or a product that a factor is still to be joined to. -/
inductive ProductStart : List Token → Prop
  | nothing : ProductStart []
  | broken {tokens : List Token} {formula : Formula} {sign : Token} {op : Multiplicative} :
      Derives .term tokens formula → sign.terminal = .operator (.multiplicative op) →
      ProductStart (tokens ++ [sign])

/-- What stands before the innermost open parenthesis, that parenthesis included. -/
inductive Context : Nat → List Token → Prop
  | outermost : Context 0 []
  | inside {depth : Nat} {outer sum product : List Token} {first : Token} :
      Context depth outer → SumStart sum → ProductStart product → first.terminal = .opening →
      Context (depth + 1) (outer ++ (sum ++ (product ++ [first])))

/-- The shape of the tokens that lead to a state. -/
def LeadsTo : State → List Token → Prop
  | .expecting depth, tokens => ∃ outer sum product,
    Context depth outer ∧ SumStart sum ∧ ProductStart product ∧ tokens = outer ++ (sum ++ product)
  | .holding depth, tokens => ∃ outer sum term formula,
    Context depth outer ∧ SumStart sum ∧ Derives .term term formula ∧
      tokens = outer ++ (sum ++ term)

theorem SumStart.close {sum term : List Token} {formula : Formula} (start : SumStart sum)
    (derived : Derives .term term formula) : ∃ whole, Derives .expression (sum ++ term) whole := by
  cases start with
  | nothing => exact ⟨formula, .term derived⟩
  | broken left joined =>
    rw [List.append_assoc]
    exact ⟨_, .sum left joined derived⟩

theorem ProductStart.close {product factor : List Token} {formula : Formula}
    (start : ProductStart product) (derived : Derives .factor factor formula) :
    ∃ whole, Derives .term (product ++ factor) whole := by
  cases start with
  | nothing => exact ⟨formula, .factor derived⟩
  | broken left joined =>
    rw [List.append_assoc]
    exact ⟨_, .product left joined derived⟩

/-- A factor that is complete closes the product it stands in. -/
theorem LeadsTo.supply {depth : Nat} {outer sum product factor : List Token} {formula : Formula}
    (context : Context depth outer) (sumStart : SumStart sum) (productStart : ProductStart product)
    (derived : Derives .factor factor formula) :
    LeadsTo (.holding depth) (outer ++ (sum ++ (product ++ factor))) := by
  obtain ⟨whole, term⟩ := productStart.close derived
  exact ⟨outer, sum, product ++ factor, whole, context, sumStart, term, rfl⟩

theorem LeadsTo.next {state next : State} {before : List Token} {token : Token}
    (leads : LeadsTo state before) (read : step token state = .read next) :
    LeadsTo next (before ++ [token]) := by
  cases state with
  | expecting depth =>
    obtain ⟨outer, sum, product, context, sumStart, productStart, rfl⟩ := leads
    cases terminal : token.terminal with
    | number value =>
      simp only [step, terminal, Move.read.injEq] at read
      subst next
      simpa only [List.append_assoc] using
        LeadsTo.supply context sumStart productStart (.number terminal)
    | opening =>
      simp only [step, terminal, Move.read.injEq] at read
      subst next
      refine ⟨_, [], [], .inside context sumStart productStart terminal, .nothing, .nothing, ?_⟩
      simp only [List.append_assoc, List.append_nil]
    | operator | closing | stop | foreign => simp [step, terminal] at read
  | holding depth =>
    obtain ⟨outer, sum, term, formula, context, sumStart, derived, rfl⟩ := leads
    cases terminal : token.terminal with
    | operator op =>
      simp only [step, terminal, Move.read.injEq] at read
      subst next
      cases op with
      | additive op =>
        obtain ⟨whole, left⟩ := sumStart.close derived
        refine ⟨outer, _, [], context, .broken left terminal, .nothing, ?_⟩
        simp only [List.append_assoc, List.append_nil]
      | multiplicative op =>
        refine ⟨outer, sum, _, context, sumStart, .broken derived terminal, ?_⟩
        simp only [List.append_assoc]
    | closing =>
      cases context with
      | outermost => simp [step, terminal] at read
      | inside context outerSum outerProduct opening =>
        simp only [step, terminal, Move.read.injEq] at read
        subst next
        obtain ⟨whole, inner⟩ := sumStart.close derived
        simpa only [List.append_assoc, List.cons_append, List.nil_append] using
          LeadsTo.supply context outerSum outerProduct (.group opening inner terminal)
    | number | opening | stop | foreign => cases depth <;> simp [step, terminal] at read

theorem leadsTo_of_readAll? {state next : State} {before tokens : List Token}
    (leads : LeadsTo state before) (read : readAll? state tokens = some next) :
    LeadsTo next (before ++ tokens) := by
  induction tokens generalizing state before with
  | nil =>
    cases read
    simpa only [List.append_nil] using leads
  | cons token rest ih =>
    cases here : step token state with
    | read mid =>
      simp only [readAll?, here] at read
      simpa only [List.append_assoc, List.cons_append, List.nil_append] using
        ih (leads.next here) read
    | settle => simp [readAll?, here] at read

/-- The scan recognises the expressions of the grammar. -/
theorem derives_iff_readAll? {tokens : List Token} :
    (∃ formula, Derives .expression tokens formula) ↔
      readAll? (.expecting 0) tokens = some (.holding 0) := by
  constructor
  · rintro ⟨formula, derived⟩
    exact readAll?_of_derives derived 0
  · intro read
    have start : LeadsTo (.expecting 0) [] := ⟨[], [], [], .outermost, .nothing, .nothing, rfl⟩
    obtain ⟨outer, sum, term, formula, context, sumStart, derived, shape⟩ :=
      leadsTo_of_readAll? start read
    cases context
    rw [List.nil_append, List.nil_append] at shape
    rw [shape]
    exact sumStart.close derived

end Reckoner.Flat
