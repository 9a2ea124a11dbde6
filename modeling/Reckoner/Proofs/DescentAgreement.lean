import Reckoner.Proofs.DescentEnd
import Reckoner.Proofs.FlatAgreement

namespace Reckoner

/-- The integers that the message about a token needs can be written. It needs the content of a
token behind a complete expression, and the place of every token. -/
def GivenToken.IsNameable (token : GivenToken) (state : Flat.State) : Prop :=
  Numeral.isWritable token.pos = true ∧ (state = .holding 0 → token.content.isWritable = true)

/-- The token would have to be looked up among the operators, and cannot be. -/
def GivenToken.Stumps (token : GivenToken) (state : Flat.State) : Prop :=
  (∃ depth, state = .holding depth) ∧ token.IsUnhashable

/-- The results that a verdict on a token allows, by the state that the scan is in before it. -/
inductive Flat.Verdict.Settles (token : GivenToken) (state : Flat.State) :
    Flat.Verdict → Except Failure Content → Prop
  | accepted (value : Content) : Settles token state .accepted (.ok value)
  | unhashable {depth : Nat} {kind : ErrorKind} :
      token.Stumps state → Settles token state (.rejected depth kind) (.error .unhashable)
  | unwritable {depth : Nat} {kind : ErrorKind} :
      ¬ token.Stumps state → ¬ token.IsNameable state →
      Settles token state (.rejected depth kind) (.error .unwritable)
  | reported {depth : Nat} {kind : ErrorKind} {message : String} :
      ¬ token.Stumps state → token.IsNameable state →
      Settles token state (.rejected depth kind) (.error (.reported kind message))

namespace GivenToken

variable {token : GivenToken}

end GivenToken

namespace Descent

variable {tokens : List GivenToken} {room limit place : Nat} {state : Flat.State}
  {result : Except Failure Content} {failure : Failure}

/-- All number tokens in front of a place hold integers. -/
def Calculable (tokens : List GivenToken) (place : Nat) : Prop :=
  ∀ index token, index < place → tokens[index]? = some token → token.kind = .number →
    ∃ value, token.content = .integer value

theorem Calculable.mono {sooner : Nat} (calculable : Calculable tokens place)
    (le : sooner ≤ place) : Calculable tokens sooner :=
  fun index token before => calculable index token (before.trans_le le)

/-- The scan settles on a token between others, having read all that stand before it. -/
structure Settled (tokens front : List GivenToken) (token : GivenToken) (state : Flat.State)
    (verdict : Flat.Verdict) : Prop where
  shape : ∃ back, tokens = front ++ token :: back
  read : Flat.readAll? (.expecting 0) (front.map GivenToken.bare) = some state
  settled : Flat.step token.bare state = .settle verdict

theorem Passes.settled {token : GivenToken} {verdict : Flat.Verdict}
    (passed : Passes tokens (.expecting 0) 0 state place) (found : tokens[place]? = some token)
    (settled : Flat.step token.bare state = .settle verdict) :
    ∃ front, place = front.length ∧ Settled tokens front token state verdict := by
  obtain ⟨part, shape, rfl, read⟩ := passed
  obtain ⟨within, same⟩ := List.getElem?_eq_some_iff.mp found
  rw [List.drop_zero, List.drop_eq_getElem_cons within, same] at shape
  exact ⟨part, Nat.zero_add _, ⟨_, shape⟩, read, settled⟩

end Descent

end Reckoner
