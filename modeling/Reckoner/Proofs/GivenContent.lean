import Reckoner.Proofs.Formula
import Reckoner.Token.Given

namespace Reckoner

namespace Content

/-- The text that a content is, if it is one. -/
def text? : Content → Option Text
  | text t => some t
  | nothing | integer _ | list _ => none

/-- The ways in which contents cannot be combined. Integers only fail to be divided by zero. -/
inductive Misfit : Operator → Content → Content → Failure → Prop
  | byZero {left : Content} :
      Misfit (.multiplicative .dividedBy) left (integer 0) (.ofFault .divisionByZero)
  | mistyped {op : Operator} {left right : Content} :
      (∀ a b, left = integer a → right ≠ integer b) →
      Misfit op left right (.mistyped op left right)
  | oversized {op : Operator} {left right : Content} :
      (∀ a b, left = integer a → right ≠ integer b) → Misfit op left right .oversized

theorem eq_oversized_of_joined {α : Type} {left right : List α} {failure : Failure}
    (failed : joined left right = .error failure) : failure = .oversized := by
  unfold joined at failed
  split at failed <;> cases failed
  rfl

theorem eq_oversized_of_repeated {α : Type} {items : List α} {times : Int} {failure : Failure}
    (failed : repeated items times = .error failure) : failure = .oversized := by
  unfold repeated at failed
  split at failed <;> cases failed
  rfl

theorem misfit_of_combine {op : Operator} {left right : Content} {failure : Failure}
    (failed : combine op left right = .error failure) : Misfit op left right failure := by
  have outer {α : Type} {make : α → Content} {items : Except Failure α}
      (whole : (do return make (← items)) = Except.error failure) : items = .error failure := by
    cases items with
    | ok => cases whole
    | error => cases whole; rfl
  fun_cases combine op left right with
  | case1 op a b value known => simp [combine, known] at failed
  | case2 op a b none =>
    obtain ⟨rfl, rfl⟩ : op = .multiplicative .dividedBy ∧ b = 0 := by
      rw [Operator.combine?_eq] at none
      exact Operator.result?_eq_none_iff.mp none
    rw [combine, none] at failed
    cases failed
    exact .byZero
  | case3 | case4 =>
    obtain rfl := eq_oversized_of_joined (outer failed)
    exact .oversized nofun
  | case5 | case6 | case7 | case8 =>
    obtain rfl := eq_oversized_of_repeated (outer failed)
    exact .oversized (by rintro a b ⟨⟩ ⟨⟩)
  | case9 left other =>
    simp only [combine] at failed
    cases failed
    exact .byZero
  | case10 op left right noIntegers =>
    simp only [combine] at failed
    cases failed
    exact .mistyped noIntegers

theorem combine_ne_exhausted {op : Operator} {left right : Content} :
    combine op left right ≠ .error .exhausted := by
  intro failed
  have misfit := misfit_of_combine failed
  generalize refused : Failure.exhausted = failure at misfit
  cases misfit <;> cases refused

end Content

end Reckoner
