import Reckoner.Proofs.Canonical
import Reckoner.Proofs.KeyedText
import Reckoner.Proofs.Reports
import Reckoner.Proofs.ShownOutcome

namespace Reckoner

variable {stack : Stack}

theorem withoutSign_eq_self {t : Text} (unsigned : t.head? ≠ some '-') : t.withoutSign = t := by
  rw [Text.withoutSign, if_neg unsigned]

theorem isKey_of_keyed_withoutSign {t : Text} (keyed : Keyed t.withoutSign) :
    ∀ c ∈ t, isKey c = true := by
  intro c member
  cases t with
  | nil => cases member
  | cons first rest =>
    rw [Text.withoutSign_cons] at keyed
    split at keyed
    · rename_i sign
      rcases List.mem_cons.mp member with rfl | later
      · rw [sign]
        rfl
      · exact keyed.isKey_of_mem c later
    · exact keyed.isKey_of_mem c member

theorem keyed_withoutSign_press {t : Text} {c : Char} (keyed : Keyed t.withoutSign)
    (accepted : accepts t [c] = true) : Keyed (Text.withoutSign (t ++ [c])) := by
  rw [withoutSign_append_singleton accepted]
  rw [← accepts_withoutSign] at accepted
  exact .press keyed accepted

theorem keyed_withoutSign_dropLast {t : Text} (keyed : Keyed t.withoutSign) :
    Keyed (Text.withoutSign t.dropLast) := by
  rw [withoutSign_dropLast]
  exact keyed.of_prefix (List.dropLast_prefix _)

/-- A number that is written out can be typed but for its sign. -/
theorem keyed_withoutSign_text (value : Int) : Keyed (Numeral.text value).withoutSign := by
  have digits : Keyed (Nat.toDigits 10 value.natAbs) :=
    .ofDigits Numeral.isDigit_of_mem_toDigits
  rw [Numeral.text]
  split
  · rw [Text.withoutSign_cons, if_pos rfl]
    exact digits
  · have unsigned : (Nat.toDigits 10 value.natAbs).head? ≠ some '-' := by
      intro sign
      have first := digits.head?_any_isOperator
      rw [sign] at first
      cases first
    rw [withoutSign_eq_self unsigned]
    exact digits

/-- The errors that an expression from the keypad can have. -/
def IsReportable (t : Text) (kind : ErrorKind) : Prop :=
  kind ≠ .invalidCharacter ∧ kind ≠ .consecutiveOperators ∧ kind ≠ .emptyParentheses ∧
    kind ≠ .emptyExpression ∧ (kind = .leadingOperator → t.head? = some '-')

theorem isReportable_of_flawed {t : Text} {kind : ErrorKind} (keyed : Keyed t.withoutSign)
    (typed : t ≠ []) (flawed : Flawed (t.map canonicalGlyph) kind) : IsReportable t kind := by
  have orderly (unsigned : t.head? ≠ some '-') : t.IsOrderly := by
    rw [withoutSign_eq_self unsigned] at keyed
    exact keyed.isOrderly
  -- A leading operator is found before most other flaws, so those are told of unsigned texts.
  have unsigned_of_head (head : (t.map canonicalGlyph).head?.any isOperator = false) :
      t.head? ≠ some '-' := by
    intro sign
    rw [head?_any_isOperator_map, sign] at head
    cases head
  cases flawed with
  | unbalanced | trailing => simp [IsReportable]
  | leading head =>
    refine ⟨by simp, by simp, by simp, by simp, fun _ => ?_⟩
    by_contra unsigned
    rw [head?_any_isOperator_map, (orderly unsigned).noLeadingOperator] at head
    cases head
  | consecutive head member first second =>
    rw [neighbours_map, List.mem_map] at member
    obtain ⟨⟨a, b⟩, member, same⟩ := member
    cases same
    rw [isOperator_canonicalGlyph] at first second
    exact absurd ⟨first, second⟩ ((orderly (unsigned_of_head head)).noOperators a b member)
  | hollow head member =>
    rw [neighbours_map, List.mem_map] at member
    obtain ⟨⟨a, b⟩, member, same⟩ := member
    simp only [Prod.map_apply, Prod.mk.injEq, canonicalGlyph_eq_opening_iff,
      canonicalGlyph_eq_closing_iff] at same
    obtain ⟨rfl, rfl⟩ := same
    exact absurd member (orderly (unsigned_of_head head)).noEmptyParentheses
  | empty blank => exact absurd (List.map_eq_nil_iff.mp blank) typed

theorem isReportable_of_reports {t : Text} {kind : ErrorKind}
    (reported : Evaluation.Reports kind) : IsReportable t kind := by
  rcases reported with rfl | rfl | rfl <;> simp [IsReportable]

theorem isReportable_of_calculate {limits : Limits} {t : Text} {verdict : Verdict}
    {kind : ErrorKind} (keyed : Keyed t.withoutSign) (typed : t ≠ [])
    (calculated : calculate stack limits t = .ok verdict) (rejected : verdict.error? = some kind) :
    IsReportable t kind := by
  have known (c : Char) (member : c ∈ t) :=
    known_of_isKey (isKey_of_keyed_withoutSign keyed c member)
  have visible (c : Char) (member : c ∈ t) := isBlank_of_known (known c member)
  rcases error_of_calculate calculated rejected with flawed | ⟨fault, failed, reported⟩ | rfl
  · rw [Text.canonical_of_visible visible] at flawed
    exact isReportable_of_flawed keyed typed flawed
  · obtain ⟨tokens, cut⟩ := Token.exists_cut 0 known
    rw [← Text.withoutBlanks_of_visible visible] at cut
    have made := Token.ofText_eq_ok_iff.mpr ⟨tokens, cut, rfl⟩
    exact isReportable_of_reports (reports_of_valueOf made failed reported)
  · simp [IsReportable]

namespace Session

/-- No action brings the expression out of order. -/
theorem keyed_of_change {limits : Limits} {session next : Session} {action : Action}
    (keyed : Keyed session.expression.withoutSign)
    (change : Change stack limits session action next) :
    Keyed next.expression.withoutSign := by
  cases change with
  | typed _ accepted => exact keyed_withoutSign_press keyed accepted
  | begun _ accepted => exact keyed_withoutSign_press (t := []) .start accepted
  | carried _ written _ accepted =>
    -- Here a sign comes in, but one that the expression begins with.
    obtain ⟨_, same⟩ := Option.ite_none_right_eq_some.mp written
    cases same
    exact keyed_withoutSign_press (keyed_withoutSign_text _) accepted
  | failed =>
    unfold showError
    split
    · exact .start
    · exact keyed
  | shortened => exact keyed_withoutSign_dropLast keyed
  | cleared => exact .start
  | refused | ignored | idle | evaluated | dismissed | forgotten => exact keyed

theorem keyed_reached (steps : List Step) : Keyed (reached steps).expression.withoutSign :=
  run_induction (P := fun session => Keyed session.expression.withoutSign) .start
    fun _ _ {_ _ _} => keyed_of_change

/-- Whatever is done and under whatever limits, the expression holds keys only, and they stand in
order but for a minus sign in front. So few errors can be on show. -/
theorem expression_is_orderly (steps : List Step) :
    let session := reached steps
    (∀ c ∈ session.expression, isKey c = true) ∧ session.expression.withoutSign.IsOrderly ∧
      ∀ kind, session.error = some kind →
        kind ≠ .invalidCharacter ∧ kind ≠ .consecutiveOperators ∧ kind ≠ .emptyParentheses ∧
          kind ≠ .emptyExpression ∧
          (kind = .leadingOperator → session.expression.head? = some '-') := by
  intro session
  have keyed : Keyed session.expression.withoutSign := keyed_reached steps
  refine ⟨isKey_of_keyed_withoutSign keyed, keyed.isOrderly, fun kind showing => ?_⟩
  -- The limits may have changed since, but the kinds of error are the same under all limits.
  obtain ⟨stack, limits, settled⟩ : ∃ stack limits, session.IsSettled stack limits :=
    exists_isSettled_reached steps
  rw [IsSettled, showing] at settled
  by_cases blank : session.expression = []
  · rcases settled.eq_nil_iff.mp blank with rfl | rfl <;> simp
  · obtain ⟨verdict, calculated, rejected⟩ := settled.calculate_of_error blank
    exact isReportable_of_calculate keyed blank calculated rejected

end Session

end Reckoner
