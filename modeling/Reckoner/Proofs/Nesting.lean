import Mathlib.Data.List.Infix
import Reckoner.Evaluation

namespace Reckoner

/-- No initial part opens more than `bound` parentheses beyond those that it closes. -/
def NestsWithin {α : Type} (opens closes : α → Bool) (bound : Nat) (items : List α) : Prop :=
  ∀ start ∈ items.inits, start.countP opens ≤ start.countP closes + bound

instance {α : Type} (opens closes : α → Bool) (bound : Nat) (items : List α) :
    Decidable (NestsWithin opens closes bound items) :=
  inferInstanceAs (Decidable (∀ start ∈ items.inits, _))

def Text.NestsWithin (bound : Nat) (t : Text) : Prop :=
  Reckoner.NestsWithin (· == '(') (· == ')') bound t

instance (bound : Nat) (t : Text) : Decidable (t.NestsWithin bound) :=
  inferInstanceAs (Decidable (Reckoner.NestsWithin _ _ _ _))

def Token.opens (token : Token) : Bool :=
  decide (token.terminal = .opening)

def Token.closes (token : Token) : Bool :=
  decide (token.terminal = .closing)

/-- The same for tokens; only their classes count. -/
def Token.NestWithin (bound : Nat) (tokens : List Token) : Prop :=
  NestsWithin Token.opens Token.closes bound tokens

instance (bound : Nat) (tokens : List Token) : Decidable (Token.NestWithin bound tokens) :=
  inferInstanceAs (Decidable (NestsWithin _ _ _ _))

theorem countP_cons_toNat {α : Type} (p : α → Bool) (item : α) (items : List α) :
    (item :: items).countP p = items.countP p + (p item).toNat := by
  cases value : p item <;> simp [value]

namespace NestsWithin

variable {α : Type} {opens closes : α → Bool} {bound larger : Nat} {item : α} {items : List α}

theorem mono (nests : NestsWithin opens closes bound items) (le : bound ≤ larger) :
    NestsWithin opens closes larger items := by
  intro start member
  have here := nests start member
  omega

theorem nil : NestsWithin opens closes bound [] := by
  intro start member
  simp [List.inits] at member
  simp [member]

/-- The first item decides how much room is left for the others. -/
theorem cons_iff (room : larger + (opens item).toNat = bound + (closes item).toNat) :
    NestsWithin opens closes bound (item :: items) ↔ NestsWithin opens closes larger items := by
  constructor
  · intro nests start member
    have here := nests (item :: start) (by simpa [List.mem_inits] using member)
    rw [countP_cons_toNat, countP_cons_toNat] at here
    omega
  · intro nests start member
    rcases List.prefix_cons_iff.mp ((List.mem_inits _ _).mp member) with rfl | ⟨tail, rfl, initial⟩
    · simp
    · have there := nests tail ((List.mem_inits _ _).mpr initial)
      rw [countP_cons_toNat, countP_cons_toNat]
      omega

/-- An item that opens a parenthesis takes room for one. -/
theorem room (nests : NestsWithin opens closes bound (item :: items)) :
    (opens item).toNat ≤ bound + (closes item).toNat := by
  have here := nests [item] (by simp [List.inits])
  simp only [List.countP_singleton] at here
  cases opening : opens item <;> cases closing : closes item <;> simp_all

/-- Items that are no parentheses make no difference. -/
theorem append_iff {front : List α}
    (neither : ∀ item ∈ front, opens item = false ∧ closes item = false) :
    NestsWithin opens closes bound (front ++ items) ↔ NestsWithin opens closes bound items := by
  induction front with
  | nil => rfl
  | cons first rest ih =>
    obtain ⟨notOpening, notClosing⟩ := neither first (List.mem_cons_self ..)
    have later := ih fun item member => neither item (List.mem_cons_of_mem _ member)
    have same : NestsWithin opens closes bound (first :: (rest ++ items)) ↔
        NestsWithin opens closes bound (rest ++ items) :=
      cons_iff (by simp [notOpening, notClosing])
    rw [List.cons_append, same, later]

end NestsWithin

theorem nestsWithin_of_plain {t : Text} (bound : Nat) (plain : ∀ c ∈ t, c ≠ '(' ∧ c ≠ ')') :
    t.NestsWithin bound := by
  have neither : ∀ c ∈ t, (c == '(') = false ∧ (c == ')') = false := by
    intro c member
    simpa using plain c member
  have inner : Reckoner.NestsWithin (· == '(') (· == ')') bound (t ++ []) :=
    (NestsWithin.append_iff neither).mpr .nil
  rwa [List.append_nil] at inner

/-- Blanks do not count. -/
theorem Text.NestsWithin.withoutBlanks {bound : Nat} {t : Text} (nests : t.NestsWithin bound) :
    t.withoutBlanks.NestsWithin bound := by
  intro start member
  obtain ⟨front, initial, rfl⟩ := List.prefix_filter_iff.mp ((List.mem_inits _ _).mp member)
  have here := nests front ((List.mem_inits _ _).mpr initial)
  have parenthesis (c : Char) (visible : isBlank c = false) :
      (front.filter (!isBlank ·)).countP (· == c) = front.countP (· == c) := by
    rw [List.countP_filter]
    apply List.countP_congr
    intro other _
    by_cases same : other = c
    · simp [same, visible]
    · simp [same]
  rw [parenthesis '(' (by decide), parenthesis ')' (by decide)]
  exact here

end Reckoner
