import Reckoner.Console

namespace Reckoner

namespace Text

/-- A small letter of ASCII that only its own capital becomes. The Kelvin sign becomes a `k`. -/
def IsPlainSmall (c : Char) : Prop :=
  0x61 ≤ c.toNat ∧ c.toNat ≤ 0x7A ∧ c ≠ 'k'

theorem exists_ofNat {c : Char} {first : Nat} (low : first ≤ c.toNat)
    (high : c.toNat ≤ first + 25) : ∃ n < 26, c = Char.ofNat (first + n) := by
  refine ⟨c.toNat - first, by omega, ?_⟩
  rw [Nat.add_sub_cancel' low, Char.ofNat_toNat]

theorem toLower_capital : ∀ n < 26, (Char.ofNat (0x41 + n)).toLower = Char.ofNat (0x61 + n) := by
  decide

theorem lowerChar_capital : ∀ n < 26,
    lowerChar (Char.ofNat (0x41 + n)) = [Char.ofNat (0x61 + n)] := by
  decide

theorem lowerChar_small : ∀ n < 26,
    lowerChar (Char.ofNat (0x61 + n)) = [Char.ofNat (0x61 + n)] := by
  decide

theorem toLower_of_not_capital {c : Char} (other : ¬(0x41 ≤ c.toNat ∧ c.toNat ≤ 0x5A)) :
    c.toLower = c := by
  refine dif_neg fun capital => other ?_
  have low : 'A'.val.toNat ≤ c.val.toNat := UInt32.le_iff_toNat_le.mp capital.1
  have high : c.val.toNat ≤ 'Z'.val.toNat := UInt32.le_iff_toNat_le.mp capital.2
  exact ⟨low, high⟩

theorem eq_toNat_of_ofNat {n : Nat} {c : Char} (plain : IsPlainSmall c) (made : Char.ofNat n = c) :
    n = c.toNat := by
  by_cases valid : n.isValidChar
  · have known : Char.ofNat n = Char.ofNatAux n valid := dif_pos valid
    rw [← made, known]
    rfl
  · have unknown : Char.ofNat n = '\x00' := dif_neg valid
    rw [← made, unknown] at plain
    exact absurd plain.1 (by decide)

/-- Two runs of capitals have small letters in ASCII. -/
theorem capitals_small : ∀ run ∈ capitals, run.small < 0x80 →
    (run.first = 0x41 ∧ run.last = 0x5A ∧ run.small = 0x61) ∨
      (run.first = run.last ∧ run.small = 0x6B) := by
  decide +kernel

/-- A capital with such a small letter is one of ASCII. -/
theorem capital_of_findSome? {c small : Char} (plain : IsPlainSmall small)
    (found : capitals.findSome? (·.lower? c) = some small) :
    0x41 ≤ c.toNat ∧ c.toNat ≤ 0x5A := by
  obtain ⟨run, member, lowered⟩ := List.exists_of_findSome?_eq_some found
  unfold CapitalRun.lower? at lowered
  split at lowered
  · rename_i within
    have code := eq_toNat_of_ofNat plain (Option.some.inj lowered)
    obtain ⟨above, below, notKelvin⟩ := plain
    rcases capitals_small run member (by omega) with ⟨first, last, _⟩ | ⟨single, start⟩
    · rw [first, last] at within
      exact ⟨within.1, within.2.1⟩
    · have letter : 'k'.toNat = 0x6B := rfl
      have kelvin : small.toNat = 'k'.toNat := by omega
      exact absurd (Char.toNat_inj.mp kelvin) notKelvin
  · cases lowered

theorem lowerChar_eq_singleton_iff {c small : Char} (plain : IsPlainSmall small) :
    lowerChar c = [small] ↔ c.toLower = small := by
  by_cases capital : 0x41 ≤ c.toNat ∧ c.toNat ≤ 0x5A
  · obtain ⟨n, few, rfl⟩ := exists_ofNat capital.1 capital.2
    rw [lowerChar_capital n few, toLower_capital n few, List.singleton_inj]
  · rw [toLower_of_not_capital capital]
    constructor
    · intro lowered
      unfold lowerChar at lowered
      split at lowered
      · simp at lowered
      · cases found : capitals.findSome? (·.lower? c) with
        | none =>
          rw [found] at lowered
          exact List.singleton_inj.mp lowered
        | some other =>
          rw [found] at lowered
          obtain rfl : other = small := List.singleton_inj.mp lowered
          exact absurd (capital_of_findSome? plain found) capital
    · rintro rfl
      obtain ⟨n, few, rfl⟩ := exists_ofNat plain.1 plain.2.1
      exact lowerChar_small n few

/-- The first character becomes the first letter and no other, which rules out the two capitals that
are treated by themselves. -/
theorem lowerFrom_cons_eq_iff {c small : Char} {rest word : Text} (inWord : Bool)
    (plain : IsPlainSmall small) (later : ∀ other ∈ word, IsPlainSmall other) :
    lowerFrom inWord (c :: rest) = small :: word ↔
      c.toLower = small ∧
        lowerFrom (if isCaseIgnorable c then inWord else isCased c) rest = word := by
  rw [lowerFrom]
  generalize lowerFrom (if isCaseIgnorable c then inWord else isCased c) rest = others
  by_cases sigma : c = 'Σ'
  · subst sigma
    constructor
    · intro lowered
      obtain ⟨rfl, -⟩ := List.cons.inj lowered
      split at plain <;> exact absurd plain.2.1 (by decide)
    · rintro ⟨rfl, -⟩
      exact absurd plain.2.1 (by decide)
  · by_cases dotted : c = 'İ'
    · subst dotted
      constructor
      · intro lowered
        have dot : ['\u0307'] ++ others = word := (List.cons.inj lowered).2
        have plainDot := later '\u0307' (by rw [← dot]; exact List.mem_cons_self ..)
        exact absurd plainDot.2.1 (by decide)
      · rintro ⟨rfl, -⟩
        exact absurd plain.2.1 (by decide)
    · rw [← lowerChar_eq_singleton_iff plain]
      simp [lowerChar, sigma, dotted]

theorem lowerFrom_cons_ne_nil (inWord : Bool) (c : Char) (rest : Text) :
    lowerFrom inWord (c :: rest) ≠ [] := by
  rw [lowerFrom]
  split
  · exact List.cons_ne_nil _ _
  · unfold lowerChar
    split <;> exact List.cons_ne_nil _ _

/-- Whether a text becomes such letters can be told by its capitals of ASCII. -/
theorem lowerFrom_eq_iff {t word : Text} (plain : ∀ c ∈ word, IsPlainSmall c) (inWord : Bool) :
    lowerFrom inWord t = word ↔ t.map Char.toLower = word := by
  induction t generalizing word inWord with
  | nil => exact Iff.rfl
  | cons c rest ih =>
    cases word with
    | nil =>
      constructor
      · intro lowered
        exact absurd lowered (lowerFrom_cons_ne_nil inWord c rest)
      · rintro ⟨⟩
    | cons small word =>
      obtain ⟨here, later⟩ := List.forall_mem_cons.mp plain
      rw [lowerFrom_cons_eq_iff inWord here later, ih later, List.map_cons, List.cons.injEq]

theorem lower_eq_iff {t word : Text} (plain : ∀ c ∈ word, IsPlainSmall c) :
    lower t = word ↔ t.map Char.toLower = word :=
  lowerFrom_eq_iff plain false

end Text

/-- A colon and one of two names, in any case and with any white space around both. -/
def Text.asksToLeave (line : Text) : Bool :=
  match line.trim with
  | ':' :: name =>
    let letters := (trim name).map Char.toLower
    letters == ['e', 'x', 'i', 't'] || letters == ['q', 'u', 'i', 't']
  | _ => false

theorem Command.ofName_eq_quit_iff {name : String} :
    ofName name = .quit ↔ name = "exit" ∨ name = "quit" := by
  unfold ofName
  split <;> simp_all

theorem Command.ofLine?_eq_quit_iff {line : Text} :
    ofLine? line = some .quit ↔ line.asksToLeave = true := by
  have exit {t : Text} : String.ofList (Text.lower t) = "exit" ↔
      t.map Char.toLower = ['e', 'x', 'i', 't'] := by
    rw [← Text.lower_eq_iff (by simp [Text.IsPlainSmall]), ← String.ofList_inj]
  have quit {t : Text} : String.ofList (Text.lower t) = "quit" ↔
      t.map Char.toLower = ['q', 'u', 'i', 't'] := by
    rw [← Text.lower_eq_iff (by simp [Text.IsPlainSmall]), ← String.ofList_inj]
  unfold ofLine? Text.asksToLeave
  generalize line.trim = trimmed
  cases trimmed with
  | nil => simp
  | cons c name =>
    by_cases colon : c = ':'
    · subst colon
      simp only [Option.some.injEq, ofName_eq_quit_iff, exit, quit, Bool.or_eq_true, beq_iff_eq]
    · simp [colon]

end Reckoner
