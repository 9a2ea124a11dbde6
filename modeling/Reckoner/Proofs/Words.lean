import Reckoner.Proofs.Neighbours
import Reckoner.Proofs.SignedNumeral

namespace Reckoner.Text

/-- A word is not empty and holds no white space. -/
def IsWord (piece : Text) : Prop :=
  piece ≠ [] ∧ ∀ c ∈ piece, isBlank c = false

/-- The words of a text in order. Each takes in all up to the next white space. -/
inductive HasWords : Text → List Text → Prop
  | none {gap : Text} : (∀ c ∈ gap, isBlank c = true) → HasWords gap []
  | word {gap piece rest : Text} {later : List Text} : (∀ c ∈ gap, isBlank c = true) →
      IsWord piece → (∀ c ∈ rest.head?, isBlank c = true) → HasWords rest later →
      HasWords (gap ++ (piece ++ rest)) (piece :: later)

variable {t gap piece rest : Text} {pieces : List Text} {c : Char}

theorem words_cons_blank (blank : isBlank c = true) (rest : Text) :
    words (c :: rest) = words rest := by
  simp [words, wordsFrom, blank]

theorem words_gap_append (blank : ∀ c ∈ gap, isBlank c = true) (rest : Text) :
    words (gap ++ rest) = words rest := by
  induction gap with
  | nil => rfl
  | cons c gap ih =>
    obtain ⟨here, later⟩ := List.forall_mem_cons.mp blank
    rw [List.cons_append, words_cons_blank here, ih later]

/-- A word that is begun ends at the next white space. -/
theorem wordsFrom_append {begun : Text} (filled : begun ≠ [] ∨ piece ≠ [])
    (visible : ∀ c ∈ piece, isBlank c = false) (ends : ∀ c ∈ rest.head?, isBlank c = true) :
    wordsFrom begun (piece ++ rest) = (begun.reverse ++ piece) :: words rest := by
  induction piece generalizing begun with
  | nil =>
    have some_begun : begun ≠ [] := filled.resolve_right (by simp)
    cases rest with
    | nil => simp [words, wordsFrom, some_begun]
    | cons c rest =>
      have blank := ends c rfl
      simp [words, wordsFrom, some_begun, blank]
  | cons c piece ih =>
    obtain ⟨here, later⟩ := List.forall_mem_cons.mp visible
    rw [List.cons_append, wordsFrom, if_neg (by simp [here]), ih (Or.inl (by simp)) later]
    simp

theorem HasWords.words_eq (has : HasWords t pieces) : words t = pieces := by
  induction has with
  | @none gap blank =>
    rw [← List.append_nil gap, words_gap_append blank]
    rfl
  | word blank word ends _ ih =>
    rw [words_gap_append blank, words, wordsFrom_append (Or.inr word.1) word.2 ends, ih]
    rfl

theorem HasWords.cons_word (word : IsWord piece) (ends : ∀ c ∈ rest.head?, isBlank c = true)
    (later : HasWords rest pieces) : HasWords (piece ++ rest) (piece :: pieces) :=
  .word (List.forall_mem_nil _) word ends later

theorem HasWords.cons_blank (has : HasWords t pieces) (blank : isBlank c = true) :
    HasWords (c :: t) pieces := by
  cases has with
  | none gap => exact .none (List.forall_mem_cons.mpr ⟨blank, gap⟩)
  | word gap word ends later =>
    rw [← List.cons_append]
    exact .word (List.forall_mem_cons.mpr ⟨blank, gap⟩) word ends later

/-- A visible character begins a word or is put in front of the first one. -/
theorem HasWords.exists_cons (has : HasWords t pieces) (visible : isBlank c = false) :
    ∃ pieces, HasWords (c :: t) pieces := by
  have alone : IsWord [c] := ⟨by simp, by simpa using visible⟩
  cases has with
  | none gap =>
    refine ⟨_, .cons_word alone ?_ (.none gap)⟩
    exact fun first shown => gap first (List.mem_of_mem_head? shown)
  | @word gap piece rest later blank word ends others =>
    cases gap with
    | nil =>
      have longer : IsWord (c :: piece) :=
        ⟨List.cons_ne_nil _ _, List.forall_mem_cons.mpr ⟨visible, word.2⟩⟩
      exact ⟨_, .cons_word longer ends others⟩
    | cons first gap =>
      refine ⟨_, .cons_word alone ?_ (.word blank word ends others)⟩
      rintro _ ⟨⟩
      exact blank first (List.mem_cons_self ..)

theorem exists_hasWords (t : Text) : ∃ pieces, HasWords t pieces := by
  induction t with
  | nil => exact ⟨[], .none (by simp)⟩
  | cons c rest ih =>
    obtain ⟨pieces, has⟩ := ih
    cases blank : isBlank c with
    | true => exact ⟨pieces, has.cons_blank blank⟩
    | false => exact has.exists_cons blank

theorem hasWords_words (t : Text) : HasWords t (words t) := by
  obtain ⟨pieces, has⟩ := exists_hasWords t
  rwa [has.words_eq]

theorem HasWords.isWord (has : HasWords t pieces) : ∀ piece ∈ pieces, IsWord piece := by
  induction has with
  | none => simp
  | word _ word _ _ ih => exact List.forall_mem_cons.mpr ⟨word, ih⟩

section Map

variable {f : Char → Char} (same : ∀ c, isBlank (f c) = isBlank c)

include same

theorem isBlank_of_mem_map {white : Bool} (each : ∀ c ∈ t, isBlank c = white) :
    ∀ c ∈ t.map f, isBlank c = white := by
  intro c member
  obtain ⟨other, inside, rfl⟩ := List.mem_map.mp member
  rw [same, each other inside]

/-- What leaves white space alone leaves the cuts alone. -/
theorem HasWords.map (has : HasWords t pieces) :
    HasWords (t.map f) (pieces.map (·.map f)) := by
  induction has with
  | none blank => exact .none (isBlank_of_mem_map same blank)
  | @word gap piece rest later blank word ends _ ih =>
    have filled : piece.map f ≠ [] := by simpa using word.1
    rw [List.map_append, List.map_append, List.map_cons]
    refine .word (isBlank_of_mem_map same blank) ⟨filled, isBlank_of_mem_map same word.2⟩ ?_ ih
    rw [List.head?_map]
    intro c shown
    obtain ⟨other, first, rfl⟩ := Option.mem_map.mp shown
    rw [same, ends other first]

end Map

/-- No white space but single spaces, and none of them at the end. -/
structure IsSpaced (t : Text) : Prop where
  last : ∀ c ∈ t.getLast?, isBlank c = false
  onlySpaces : ∀ c ∈ t, isBlank c = true → c = ' '
  singleSpaces : (' ', ' ') ∉ neighbours t

/-- No white space but single spaces, and none of them at an end. -/
structure IsTidy (t : Text) : Prop extends IsSpaced t where
  first : ∀ c ∈ t.head?, isBlank c = false

theorem IsWord.hasWords (word : IsWord piece) : HasWords piece [piece] := by
  have has : HasWords (piece ++ []) [piece] := .cons_word word (by simp) (.none (by simp))
  rwa [List.append_nil] at has

theorem isTidy_of_visible (visible : ∀ c ∈ t, isBlank c = false) : IsTidy t where
  first c shown := visible c (List.mem_of_mem_head? shown)
  last c shown := visible c (List.mem_of_getLast? shown)
  onlySpaces c member blank := by simp [visible c member] at blank
  singleSpaces member := by cases visible ' ' (List.of_mem_zip member).1

theorem IsTidy.append (word : IsWord piece) (tidy : IsTidy t) (filled : t ≠ []) :
    IsTidy (piece ++ ' ' :: t) where
  first c shown := by
    rw [List.head?_append_of_ne_nil _ word.1] at shown
    exact word.2 c (List.mem_of_mem_head? shown)
  last c shown := by
    rw [List.append_cons, List.getLast?_append_of_ne_nil _ filled] at shown
    exact tidy.last c shown
  onlySpaces c member blank := by
    rcases List.mem_append.mp member with inside | behind
    · simp [word.2 c inside] at blank
    · rcases List.mem_cons.mp behind with rfl | later
      · rfl
      · exact tidy.onlySpaces c later blank
  singleSpaces member := by
    rw [neighbours_append_cons] at member
    rcases List.mem_append.mp member with inside | behind
    · rcases mem_neighbours_append_singleton.mp inside with earlier | ⟨shown, _⟩
      · cases word.2 ' ' (List.of_mem_zip earlier).1
      · cases word.2 ' ' (List.mem_of_getLast? shown)
    · rcases mem_neighbours_cons.mp behind with ⟨_, shown⟩ | later
      · cases tidy.first ' ' shown
      · exact tidy.singleSpaces later

/-- Words with single spaces between them make a tidy text with these words. -/
theorem isTidy_intercalate (each : ∀ piece ∈ pieces, IsWord piece) :
    IsTidy ([' '].intercalate pieces) ∧ HasWords ([' '].intercalate pieces) pieces := by
  induction pieces with
  | nil => exact ⟨isTidy_of_visible (by simp), .none (by simp)⟩
  | cons piece others ih =>
    obtain ⟨word, later⟩ := List.forall_mem_cons.mp each
    cases others with
    | nil =>
      rw [List.intercalate_singleton]
      exact ⟨isTidy_of_visible word.2, word.hasWords⟩
    | cons next others =>
      obtain ⟨tidy, has⟩ := ih later
      have filled : [' '].intercalate (next :: others) ≠ [] := by
        intro empty
        rw [empty] at has
        cases has.words_eq
      rw [List.intercalate_cons_cons, List.append_assoc, List.singleton_append]
      exact ⟨tidy.append word filled, .cons_word word (by simp [isBlank]) (has.cons_blank rfl)⟩

theorem IsSpaced.suffix {front : Text} (spaced : IsSpaced (front ++ t)) : IsSpaced t where
  last c shown := by
    refine spaced.last c ?_
    rw [List.getLast?_append_of_ne_nil _ (by rintro rfl; cases shown)]
    exact shown
  onlySpaces c member := spaced.onlySpaces c (List.mem_append_right _ member)
  singleSpaces member :=
    spaced.singleSpaces (mem_neighbours_of_within (List.suffix_append front t).isInfix member)

/-- Single spaces stand between the words and nowhere else, unless one stands in front. -/
theorem HasWords.eq_intercalate_or (has : HasWords t pieces) (spaced : IsSpaced t) :
    t = [' '].intercalate pieces ∨ t = ' ' :: [' '].intercalate pieces := by
  induction has with
  | @none gap blank =>
    rcases List.eq_nil_or_concat gap with rfl | ⟨front, c, rfl⟩
    · exact Or.inl rfl
    · have visible := spaced.last c (by simp)
      simp [blank c (by simp)] at visible
  | @word gap piece rest later blank word ends others ih =>
    have behind : IsSpaced rest := spaced.suffix.suffix
    have joined : piece ++ rest = [' '].intercalate (piece :: later) := by
      cases later with
      | nil =>
        rcases ih behind with rfl | rfl
        · simp
        · cases behind.last ' ' rfl
      | cons next later =>
        obtain ⟨tidy, has⟩ := isTidy_intercalate others.isWord
        rcases ih behind with same | rfl
        · cases shown : rest.head? with
          | none =>
            rw [← same, List.head?_eq_none_iff.mp shown] at has
            cases has.words_eq
          | some c =>
            have visible := tidy.first c (by rw [← same]; exact shown)
            simp [ends c shown] at visible
        · simp
    cases gap with
    | nil => exact Or.inl joined
    | cons c gap =>
      have space : c = ' ' :=
        spaced.onlySpaces c (by simp) (blank c (List.mem_cons_self ..))
      cases gap with
      | nil => exact Or.inr (by rw [space, List.singleton_append, joined])
      | cons d gap =>
        have again : d = ' ' := spaced.onlySpaces d (by simp) (blank d (by simp))
        refine absurd ?_ spaced.singleSpaces
        rw [space, again]
        exact List.mem_cons_self ..

/-- A tidy text is determined by its words. -/
theorem IsTidy.eq_intercalate (tidy : IsTidy t) : t = [' '].intercalate (words t) := by
  rcases (hasWords_words t).eq_intercalate_or tidy.toIsSpaced with same | same
  · exact same
  · cases tidy.first ' ' (by rw [same]; rfl)

/-- A text with a space for each run of white space. -/
def collapsed : Text → Text
  | [] => []
  | c :: rest =>
    if isBlank c then if rest.head?.any isBlank then collapsed rest else ' ' :: collapsed rest
    else c :: collapsed rest

/-- A space ends a word as well as the run that it stands for. -/
theorem wordsFrom_collapsed (begun t : Text) :
    wordsFrom begun (collapsed t) = wordsFrom begun t := by
  induction t generalizing begun with
  | nil => rfl
  | cons c rest ih =>
    rw [collapsed]
    split
    · rename_i blank
      split
      · rename_i goesOn
        rw [ih]
        -- The word ends at the first character of the run as well as at the next one.
        cases rest with
        | nil => cases goesOn
        | cons next rest =>
          have again : isBlank next = true := goesOn
          cases begun <;> simp [wordsFrom, blank, again]
      · have space : isBlank ' ' = true := rfl
        simp only [wordsFrom, blank, space, if_true, ih]
    · rename_i visible
      rw [wordsFrom, wordsFrom, if_neg visible, if_neg visible, ih]

theorem head?_collapsed (visible : t.head?.any isBlank = false) :
    (collapsed t).head? = t.head? := by
  cases t with
  | nil => rfl
  | cons c rest =>
    have here : isBlank c = false := visible
    simp [collapsed, here]

theorem onlySpaces_collapsed (t : Text) : ∀ c ∈ collapsed t, isBlank c = true → c = ' ' := by
  induction t with
  | nil => simp [collapsed]
  | cons c rest ih =>
    rw [collapsed]
    split
    · split
      · exact ih
      · exact List.forall_mem_cons.mpr ⟨fun _ => rfl, ih⟩
    · rename_i visible
      exact List.forall_mem_cons.mpr ⟨fun blank => absurd blank visible, ih⟩

theorem singleSpaces_collapsed (t : Text) : (' ', ' ') ∉ neighbours (collapsed t) := by
  induction t with
  | nil => simp [collapsed, neighbours]
  | cons c rest ih =>
    rw [collapsed]
    split
    · split
      · exact ih
      · rename_i visible
        rw [mem_neighbours_cons, head?_collapsed (by simpa using visible)]
        rintro (⟨_, shown⟩ | later)
        · exact visible (by rw [shown]; rfl)
        · exact ih later
    · rename_i visible
      rw [mem_neighbours_cons]
      rintro (⟨rfl, _⟩ | later)
      · exact visible rfl
      · exact ih later

theorem HasWords.append_gap (has : HasWords t pieces) (blank : ∀ c ∈ gap, isBlank c = true) :
    HasWords (t ++ gap) pieces := by
  induction has with
  | none front => exact .none (by simpa only [List.forall_mem_append] using And.intro front blank)
  | @word front piece rest later before word ends _ ih =>
    rw [List.append_assoc, List.append_assoc]
    refine .word before word (fun c shown => ?_) ih
    rw [List.head?_append] at shown
    cases first : rest.head? with
    | none =>
      rw [first] at shown
      exact blank c (List.mem_of_mem_head? shown)
    | some other =>
      rw [first] at shown
      cases shown
      exact ends c first

theorem words_trim (t : Text) : words (trim t) = words t := by
  obtain ⟨left, right, shape, before, behind⟩ := exists_margins isBlank t
  have has := (hasWords_words (trim t)).append_gap behind
  conv_rhs => rw [shape, List.append_assoc, words_gap_append before]
  exact has.words_eq.symm

theorem first_trimStart (t : Text) : ∀ c ∈ (trimStart t).head?, isBlank c = false := by
  intro c shown
  have bare := List.head?_dropWhile_not isBlank t
  rw [← trimStart, Option.mem_def.mp shown] at bare
  exact bare

theorem last_trim (t : Text) : ∀ c ∈ (trim t).getLast?, isBlank c = false := by
  rw [trim, List.getLast?_reverse]
  exact first_trimStart _

theorem first_trim (t : Text) : ∀ c ∈ (trim t).head?, isBlank c = false := by
  intro c shown
  have start : trim t <+: trimStart t := by
    rw [← List.reverse_reverse (trimStart t), trim, List.reverse_prefix]
    exact List.dropWhile_suffix _
  obtain ⟨right, shape⟩ := start
  refine first_trimStart t c ?_
  rw [← shape, List.head?_append, Option.mem_def.mp shown]
  rfl

/-- Runs of white space replaced by spaces and both ends trimmed, that leaves the words with single
spaces between them. -/
theorem trim_collapsed (t : Text) : trim (collapsed t) = [' '].intercalate (words t) := by
  obtain ⟨left, right, shape, _⟩ := exists_margins isBlank (collapsed t)
  have within : trim (collapsed t) <:+: collapsed t := ⟨left, right, shape.symm⟩
  have tidy : IsTidy (trim (collapsed t)) :=
    { first := first_trim _
      last := last_trim _
      onlySpaces := fun c member => onlySpaces_collapsed t c (within.subset member)
      singleSpaces := fun member =>
        singleSpaces_collapsed t (mem_neighbours_of_within within member) }
  have same : words (trim (collapsed t)) = words t :=
    (words_trim _).trans (wordsFrom_collapsed [] t)
  rw [tidy.eq_intercalate, same]

end Reckoner.Text
