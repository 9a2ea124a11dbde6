import Reckoner.Proofs.Canonical
import Reckoner.Proofs.Words

namespace Reckoner

theorem displayGlyph_eq_self_iff {c : Char} : displayGlyph c = c ↔ c ≠ '*' ∧ c ≠ '/' := by
  fun_cases displayGlyph c <;> simp_all

theorem displayGlyph_idem (c : Char) : displayGlyph (displayGlyph c) = displayGlyph c := by
  fun_cases displayGlyph c <;> simp_all [displayGlyph]

theorem displayGlyph_canonicalGlyph (c : Char) :
    displayGlyph (canonicalGlyph c) = displayGlyph c := by
  fun_cases canonicalGlyph c <;> rfl

namespace Text

/-- A text as the display shows it: display glyphs only, and no white space but single spaces
between the words. -/
structure IsDisplayed (f : Text) : Prop extends IsTidy f where
  noAsterisk : '*' ∉ f
  noSlash : '/' ∉ f

variable {f t : Text}

theorem map_eq_self_iff {g : Char → Char} : t.map g = t ↔ ∀ c ∈ t, g c = c := by
  conv_lhs => rhs; rw [← List.map_id t]
  exact List.map_inj_left

theorem map_displayGlyph_eq_self_iff : f.map displayGlyph = f ↔ '*' ∉ f ∧ '/' ∉ f := by
  simp only [map_eq_self_iff, displayGlyph_eq_self_iff]
  constructor
  · exact fun other => ⟨fun member => (other _ member).1 rfl, fun member => (other _ member).2 rfl⟩
  · rintro ⟨noAsterisk, noSlash⟩ c member
    exact ⟨fun same => noAsterisk (same ▸ member), fun same => noSlash (same ▸ member)⟩

theorem hasWords_map_displayGlyph (t : Text) :
    HasWords (t.map displayGlyph) (t.words.map (·.map displayGlyph)) :=
  HasWords.map isBlank_displayGlyph (hasWords_words t)

theorem display_eq (t : Text) :
    display t = [' '].intercalate (t.words.map (·.map displayGlyph)) := by
  rw [display, (hasWords_map_displayGlyph t).words_eq]

/-- The words are those of the text, in its order. -/
theorem isTidy_display (t : Text) :
    (display t).IsTidy ∧ (display t).HasWords (t.words.map (·.map displayGlyph)) := by
  rw [display_eq]
  exact isTidy_intercalate (hasWords_map_displayGlyph t).isWord

/-- Between the words there are spaces, and in them there are display glyphs. -/
theorem map_displayGlyph_display (t : Text) : (display t).map displayGlyph = display t := by
  obtain ⟨tidy, has⟩ := isTidy_display t
  refine map_eq_self_iff.mpr fun c member => ?_
  cases blank : isBlank c with
  | true =>
    rw [tidy.onlySpaces c member blank]
    rfl
  | false =>
    have inside : c ∈ (words (display t)).flatten := by
      rw [flatten_words]
      exact List.mem_filter.mpr ⟨member, by simp [blank]⟩
    rw [has.words_eq, ← List.map_flatten] at inside
    obtain ⟨other, _, rfl⟩ := List.mem_map.mp inside
    exact displayGlyph_idem other

theorem isDisplayed_display (t : Text) : (display t).IsDisplayed :=
  have glyphs := map_displayGlyph_eq_self_iff.mp (map_displayGlyph_display t)
  { toIsTidy := (isTidy_display t).1, noAsterisk := glyphs.1, noSlash := glyphs.2 }

theorem IsDisplayed.display_eq_self (displayed : f.IsDisplayed) : display f = f := by
  have glyphs := map_displayGlyph_eq_self_iff.mpr ⟨displayed.noAsterisk, displayed.noSlash⟩
  rw [display, glyphs]
  exact displayed.eq_intercalate.symm

theorem display_eq_self_iff : display f = f ↔ f.IsDisplayed := by
  refine ⟨fun same => ?_, IsDisplayed.display_eq_self⟩
  rw [← same]
  exact isDisplayed_display f

/-- The glyphs in which a text is typed cannot be told from its display. -/
theorem display_map_canonicalGlyph (t : Text) : display (t.map canonicalGlyph) = display t := by
  rw [display, List.map_map]
  simp only [Function.comp_def, displayGlyph_canonicalGlyph]
  rfl

end Text

/-- Display changes the glyphs, and it leaves one space of each run of white space and none at the
ends. What comes out is a normal form: it is displayed as it is, also when it is typed in canonical
glyphs, and it has the words of the text in their order. -/
theorem display_is_normal_form (t : Text) :
    display t = Text.trim (Text.collapsed (t.map displayGlyph)) ∧ (display t).IsDisplayed ∧
      t.HasWords t.words ∧ (display t).HasWords (t.words.map (·.map displayGlyph)) ∧
      (∀ f, display f = f ↔ f.IsDisplayed) ∧ display (display t) = display t ∧
      display ((display t).map canonicalGlyph) = display t := by
  have displayed : (display t).IsDisplayed := Text.isDisplayed_display t
  refine ⟨(Text.trim_collapsed _).symm, displayed, Text.hasWords_words t, (Text.isTidy_display t).2,
    fun _ => Text.display_eq_self_iff, displayed.display_eq_self, ?_⟩
  rw [Text.display_map_canonicalGlyph, displayed.display_eq_self]

end Reckoner
