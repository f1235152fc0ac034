import LintDaemon.Proofs.Results
import LintDaemon.Proofs.Tables
import LintDaemon.Proofs.Text.LetterCase
import LintDaemon.Proofs.Text.Lines
import LintDaemon.Proofs.Text.StretchNames
import LintDaemon.Terminal.Highlight
import LintDaemon.Terminal.Theme
import Mathlib.Tactic.SplitIfs

/-!
# Styles that are known

The words for a style are an error in one way only: they ask for a mixture of colours whose parts
are no numbers. A mixture is written with an opening bracket, so all other words are safe.

* `Style.exists_ofWords?`: words whose mixtures can be read are no error.
* `Theme.IsKnown`: names of styles that are no error.
* `Theme.isKnown_of_not_mem`: names without an opening bracket are known.
* `isKnown_highlights`: so are the styles of what stands out in a text.
-/

namespace LintDaemon.Terminal

open LintDaemon.Text

/-! ## Words -/

/-- A word that writes a mixture writes numbers. -/
def Shade.WritesNumbers (word : List Char) : Prop :=
  ∀ parts ∈ arguments? "rgb" word, ∃ shade, mixture? (fields ',' parts) = .ok shade

/-- Whether a word writes numbers can be computed. -/
instance (word : List Char) : Decidable (Shade.WritesNumbers word) :=
  decidable_of_iff
    ((arguments? "rgb" word).all fun parts => (mixture? (fields ',' parts)).toOption.isSome) <| by
    unfold Shade.WritesNumbers
    cases arguments? "rgb" word with
    | none => simp
    | some parts => cases h : mixture? (fields ',' parts) <;> simp [h, Except.toOption]

/-- A word without an opening bracket writes no mixture. -/
theorem Shade.writesNumbers_of_not_mem {word : List Char} (h : '(' ∉ word) :
    WritesNumbers word := by
  rintro parts hparts
  obtain ⟨rest, hrest, -⟩ := Option.bind_eq_some_iff.mp hparts
  refine absurd ?_ h
  rw [dropPrefix?_eq_some_iff.mp hrest]
  exact List.mem_append_left _ (by simp)

/-- A word that writes numbers is no error. -/
theorem Shade.exists_ofWord? {word : List Char} (h : WritesNumbers word) :
    ∃ shade, ofWord? word = .ok shade := by
  unfold ofWord?
  split_ifs
  · exact ⟨_, rfl⟩
  split
  · exact ⟨_, rfl⟩
  split
  · exact ⟨_, rfl⟩
  split
  · exact ⟨_, rfl⟩
  · rename_i parts _ hparts
    split_ifs
    · exact h parts hparts
    · exact ⟨_, rfl⟩
  · exact ⟨_, rfl⟩

/-- Words all of which write numbers, as they are and in lower case. -/
def Style.WritesNumbers (words : List (List Char)) : Prop :=
  ∀ word ∈ words, Shade.WritesNumbers (lower word) ∧ Shade.WritesNumbers (lower (lower word))

/-- Whether words write numbers can be computed. -/
instance (words : List (List Char)) : Decidable (Style.WritesNumbers words) :=
  inferInstanceAs (Decidable (∀ _ ∈ _, _ ∧ _))

/-- Words without an opening bracket write no mixtures. -/
theorem Style.writesNumbers_of_not_mem {words : List (List Char)}
    (h : ∀ word ∈ words, '(' ∉ word) : WritesNumbers words := fun word hword =>
  ⟨Shade.writesNumbers_of_not_mem fun hmem => h word hword (mem_of_mem_lower hmem),
    Shade.writesNumbers_of_not_mem fun hmem =>
      h word hword (mem_of_mem_lower (mem_of_mem_lower hmem))⟩

/-- A word that writes numbers names a colour or none. -/
theorem Color.exists_ofWord? {word : List Char} (h : Shade.WritesNumbers (lower word)) :
    ∃ color, ofWord? word = .ok color :=
  Result.exists_map_eq_ok_iff.mpr (Shade.exists_ofWord? h)

/-- Further words that write numbers are no error. -/
theorem Style.exists_withWords? (style : Style) {words : List (List Char)}
    (h : WritesNumbers words) : ∃ result, style.withWords? words = .ok result := by
  fun_induction style.withWords? words with
  | case1 | case2 | case4 | case6 | case7 | case9 | case13 => exact ⟨_, rfl⟩
  | case3 style word lowered hon name rest e he =>
    obtain ⟨color, hcolor⟩ := Color.exists_ofWord? (h name (by simp)).1
    cases hcolor.symm.trans he
  | case5 style word lowered hon name rest color hcolor ih =>
    exact ih fun w hw => h w (List.mem_cons_of_mem _ (List.mem_cons_of_mem _ hw))
  | case8 style word lowered hon hnot name rest a ha ih =>
    exact ih fun w hw => h w (List.mem_cons_of_mem _ (List.mem_cons_of_mem _ hw))
  | case10 style word lowered hon hnot hlink name rest ih =>
    exact ih fun w hw => h w (List.mem_cons_of_mem _ (List.mem_cons_of_mem _ hw))
  | case11 style word rest lowered hon hnot hlink a ha ih =>
    exact ih fun w hw => h w (List.mem_cons_of_mem _ hw)
  | case12 style word rest lowered hon hnot hlink hnone e he =>
    obtain ⟨color, hcolor⟩ := Color.exists_ofWord? (h word List.mem_cons_self).2
    cases hcolor.symm.trans he
  | case14 style word rest lowered hon hnot hlink hnone color hcolor ih =>
    exact ih fun w hw => h w (List.mem_cons_of_mem _ hw)

/-- Words for a style that write numbers are no error. -/
theorem Style.exists_ofWords? {s : List Char} (h : WritesNumbers (words s)) :
    ∃ result, ofWords? s = .ok result := by
  unfold ofWords?
  split
  · exact ⟨_, rfl⟩
  · rename_i word hwords
    split_ifs
    · exact ⟨_, rfl⟩
    · exact exists_withWords? _ (hwords ▸ h)
  · exact exists_withWords? _ h

/-! ## Names -/

namespace Theme

/-- A style whose words hold no number that cannot be read. -/
def IsKnown (name : List Char) : Prop :=
  ∃ style, styleOf name = .ok style

/-- Whether a style is known can be computed. -/
instance (name : List Char) : Decidable (IsKnown name) :=
  decidable_of_iff ((styleOf name).toOption.isSome = true) <| by
    unfold IsKnown
    cases styleOf name <;> simp [Except.toOption]

/-- The words behind the names of the theme are no error. -/
theorem exists_ofWords?_of_mem {entry : String × String} (h : entry ∈ namedStyles) :
    ∃ result, Style.ofWords? entry.2.toList = .ok result := by
  have hwords : ∀ entry ∈ namedStyles,
      '(' ∉ entry.2.toList ∨ Style.WritesNumbers (words entry.2.toList) := by decide +kernel
  refine Style.exists_ofWords? ?_
  rcases hwords entry h with hbracket | hnumbers
  · exact Style.writesNumbers_of_not_mem fun word hword hmem =>
      hbracket (mem_of_mem_words hword hmem)
  · exact hnumbers

/-- **A name without an opening bracket is known.** -/
theorem isKnown_of_not_mem {name : List Char} (h : '(' ∉ name) : IsKnown name := by
  refine Result.exists_map_eq_ok_iff.mpr ?_
  unfold wordsFor
  cases hlookup : namedStyles.lookup (String.ofList name) with
  | none =>
    exact Style.exists_ofWords? <| Style.writesNumbers_of_not_mem fun word hword hmem =>
      h (mem_of_mem_words hword hmem)
  | some words => exact exists_ofWords?_of_mem (Tables.mem_of_lookup_eq_some hlookup)

end Theme

/-- The styles of what stands out in a text are known. -/
theorem isKnown_highlights (s : List Char) : ∀ span ∈ highlights s, Theme.IsKnown span.style := by
  have hnames : ∀ pattern ∈ Highlight.turns, ∀ name ∈ pattern.names,
      '(' ∉ (Highlight.family ++ name).toList := by decide +kernel
  intro span hspan
  obtain ⟨pattern, hpattern, hspan⟩ := List.mem_flatMap.mp hspan
  obtain ⟨stretch, hstretch, heq⟩ := List.mem_filterMap.mp hspan
  split_ifs at heq
  cases heq
  exact Theme.isKnown_of_not_mem
    (hnames pattern hpattern stretch.name (Pattern.name_mem_of_mem_all hstretch))

end LintDaemon.Terminal
