import LintDaemon.Proofs.Tables
import LintDaemon.Text.Blank
import LintDaemon.Text.LetterCase
import Mathlib.Data.List.SplitBy
import Mathlib.Tactic.SplitIfs

/-!
# Characters of texts that were worked on

* `mem_of_mem_words`: the characters of words are those of the text.
* `toNat_ofNat`: the code point of a character made from a number.
* `mem_of_mem_lower`: an opening bracket in the lower case of a text was in the text.
-/

namespace LintDaemon.Text

/-- A character of a word is one of the text. -/
theorem mem_of_mem_words {c : Char} {s word : List Char} (hword : word ∈ words s) (hc : c ∈ word) :
    c ∈ s := by
  have hpiece : word ∈ s.splitBy fun a b => isBlank a == isBlank b := (List.mem_filter.mp hword).1
  rw [← List.flatten_splitBy (fun a b => isBlank a == isBlank b) s]
  exact List.mem_flatten_of_mem hpiece hc

/-- The code point of a character made from a number, which is zero if there is none. -/
theorem toNat_ofNat (n : Nat) : (Char.ofNat n).toNat = if n.isValidChar then n else 0 := by
  by_cases h : n.isValidChar
  · rw [if_pos h, Char.ofNat, dif_pos h]
    rfl
  · rw [if_neg h, Char.ofNat, dif_neg h]
    rfl

/-- A character made from a greater code point than that of an opening bracket is none. -/
theorem ofNat_ne_bracket {n : Nat} (h : 40 < n) : Char.ofNat n ≠ '(' := by
  intro heq
  have hvalue := congrArg Char.toNat heq
  have hbracket : '('.toNat = 40 := rfl
  rw [toNat_ofNat, hbracket] at hvalue
  split_ifs at hvalue
  omega

/-- An opening bracket is the lower case of nothing else. -/
theorem eq_of_mem_mapCase {c : Char} (h : '(' ∈ mapCase lowerRanges lowerExpansions c) :
    c = '(' := by
  have hranges : ∀ r ∈ lowerRanges, (40 : Int) < r.first + r.shift := by decide +kernel
  have hexpansions : ∀ entry ∈ lowerExpansions, '(' ∉ entry.2.map Char.ofNat := by decide +kernel
  unfold mapCase at h
  split at h
  · rename_i cs hlookup
    exact absurd h (hexpansions _ (Tables.mem_of_lookup_eq_some hlookup))
  · split at h
    · rename_i n hn
      obtain ⟨r, hr, hmap⟩ := List.exists_of_findSome?_eq_some hn
      have hbound := hranges r hr
      unfold CaseRange.map? at hmap
      split_ifs at hmap with hrange
      cases hmap
      exact absurd (List.mem_singleton.mp h).symm (ofNat_ne_bracket (by omega))
    · exact (List.mem_singleton.mp h).symm

/-- A text has an opening bracket in lower case only if it has one. -/
theorem mem_of_mem_lower {s : List Char} (h : '(' ∈ lower s) : '(' ∈ s := by
  have hafter : ∀ before, '(' ∈ lowerAfter before s → '(' ∈ s := by
    clear h
    induction s with
    | nil => exact fun _ hmem => hmem
    | cons c rest ih =>
      intro before hmem
      unfold lowerAfter at hmem
      rcases List.mem_append.mp hmem with hhere | hrest
      · split_ifs at hhere
        · exact absurd hhere (by decide)
        · rw [eq_of_mem_mapCase hhere]
          exact List.mem_cons_self
      · exact List.mem_cons_of_mem c (ih _ hrest)
  exact hafter [] h

end LintDaemon.Text
