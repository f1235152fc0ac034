import LintDaemon.Text.Line
import Mathlib.Data.List.Infix

/-!
# Erasing a pattern

A text is read from the left; where the pattern begins it is left out, and reading goes on behind
it.

* `erase_pattern_append`, `erase_cons`: one step of reading.
* `erase_join`: pieces with the pattern between them become the pieces, if it begins in none.
* `erase_append`, `erase_append_cons`: a text is erased in parts where the pattern does not begin in
  one part and end in the next.
-/

namespace LintDaemon.Text

variable {pattern s t : List Char} {c : Char}

/-- Characters that are passed are left out. -/
theorem eraseFrom_eq_erase_drop (pattern : List Char) (skip : Nat) (s : List Char) :
    eraseFrom pattern skip s = erase pattern (s.drop skip) := by
  induction s generalizing skip with
  | nil => cases skip <;> rfl
  | cons c s ih =>
    cases skip with
    | zero => rfl
    | succ skip => exact ih skip

/-- Of no text nothing is left. -/
@[simp] theorem erase_nil (pattern : List Char) : erase pattern [] = [] :=
  rfl

/-- Where the pattern begins it is left out. -/
theorem erase_pattern_append (hne : pattern ≠ []) (s : List Char) :
    erase pattern (pattern ++ s) = erase pattern s := by
  obtain ⟨c, rest, rfl⟩ := List.exists_cons_of_ne_nil hne
  show eraseFrom (c :: rest) 0 (c :: (rest ++ s)) = _
  have hbegins : (c :: rest).isPrefixOf (c :: (rest ++ s)) = true :=
    List.isPrefixOf_iff_prefix.mpr (List.prefix_append (c :: rest) s)
  rw [eraseFrom, if_pos hbegins, eraseFrom_eq_erase_drop]
  simp

/-- Where it does not begin, the character stays. -/
theorem erase_cons (h : ¬ pattern <+: c :: s) :
    erase pattern (c :: s) = c :: erase pattern s := by
  show eraseFrom pattern 0 (c :: s) = _
  rw [eraseFrom, if_neg (mt List.isPrefixOf_iff_prefix.mp h)]
  rfl

/-- A text in which the pattern does not begin stays. -/
theorem erase_append_of_not_isPrefix
    (h : ∀ u, u ≠ [] → u <:+ s → ¬ pattern <+: u ++ t) :
    erase pattern (s ++ t) = s ++ erase pattern t := by
  induction s with
  | nil => rfl
  | cons c s ih =>
    have hfirst : ¬ pattern <+: c :: (s ++ t) := h (c :: s) (List.cons_ne_nil _ _) List.suffix_rfl
    have hrest := ih fun u hu hsuffix => h u hu (hsuffix.trans (List.suffix_cons c s))
    rw [List.cons_append, erase_cons hfirst, hrest]
    rfl

/-! ## Pieces with the pattern between them -/

/-- A pattern begins nowhere in a piece, not even if it goes on behind it. -/
def Avoids (pattern piece : List Char) : Prop :=
  ¬ pattern <:+: piece ++ pattern.dropLast

/-- Whether a piece avoids a pattern can be computed. -/
instance (pattern piece : List Char) : Decidable (Avoids pattern piece) :=
  inferInstanceAs (Decidable (¬ pattern <:+: piece ++ pattern.dropLast))

/-- In front of a pattern, and at the end, a piece that avoids it stays. -/
theorem Avoids.erase_append {piece : List Char} (h : Avoids pattern piece)
    (ht : t <+: pattern ++ s) : erase pattern (piece ++ t) = piece ++ erase pattern t := by
  apply erase_append_of_not_isPrefix
  intro u hu hsuffix hbegins
  apply h
  -- what begins in the piece ends before the last character of the pattern behind it
  have hwhole : pattern <+: u ++ (pattern ++ s) :=
    hbegins.trans ((List.prefix_append_right_inj u).mpr ht)
  have hpart : u ++ pattern.dropLast <+: u ++ (pattern ++ s) :=
    (List.prefix_append_right_inj u).mpr
      ((List.dropLast_prefix pattern).trans (List.prefix_append pattern s))
  have hlength : pattern.length ≤ (u ++ pattern.dropLast).length := by
    have hpos := List.length_pos_iff.mpr hu
    rw [List.length_append, List.length_dropLast]
    omega
  have hprefix := List.prefix_of_prefix_length_le hwhole hpart hlength
  obtain ⟨first, rfl⟩ := hsuffix
  rw [List.append_assoc]
  exact hprefix.isInfix.trans (List.suffix_append first _).isInfix

/-- **Of pieces with the pattern between them the pieces are left**, if they avoid it. -/
theorem erase_join (hne : pattern ≠ []) {pieces : List (List Char)}
    (h : ∀ piece ∈ pieces, Avoids pattern piece) :
    erase pattern (join pattern pieces) = pieces.flatten := by
  induction pieces with
  | nil => rfl
  | cons piece rest ih =>
    have hpiece := h piece List.mem_cons_self
    have hrest := ih fun p hp => h p (List.mem_cons_of_mem _ hp)
    cases rest with
    | nil =>
      have hend : erase pattern (piece ++ []) = piece ++ erase pattern [] :=
        hpiece.erase_append (@List.nil_prefix _ (pattern ++ []))
      show erase pattern piece = [piece].flatten
      simpa using hend
    | cons next rest =>
      have hjoin : join pattern (piece :: next :: rest) =
          piece ++ (pattern ++ join pattern (next :: rest)) := by
        rw [join, List.append_assoc]
        exact List.cons_ne_nil _ _
      rw [hjoin, hpiece.erase_append List.prefix_rfl, erase_pattern_append hne, hrest]
      rfl

/-! ## Texts in parts -/

/-- A text is erased in parts where the pattern ends in the first part if it begins there. -/
theorem erase_append (hne : pattern ≠ []) (hwithin : ∀ u, pattern <+: u ++ t → pattern <+: u)
    (s : List Char) : erase pattern (s ++ t) = erase pattern s ++ erase pattern t := by
  induction hlength : s.length using Nat.strong_induction_on generalizing s with
  | _ length ih =>
    cases s with
    | nil => rfl
    | cons d s =>
      by_cases hbegins : pattern <+: d :: s
      · obtain ⟨rest, hrest⟩ := hbegins
        rw [← hrest, List.append_assoc, erase_pattern_append hne, erase_pattern_append hne]
        refine ih rest.length ?_ rest rfl
        have hpos := List.length_pos_iff.mpr hne
        rw [← hlength, ← hrest, List.length_append]
        omega
      · have hstays : ¬ pattern <+: d :: (s ++ t) := mt (hwithin (d :: s)) hbegins
        rw [List.cons_append, erase_cons hstays, erase_cons hbegins,
          ih s.length (by rw [← hlength]; exact Nat.lt_succ_self _) s rfl]
        rfl

/-- At a character that is not in the pattern, a text is erased in parts. -/
theorem erase_append_cons (hne : pattern ≠ []) (hc : c ∉ pattern) (s t : List Char) :
    erase pattern (s ++ c :: t) = erase pattern s ++ c :: erase pattern t := by
  have hwithin : ∀ u, pattern <+: u ++ c :: t → pattern <+: u := by
    intro u hbegins
    by_contra hnot
    rcases List.prefix_or_prefix_of_prefix hbegins (List.prefix_append u (c :: t)) with hin | hover
    · exact hnot hin
    · obtain ⟨more, rfl⟩ := hover
      have hmore := (List.prefix_append_right_inj u).mp hbegins
      cases more with
      | nil => exact hnot (by simp)
      | cons d more =>
        rw [(List.cons_prefix_cons.mp hmore).1] at hc
        exact hc (by simp)
  have hstays : ¬ pattern <+: c :: t := fun h => hne (List.prefix_nil.mp (hwithin [] h))
  rw [erase_append hne hwithin, erase_cons hstays]

/-- One more character at the end of a text stays, unless the pattern ends with it. -/
theorem erase_concat (hne : pattern ≠ []) (hc : pattern.getLast? ≠ some c) (s : List Char) :
    erase pattern (s ++ [c]) = erase pattern s ++ [c] := by
  have hwithin : ∀ u, pattern <+: u ++ [c] → pattern <+: u := by
    intro u hbegins
    rcases List.prefix_concat_iff.mp hbegins with rfl | hin
    · exact absurd List.getLast?_concat hc
    · exact hin
  have hstays : ¬ pattern <+: [c] := fun h => hne (List.prefix_nil.mp (hwithin [] h))
  rw [erase_append hne hwithin, erase_cons hstays]
  rfl

/-- What is left of a text was in it. -/
theorem erase_sublist (pattern s : List Char) : (erase pattern s).Sublist s := by
  have hfrom : ∀ skip, (eraseFrom pattern skip s).Sublist s := by
    induction s with
    | nil =>
      intro skip
      cases skip <;> exact List.Sublist.slnil
    | cons c s ih =>
      intro skip
      cases skip with
      | succ skip => exact (ih skip).cons c
      | zero =>
        rw [eraseFrom]
        split_ifs
        · exact (ih _).cons c
        · exact (ih 0).cons_cons c
  exact hfrom 0

end LintDaemon.Text
