import LintDaemon.Proofs.Text.Erasing
import LintDaemon.Proofs.Text.Lines
import Mathlib.Data.List.DropRight

/-!
# The last line of a text

A text up to its last line boundary, and the line that has begun behind it.

* `ended`, `begun`: the two parts of a text; `ended_append`, `begun_append` say that no others are
  such parts.
* `lines_append`: behind a line boundary the lines are cut afresh.
* `ended_erase`, `begun_erase`: a pattern on one line is erased in the two parts.
-/

namespace LintDaemon.Text

variable {pattern s t : List Char} {c : Char}

/-- A text up to its last line boundary. -/
def ended (s : List Char) : List Char :=
  s.rdropWhile (!isLineBreak ·)

/-- The line that has begun behind the last line boundary of a text. -/
def begun (s : List Char) : List Char :=
  s.rtakeWhile (!isLineBreak ·)

/-- A text in which no line has begun: it is empty, or a line boundary is its last character. -/
def IsEnded (s : List Char) : Prop :=
  ∀ c ∈ s.getLast?, isLineBreak c = true

/-- A text is its lines that have ended and the one that has begun. -/
theorem ended_append_begun (s : List Char) : ended s ++ begun s = s :=
  List.rdropWhile_append_rtakeWhile

/-- A text begins with its lines that have ended. -/
theorem ended_isPrefix (s : List Char) : ended s <+: s :=
  List.rdropWhile_prefix _ s

/-- Behind the last line boundary there is none. -/
theorem isUnbroken_begun (s : List Char) : IsUnbroken (begun s) := by
  intro c hc
  simpa using List.mem_rtakeWhile_imp hc

/-- Up to the last line boundary no line has begun. -/
theorem isEnded_ended (s : List Char) : IsEnded (ended s) := by
  intro c hc
  obtain ⟨hne, hlast⟩ := List.mem_getLast?_eq_getLast hc
  have hbreak := List.rdropWhile_last_not (!isLineBreak ·) s hne
  rw [hlast]
  simpa [ended] using hbreak

/-- No other parts of a text have ended and begun. -/
theorem ended_begun_append (hs : IsEnded s) (ht : IsUnbroken t) :
    ended (s ++ t) = s ∧ begun (s ++ t) = t := by
  have hlast : ∀ hne : s ≠ [], ¬ (!isLineBreak (s.getLast hne)) = true := by
    intro hne
    simp [hs _ (List.getLast?_eq_some_getLast hne)]
  induction t using List.reverseRecOn with
  | nil =>
    rw [List.append_nil]
    exact ⟨List.rdropWhile_eq_self_iff.mpr hlast, List.rtakeWhile_eq_nil_iff.mpr hlast⟩
  | append_singleton t c ih =>
    have hc : (!isLineBreak c) = true := by simp [ht c (by simp)]
    obtain ⟨hended, hbegun⟩ := ih fun d hd => ht d (List.mem_append_left _ hd)
    rw [← List.append_assoc, ended, begun,
      List.rdropWhile_concat_pos (!isLineBreak ·) (s ++ t) c hc,
      List.rtakeWhile_concat_pos (!isLineBreak ·) (s ++ t) c hc]
    exact ⟨hended, congrArg (· ++ [c]) hbegun⟩

/-- Where no line has begun, all have ended. -/
theorem IsEnded.ended_begun_eq (hs : IsEnded s) : ended s = s ∧ begun s = [] := by
  have hparts := ended_begun_append hs (fun c hc => nomatch hc : IsUnbroken [])
  rwa [List.append_nil] at hparts

/-- A text that is not empty and in which no line has begun ends with a line boundary. -/
theorem IsEnded.exists_concat (hs : IsEnded s) (hne : s ≠ []) :
    ∃ t c, s = t ++ [c] ∧ isLineBreak c = true :=
  ⟨s.dropLast, s.getLast hne, (List.dropLast_append_getLast hne).symm,
    hs _ (List.getLast?_eq_some_getLast hne)⟩

/-! ## Lines -/

/-- Behind a line boundary the lines are cut afresh. -/
theorem lines_append (hs : IsEnded s) (hreturn : '\r' ∉ s) (t : List Char) :
    lines (s ++ t) = lines s ++ lines t := by
  induction s with
  | nil => rfl
  | cons c s ih =>
    have hc : c ≠ '\r' := fun heq => hreturn (heq ▸ List.mem_cons_self)
    have hrest : '\r' ∉ s := fun h => hreturn (List.mem_cons_of_mem c h)
    rw [List.cons_append, lines_cons hc, lines_cons hc]
    by_cases hnil : s = []
    · subst hnil
      rw [hs c rfl]
      rfl
    · have hended : IsEnded s := by
        intro d hd
        apply hs
        rwa [List.getLast?_cons_of_ne_nil hnil]
      rw [ih hended hrest]
      split_ifs
      · rfl
      · exact consLine_append c (lines_ne_nil hnil) _

/-- A text without a line boundary is one line, if it is not empty. -/
theorem lines_eq_singleton (hs : IsUnbroken s) (hne : s ≠ []) : lines s = [s] := by
  induction s with
  | nil => exact absurd rfl hne
  | cons c s ih =>
    have hbreak := hs c List.mem_cons_self
    have hreturn : c ≠ '\r' := by
      rintro rfl
      cases hbreak
    rw [lines_cons hreturn, hbreak, if_neg Bool.false_ne_true]
    by_cases hnil : s = []
    · rw [hnil]
      rfl
    · rw [ih (fun d hd => hs d (List.mem_cons_of_mem c hd)) hnil]
      rfl

/-- What follows a text goes on with the line that has begun. -/
theorem lines_append_begun (hreturn : '\r' ∉ s) (t : List Char) :
    lines (s ++ t) = lines (ended s) ++ lines (begun s ++ t) := by
  have hended : '\r' ∉ ended s := fun hmem => hreturn ((ended_isPrefix s).subset hmem)
  rw [← lines_append (isEnded_ended s) hended, ← List.append_assoc, ended_append_begun]

/-- The lines of a text are those that have ended and the one that has begun. -/
theorem lines_eq_append_begun (hreturn : '\r' ∉ s) :
    lines s = lines (ended s) ++ lines (begun s) := by
  have hcut := lines_append_begun hreturn []
  rwa [List.append_nil, List.append_nil] at hcut

/-- A line feed behind a text adds at most an empty line. -/
theorem exists_lines_newline (hreturn : '\r' ∉ s) (t : List Char) :
    ∃ k, (∀ line ∈ k, line = []) ∧ lines (s ++ '\n' :: t) = lines s ++ (k ++ lines t) := by
  rw [lines_append_begun hreturn, lines_newline, lines_of_unbroken (isUnbroken_begun s),
    lines_eq_append_begun hreturn]
  by_cases hbegun : begun s = []
  · exact ⟨[[]], by simp, by simp [hbegun, lines]⟩
  · exact ⟨[], by simp, by simp [lines_eq_singleton (isUnbroken_begun s) hbegun]⟩

/-! ## Erasing -/

/-- What is left of a text on one line is on one line. -/
theorem IsUnbroken.erase (hs : IsUnbroken s) (pattern : List Char) :
    IsUnbroken (erase pattern s) :=
  fun c hc => hs c ((erase_sublist pattern s).subset hc)

/-- A pattern on one line is erased in parts behind a line boundary. -/
theorem erase_append_of_isEnded (hne : pattern ≠ []) (hpattern : IsUnbroken pattern)
    (hs : IsEnded s) (t : List Char) :
    erase pattern (s ++ t) = erase pattern s ++ erase pattern t := by
  by_cases hnil : s = []
  · rw [hnil]
    rfl
  · obtain ⟨u, c, rfl, hbreak⟩ := hs.exists_concat hnil
    have hc : c ∉ pattern := by
      intro hmem
      rw [hpattern c hmem] at hbreak
      cases hbreak
    rw [List.append_assoc, List.singleton_append, erase_append_cons hne hc,
      erase_append_cons hne hc, List.append_assoc]
    rfl

/-- If a pattern on one line is erased, no line has begun that had not begun before. -/
theorem IsEnded.erase (hne : pattern ≠ []) (hpattern : IsUnbroken pattern) (hs : IsEnded s) :
    IsEnded (erase pattern s) := by
  by_cases hnil : s = []
  · rw [hnil]
    exact fun c hc => nomatch hc
  · obtain ⟨u, c, rfl, hbreak⟩ := hs.exists_concat hnil
    have hc : c ∉ pattern := by
      intro hmem
      rw [hpattern c hmem] at hbreak
      cases hbreak
    rw [erase_append_cons hne hc, erase_nil]
    intro d hd
    rw [List.getLast?_concat] at hd
    exact Option.some.inj hd ▸ hbreak

/-- A pattern on one line is erased in the lines that have ended and in the one that has begun. -/
theorem ended_begun_erase (hne : pattern ≠ []) (hpattern : IsUnbroken pattern) (s : List Char) :
    ended (erase pattern s) = erase pattern (ended s) ∧
      begun (erase pattern s) = erase pattern (begun s) := by
  have hparts : erase pattern s = erase pattern (ended s) ++ erase pattern (begun s) := by
    rw [← erase_append_of_isEnded hne hpattern (isEnded_ended s), ended_append_begun]
  rw [hparts]
  exact ended_begun_append ((isEnded_ended s).erase hne hpattern)
    ((isUnbroken_begun s).erase pattern)

/-- If a pattern on one line is erased, what follows a text goes on with the line that has begun. -/
theorem lines_erase_append (hne : pattern ≠ []) (hpattern : IsUnbroken pattern)
    (hreturn : '\r' ∉ s) (t : List Char) : lines (erase pattern (s ++ t)) =
      lines (ended (erase pattern s)) ++ lines (erase pattern (begun s ++ t)) := by
  have hended : '\r' ∉ erase pattern (ended s) := fun hmem =>
    hreturn ((ended_isPrefix s).subset ((erase_sublist pattern _).subset hmem))
  rw [(ended_begun_erase hne hpattern s).1,
    ← lines_append ((isEnded_ended s).erase hne hpattern) hended,
    ← erase_append_of_isEnded hne hpattern (isEnded_ended s), ← List.append_assoc,
    ended_append_begun]

end LintDaemon.Text
