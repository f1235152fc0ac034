import LintDaemon.Text.Line
import Mathlib.Tactic.SplitIfs

/-!
# Texts put together at line ends

What the cuts of a text do where one text ends a line and another follows.

* `fields_append`, `cut_append`: fields end at a separator and start over behind it.
* `dropPrefix?_eq_some_iff`, `dropSuffix?_eq_some_iff`: beginnings and ends that are taken off.
* `IsOneLine`: texts without a line feed and without a carriage return.
* `IsWhole`: texts that stop where a line does.
* `normalizeNewlines_append`, `linesWithEnds_append`: behind a whole text both start over.
* `linesWithEnds_newline`: the lines of a whole text are its fields between line feeds, each with
  its line feed.
* `IsUnbroken`: texts without a line boundary of any kind.
* `lines_newline`, `lines_of_unbroken`, `length_lines`: the same for lines that end at any line
  boundary.
* `isUnbroken_of_mem_lines`: no line has a line boundary.
-/

namespace LintDaemon.Text

/-- A text that stays on one line. -/
structure IsOneLine (s : List Char) : Prop where
  /-- It has no line feed. -/
  no_newline : '\n' ∉ s
  /-- It has no carriage return. -/
  no_return : '\r' ∉ s

/-- Whether a text stays on one line can be computed. -/
instance (s : List Char) : Decidable (IsOneLine s) :=
  decidable_of_iff ('\n' ∉ s ∧ '\r' ∉ s)
    ⟨fun h => ⟨h.1, h.2⟩, fun h => ⟨h.no_newline, h.no_return⟩⟩

/-- A text that stops where a line does. -/
def IsWhole (s : List Char) : Prop :=
  s = [] ∨ ∃ u, s = u ++ ['\n']

/-- The empty text is whole. -/
theorem IsWhole.nil : IsWhole [] :=
  Or.inl rfl

/-- A text with a line feed at its end is whole. -/
theorem IsWhole.newline (u : List Char) : IsWhole (u ++ ['\n']) :=
  Or.inr ⟨u, rfl⟩

/-- Whole texts put together are whole. -/
theorem IsWhole.append {s t : List Char} (hs : IsWhole s) (ht : IsWhole t) : IsWhole (s ++ t) := by
  rcases ht with rfl | ⟨u, rfl⟩
  · rw [List.append_nil]
    exact hs
  · rw [← List.append_assoc]
    exact IsWhole.newline _

/-! ## Fields -/

/-- There is always a field. -/
theorem fields_ne_nil (sep : Char) (s : List Char) : fields sep s ≠ [] := by
  cases s with
  | nil => exact List.cons_ne_nil _ _
  | cons c s =>
    rw [fields]
    split_ifs
    · exact List.cons_ne_nil _ _
    · cases fields sep s <;> exact List.cons_ne_nil _ _

/-- A character in front of lines stays in front of what follows them. -/
theorem consLine_append (c : Char) {a : List (List Char)} (ha : a ≠ []) (b : List (List Char)) :
    consLine c (a ++ b) = consLine c a ++ b := by
  cases a with
  | nil => exact absurd rfl ha
  | cons line a => rfl

/-- Fields end at a separator and start over behind it. -/
theorem fields_append (sep : Char) (s t : List Char) :
    fields sep (s ++ sep :: t) = fields sep s ++ fields sep t := by
  induction s with
  | nil => simp [fields]
  | cons c s ih =>
    rw [List.cons_append, fields, fields, ih]
    split_ifs
    · rfl
    · exact consLine_append c (fields_ne_nil sep s) _

/-- A text without the separator is one field. -/
theorem fields_of_not_mem {sep : Char} {s : List Char} (h : sep ∉ s) : fields sep s = [s] := by
  induction s with
  | nil => rfl
  | cons c s ih =>
    have hc : c ≠ sep := fun heq => h (heq ▸ List.mem_cons_self)
    rw [fields, if_neg hc, ih fun hs => h (List.mem_cons_of_mem c hs)]
    rfl

/-- A character of a text is the separator or stands in a field. -/
theorem exists_field_of_mem {sep c : Char} {s : List Char} (h : c ∈ s) (hne : c ≠ sep) :
    ∃ field ∈ fields sep s, c ∈ field := by
  induction s with
  | nil => cases h
  | cons d s ih =>
    rw [fields]
    split_ifs with hd
    · rcases List.mem_cons.mp h with rfl | hs
      · exact absurd hd hne
      · obtain ⟨field, hfield, hc⟩ := ih hs
        exact ⟨field, List.mem_cons_of_mem _ hfield, hc⟩
    · cases hfields : fields sep s with
      | nil => exact absurd hfields (fields_ne_nil sep s)
      | cons line rest =>
        rcases List.mem_cons.mp h with rfl | hs
        · exact ⟨c :: line, List.mem_cons_self, List.mem_cons_self⟩
        · obtain ⟨field, hfield, hc⟩ := ih hs
          rw [hfields] at hfield
          rcases List.mem_cons.mp hfield with rfl | hfield
          · exact ⟨d :: field, List.mem_cons_self, List.mem_cons_of_mem d hc⟩
          · exact ⟨field, List.mem_cons_of_mem _ hfield, hc⟩

/-- No field holds the separator. -/
theorem not_mem_of_mem_fields {sep : Char} {s field : List Char} (h : field ∈ fields sep s) :
    sep ∉ field := by
  induction s generalizing field with
  | nil =>
    rw [List.mem_singleton.mp h]
    exact List.not_mem_nil
  | cons c s ih =>
    rw [fields] at h
    split_ifs at h with hc
    · rcases List.mem_cons.mp h with rfl | hfield
      · exact List.not_mem_nil
      · exact ih hfield
    · cases hfields : fields sep s with
      | nil => exact absurd hfields (fields_ne_nil sep s)
      | cons line rest =>
        rw [hfields] at h
        rcases List.mem_cons.mp h with rfl | hfield
        · refine fun hmem => (List.mem_cons.mp hmem).elim (fun heq => hc heq.symm) ?_
          exact ih (hfields ▸ List.mem_cons_self)
        · exact ih (hfields ▸ List.mem_cons_of_mem line hfield)

/-- A field in front of a separator is cut off. -/
theorem cut_append {sep : Char} {s : List Char} (h : sep ∉ s) (t : List Char) :
    cut sep (s ++ sep :: t) = (s, some t) := by
  induction s with
  | nil => exact if_pos rfl
  | cons c s ih =>
    have hc : c ≠ sep := fun heq => h (heq ▸ List.mem_cons_self)
    rw [List.cons_append, cut, if_neg hc, ih fun hs => h (List.mem_cons_of_mem c hs)]

/-- A text without the separator is the first field, and nothing follows it. -/
theorem cut_of_not_mem {sep : Char} {s : List Char} (h : sep ∉ s) : cut sep s = (s, none) := by
  induction s with
  | nil => rfl
  | cons c s ih =>
    have hc : c ≠ sep := fun heq => h (heq ▸ List.mem_cons_self)
    rw [cut, if_neg hc, ih fun hs => h (List.mem_cons_of_mem c hs)]

/-- A text is one field, or is cut at its first separator. -/
theorem cut_cases (sep : Char) (s : List Char) :
    (sep ∉ s ∧ cut sep s = (s, none)) ∨
      ∃ first rest, sep ∉ first ∧ s = first ++ sep :: rest ∧ cut sep s = (first, some rest) := by
  by_cases h : sep ∈ s
  · obtain ⟨first, rest, rfl, hfirst⟩ := List.eq_append_cons_of_mem h
    exact Or.inr ⟨first, rest, hfirst, rfl, cut_append hfirst rest⟩
  · exact Or.inl ⟨h, cut_of_not_mem h⟩

/-! ## Beginnings and ends -/

/-- What follows a prefix is what makes the text with it. -/
theorem dropPrefix?_eq_some_iff {p s t : List Char} : dropPrefix? p s = some t ↔ s = p ++ t := by
  induction p generalizing s with
  | nil => simp [dropPrefix?, eq_comm]
  | cons c p ih =>
    cases s with
    | nil => simp [dropPrefix?]
    | cons d s =>
      rw [dropPrefix?]
      split_ifs with h
      · simp [h, ih]
      · simp [Ne.symm h]

/-- What precedes a suffix is what makes the text with it. -/
theorem dropSuffix?_eq_some_iff {suffix s t : List Char} :
    dropSuffix? suffix s = some t ↔ s = t ++ suffix := by
  rw [dropSuffix?, Option.map_eq_some_iff]
  constructor
  · rintro ⟨u, hu, rfl⟩
    rw [← List.reverse_inj, List.reverse_append, List.reverse_reverse]
    exact dropPrefix?_eq_some_iff.mp hu
  · rintro rfl
    exact ⟨t.reverse, dropPrefix?_eq_some_iff.mpr List.reverse_append, List.reverse_reverse t⟩

/-! ## Line feeds for carriage returns -/

/-- A carriage return goes into the line feed behind it, or becomes one. -/
theorem normalizeNewlines_return (s : List Char) :
    normalizeNewlines ('\r' :: s) =
      if s.head? = some '\n' then normalizeNewlines s else '\n' :: normalizeNewlines s := by
  cases s with
  | nil => rfl
  | cons c s =>
    by_cases hc : c = '\n'
    · subst hc
      simp [normalizeNewlines]
    · rw [if_neg (by simpa using hc)]
      simp [normalizeNewlines, hc]

/-- Other characters stay. -/
theorem normalizeNewlines_cons {c : Char} (hc : c ≠ '\r') (s : List Char) :
    normalizeNewlines (c :: s) = c :: normalizeNewlines s := by
  simp [normalizeNewlines, hc]

/-- A text without carriage returns is not changed. -/
theorem normalizeNewlines_of_no_return {s : List Char} (h : '\r' ∉ s) :
    normalizeNewlines s = s := by
  induction s with
  | nil => rfl
  | cons c s ih =>
    rw [normalizeNewlines_cons fun heq => h (heq ▸ List.mem_cons_self),
      ih fun hs => h (List.mem_cons_of_mem c hs)]

/-- No carriage return is left. -/
theorem no_return_normalizeNewlines (s : List Char) : '\r' ∉ normalizeNewlines s := by
  induction s with
  | nil => exact List.not_mem_nil
  | cons c s ih =>
    by_cases hc : c = '\r'
    · subst hc
      rw [normalizeNewlines_return]
      split_ifs
      · exact ih
      · simpa using ih
    · rw [normalizeNewlines_cons hc]
      simpa [Ne.symm hc] using ih

/-- Something is left of a text that is not empty. -/
theorem normalizeNewlines_ne_nil {s : List Char} (hs : s ≠ []) : normalizeNewlines s ≠ [] := by
  induction s with
  | nil => exact absurd rfl hs
  | cons c s ih =>
    by_cases hc : c = '\r'
    · subst hc
      rw [normalizeNewlines_return]
      split_ifs with hhead
      · refine ih fun hnil => ?_
        rw [hnil] at hhead
        cases hhead
      · exact List.cons_ne_nil _ _
    · rw [normalizeNewlines_cons hc]
      exact List.cons_ne_nil _ _

/-- Behind a line feed the text is read afresh. -/
theorem normalizeNewlines_newline (u t : List Char) :
    normalizeNewlines (u ++ '\n' :: t) =
      normalizeNewlines (u ++ ['\n']) ++ normalizeNewlines t := by
  induction u with
  | nil => simp [normalizeNewlines]
  | cons c u ih =>
    have hhead : (u ++ '\n' :: t).head? = (u ++ ['\n']).head? := by cases u <;> rfl
    rw [List.cons_append, List.cons_append]
    by_cases hc : c = '\r'
    · subst hc
      rw [normalizeNewlines_return, normalizeNewlines_return, hhead, ih]
      split_ifs <;> rfl
    · rw [normalizeNewlines_cons hc, normalizeNewlines_cons hc, ih]
      rfl

/-- Behind a whole text the text is read afresh. -/
theorem normalizeNewlines_append {s : List Char} (hs : IsWhole s) (t : List Char) :
    normalizeNewlines (s ++ t) = normalizeNewlines s ++ normalizeNewlines t := by
  rcases hs with rfl | ⟨u, rfl⟩
  · rfl
  · rw [List.append_assoc]
    exact normalizeNewlines_newline u t

/-- A whole text stays whole. -/
theorem IsWhole.normalizeNewlines {s : List Char} (hs : IsWhole s) :
    IsWhole (normalizeNewlines s) := by
  rcases hs with rfl | ⟨u, rfl⟩
  · exact IsWhole.nil
  · induction u with
    | nil => exact IsWhole.newline []
    | cons c u ih =>
      rw [List.cons_append]
      have hcons : ∀ d, IsWhole (d :: Text.normalizeNewlines (u ++ ['\n'])) := by
        intro d
        rcases ih with hnil | ⟨v, hv⟩
        · exact absurd hnil (normalizeNewlines_ne_nil (by simp))
        · rw [hv]
          exact IsWhole.newline (d :: v)
      by_cases hc : c = '\r'
      · subst hc
        rw [normalizeNewlines_return]
        split_ifs
        · exact ih
        · exact hcons _
      · rw [normalizeNewlines_cons hc]
        exact hcons _

/-- A carriage return at the end of what follows a line feed is at the end of it all. -/
theorem withoutLastReturn_newline (u t : List Char) :
    withoutLastReturn (u ++ '\n' :: t) = u ++ '\n' :: withoutLastReturn t := by
  have hlast : (u ++ '\n' :: t).getLast? = some (t.getLast?.getD '\n') := by
    rw [List.getLast?_append, List.getLast?_cons]
    rfl
  unfold withoutLastReturn
  rw [hlast]
  cases ht : t.getLast? with
  | none => rfl
  | some c =>
    have hne : t ≠ [] := by
      rintro rfl
      cases ht
    by_cases hc : c = '\r'
    · subst hc
      simp [List.dropLast_cons_of_ne_nil hne]
    · simp [hc]

/-- A carriage return at the end of what follows a whole text is at the end of it all. -/
theorem withoutLastReturn_append {s : List Char} (hs : IsWhole s) (t : List Char) :
    withoutLastReturn (s ++ t) = s ++ withoutLastReturn t := by
  rcases hs with rfl | ⟨u, rfl⟩
  · rfl
  · rw [List.append_assoc, List.append_assoc]
    exact withoutLastReturn_newline u t

/-! ## Lines with their ends -/

/-- Another character than a line feed belongs to the first line. -/
theorem linesWithEnds_cons {c : Char} (hc : c ≠ '\n') (s : List Char) :
    linesWithEnds (c :: s) = consLine c (linesWithEnds s) := by
  simp [linesWithEnds]

/-- The lines of a text before a line feed are its fields, each with a line feed. -/
theorem linesWithEnds_newline (u : List Char) :
    linesWithEnds (u ++ ['\n']) = (fields '\n' u).map (· ++ ['\n']) := by
  induction u with
  | nil => rfl
  | cons c u ih =>
    by_cases hc : c = '\n'
    · subst hc
      simp [linesWithEnds, fields, ih]
    · have hfields : fields '\n' (c :: u) = consLine c (fields '\n' u) := if_neg hc
      rw [List.cons_append, linesWithEnds_cons hc, hfields, ih]
      cases hu : fields '\n' u with
      | nil => exact absurd hu (fields_ne_nil _ _)
      | cons line rest => rfl

/-- Behind a line feed a new line begins. -/
theorem linesWithEnds_newline_append (u t : List Char) :
    linesWithEnds (u ++ '\n' :: t) = linesWithEnds (u ++ ['\n']) ++ linesWithEnds t := by
  induction u with
  | nil => simp [linesWithEnds]
  | cons c u ih =>
    by_cases hc : c = '\n'
    · subst hc
      simp [linesWithEnds, ih]
    · rw [List.cons_append, List.cons_append, linesWithEnds_cons hc, linesWithEnds_cons hc, ih]
      refine consLine_append c ?_ _
      rw [linesWithEnds_newline]
      simpa using fields_ne_nil '\n' u

/-- Behind a whole text a new line begins. -/
theorem linesWithEnds_append {s : List Char} (hs : IsWhole s) (t : List Char) :
    linesWithEnds (s ++ t) = linesWithEnds s ++ linesWithEnds t := by
  rcases hs with rfl | ⟨u, rfl⟩
  · rfl
  · rw [List.append_assoc]
    exact linesWithEnds_newline_append u t

/-- A text without a line feed is one line, which lacks its end. -/
theorem linesWithEnds_of_unbroken {s : List Char} (hs : '\n' ∉ s) (hne : s ≠ []) :
    linesWithEnds s = [s] := by
  induction s with
  | nil => exact absurd rfl hne
  | cons c s ih =>
    have hc : c ≠ '\n' := fun heq => hs (heq ▸ List.mem_cons_self)
    rw [linesWithEnds_cons hc]
    by_cases hnil : s = []
    · rw [hnil]
      rfl
    · rw [ih (fun h => hs (List.mem_cons_of_mem c h)) hnil]
      rfl

/-- All lines of a whole text are complete. -/
theorem IsWhole.getLast?_of_mem {s line : List Char} (hs : IsWhole s)
    (hline : line ∈ linesWithEnds s) : line.getLast? = some '\n' := by
  rcases hs with rfl | ⟨u, rfl⟩
  · cases hline
  · rw [linesWithEnds_newline] at hline
    obtain ⟨field, -, rfl⟩ := List.mem_map.mp hline
    exact List.getLast?_concat

/-- A text that stays on one line is one line. -/
theorem IsOneLine.linesWithEnds {s : List Char} (hs : IsOneLine s) :
    linesWithEnds (normalizeNewlines (s ++ ['\n'])) = [s ++ ['\n']] := by
  have hreturn : '\r' ∉ s ++ ['\n'] := by
    simpa using hs.no_return
  rw [normalizeNewlines_of_no_return hreturn, linesWithEnds_newline,
    fields_of_not_mem hs.no_newline]
  rfl

/-! ## Lines that end at any line boundary -/

/-- Lines that follow a character begin with it unless it ends a line. -/
theorem lines_cons {c : Char} (hc : c ≠ '\r') (s : List Char) :
    lines (c :: s) = if isLineBreak c then [] :: lines s else consLine c (lines s) := by
  simp [lines, hc]

/-- A carriage return ends a line, and takes a line feed behind it along. -/
theorem lines_return (s : List Char) :
    lines ('\r' :: s) = [] :: lines (if s.head? = some '\n' then s.tail else s) := by
  cases s with
  | nil => rfl
  | cons d s =>
    by_cases hd : d = '\n'
    · subst hd
      simp [lines]
    · rw [if_neg (by simpa using hd)]
      simp [lines, hd, isLineBreak]

/-- A text has a line if it is not empty. -/
theorem lines_ne_nil {s : List Char} (hs : s ≠ []) : lines s ≠ [] := by
  cases s with
  | nil => exact absurd rfl hs
  | cons c s =>
    by_cases hc : c = '\r'
    · subst hc
      rw [lines_return]
      exact List.cons_ne_nil _ _
    · rw [lines_cons hc]
      split_ifs
      · exact List.cons_ne_nil _ _
      · cases lines s <;> exact List.cons_ne_nil _ _

/-- Behind a line feed a new line begins. -/
theorem lines_newline (s t : List Char) :
    lines (s ++ '\n' :: t) = lines (s ++ ['\n']) ++ lines t := by
  fun_induction lines s with
  | case1 => rfl
  | case2 s ih => simp [lines, ih]
  | case3 c s hpair hbreak ih =>
    by_cases hc : c = '\r'
    · subst hc
      cases s with
      | nil => rfl
      | cons d s =>
        have hd : d ≠ '\n' := fun heq => hpair s rfl (heq ▸ rfl)
        simp only [List.cons_append] at ih ⊢
        rw [lines_return, lines_return]
        simp only [List.head?_cons, Option.some.injEq, hd, if_false, ih, List.cons_append]
    · rw [List.cons_append, List.cons_append, lines_cons hc, lines_cons hc, ih, if_pos hbreak,
        if_pos hbreak]
      rfl
  | case4 c s hpair hbreak ih =>
    have hc : c ≠ '\r' := by
      rintro rfl
      exact hbreak rfl
    rw [List.cons_append, List.cons_append, lines_cons hc, lines_cons hc, ih, if_neg hbreak,
      if_neg hbreak]
    exact consLine_append c (lines_ne_nil (by simp)) _

/-- A text without a line boundary. -/
def IsUnbroken (s : List Char) : Prop :=
  ∀ c ∈ s, isLineBreak c = false

/-- Whether a text has a line boundary can be computed. -/
instance (s : List Char) : Decidable (IsUnbroken s) :=
  decidable_of_iff (s.all (!isLineBreak ·) = true) (by simp [IsUnbroken])

/-- Unbroken texts put together are unbroken. -/
theorem IsUnbroken.append {s t : List Char} (hs : IsUnbroken s) (ht : IsUnbroken t) :
    IsUnbroken (s ++ t) := by
  intro c hc
  exact (List.mem_append.mp hc).elim (hs c) (ht c)

/-- A text without a line boundary is one line. -/
theorem lines_of_unbroken {s : List Char} (hs : IsUnbroken s) :
    lines (s ++ ['\n']) = [s] := by
  induction s with
  | nil => rfl
  | cons c s ih =>
    have hbreak := hs c List.mem_cons_self
    have hreturn : c ≠ '\r' := by
      rintro rfl
      cases hbreak
    rw [List.cons_append, lines_cons hreturn, hbreak,
      ih fun d hd => hs d (List.mem_cons_of_mem c hd)]
    rfl

/-- Without carriage returns there is one line more than there are line boundaries. -/
theorem length_lines {s : List Char} (hs : '\r' ∉ s) :
    (lines (s ++ ['\n'])).length = s.countP isLineBreak + 1 := by
  induction s with
  | nil => rfl
  | cons c s ih =>
    have hreturn : c ≠ '\r' := fun heq => hs (heq ▸ List.mem_cons_self)
    have hrest := ih fun h => hs (List.mem_cons_of_mem c h)
    rw [List.cons_append, lines_cons hreturn, List.countP_cons]
    split_ifs
    · rw [List.length_cons, hrest]
    · cases hlines : lines (s ++ ['\n']) with
      | nil => exact absurd hlines (lines_ne_nil (by simp))
      | cons line rest =>
        rw [hlines] at hrest
        exact hrest

/-- A line is no longer than its text. -/
theorem length_le_of_mem_lines {s line : List Char} (h : line ∈ lines s) :
    line.length ≤ s.length := by
  fun_induction lines s generalizing line with
  | case1 => cases h
  | case2 rest ih =>
    rcases List.mem_cons.mp h with rfl | h
    · exact Nat.zero_le _
    · exact Nat.le_trans (ih h) (by simp only [List.length_cons]; omega)
  | case3 c rest _ _ ih =>
    rcases List.mem_cons.mp h with rfl | h
    · exact Nat.zero_le _
    · exact Nat.le_trans (ih h) (Nat.le_succ _)
  | case4 c rest _ _ ih =>
    cases hlines : lines rest with
    | nil =>
      rw [hlines] at h
      rw [List.mem_singleton.mp h]
      exact Nat.succ_le_succ (Nat.zero_le _)
    | cons first more =>
      rw [hlines] at h ih
      rcases List.mem_cons.mp h with rfl | h
      · exact Nat.succ_le_succ (ih List.mem_cons_self)
      · exact Nat.le_trans (ih (List.mem_cons_of_mem _ h)) (Nat.le_succ _)

/-- A line has no line boundary. -/
theorem isUnbroken_of_mem_lines {s line : List Char} (h : line ∈ lines s) : IsUnbroken line := by
  fun_induction lines s generalizing line with
  | case1 => cases h
  | case2 rest ih =>
    rcases List.mem_cons.mp h with rfl | h
    · nofun
    · exact ih h
  | case3 c rest _ _ ih =>
    rcases List.mem_cons.mp h with rfl | h
    · nofun
    · exact ih h
  | case4 c rest _ hbreak ih =>
    have hone : IsUnbroken [c] := fun d hd => by
      rw [List.mem_singleton.mp hd]
      exact Bool.eq_false_iff.mpr hbreak
    cases hlines : lines rest with
    | nil =>
      rw [hlines] at h
      rw [List.mem_singleton.mp h]
      exact hone
    | cons first more =>
      rw [hlines] at h ih
      rcases List.mem_cons.mp h with rfl | h
      · exact hone.append (ih List.mem_cons_self)
      · exact ih (List.mem_cons_of_mem _ h)

/-- What stands in joined texts stands in the separator or in one of them. -/
theorem mem_or_exists_mem_of_mem_join {sep : List Char} {ls : List (List Char)} {c : Char}
    (h : c ∈ join sep ls) : c ∈ sep ∨ ∃ s ∈ ls, c ∈ s := by
  fun_induction join sep ls with
  | case1 => cases h
  | case2 s => exact Or.inr ⟨s, List.mem_cons_self, h⟩
  | case3 s rest _ ih =>
    rcases List.mem_append.mp h with h | h
    · rcases List.mem_append.mp h with h | h
      · exact Or.inr ⟨s, List.mem_cons_self, h⟩
      · exact Or.inl h
    · exact (ih h).imp_right fun ⟨t, ht, hc⟩ => ⟨t, List.mem_cons_of_mem s ht, hc⟩

end LintDaemon.Text
