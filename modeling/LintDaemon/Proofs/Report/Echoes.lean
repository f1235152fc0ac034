import LintDaemon.Proofs.Report.Findings

/-!
# Echoed lines of the source

Between the header of a finding and its caret stands a line that the user has written. Which lines
leave the reader of the report in no doubt?

* `IsHarmless`: a line of the source that is one line of the report too, and neither an opener nor
  a summary nor a caret line.
* `Finding.isRecovered_iff`: a harmless line is passed over, whatever the finding is.
* `probe`, `isHarmless_of_isRecovered_probe`: no other line is passed over in every finding. The
  caret of the probe stands so far to the right that no line of the echo can stand in for it.
* `read_print_iff`: a set of source lines never disturbs a report iff all of them are harmless.
-/

namespace LintDaemon.Report

open LintDaemon.Text

/-! ## Harmless lines -/

/-- A line of the source that does not disturb the report in which it is echoed. -/
structure IsHarmless (s : List Char) : Prop where
  /-- It is one line of the report. -/
  unbroken : IsUnbroken s
  /-- It is neither an opener nor a summary. -/
  plain : IsPlain s
  /-- It is no caret line. -/
  no_caret : isCaretLine s = false

/-- Whether a line is harmless can be computed. -/
instance (s : List Char) : Decidable (IsHarmless s) :=
  decidable_of_iff (IsUnbroken s ∧ goesOn s = true ∧ isCaretLine s = false)
    ⟨fun h => ⟨h.1, goesOn_iff.mp h.2.1, h.2.2⟩,
      fun h => ⟨h.unbroken, goesOn_iff.mpr h.plain, h.no_caret⟩⟩

/-- What is said of a finding that its line of the source cannot be blamed for. -/
structure Finding.IsReadable (f : Finding) : Prop where
  /-- The line number is not too long. -/
  numbered : f.digits.length ≤ Numeral.maxDigits
  /-- No detail reads like a line with a place. -/
  unplaced : ∀ d ∈ f.details, Unplaced d

/-- A text without white space at its end is not trimmed. -/
theorem trimEnd_of_getLast? {s : List Char} (h : ∀ c ∈ s.getLast?, isBlank c = false) :
    trimEnd s = s :=
  dropEndWhile_of_getLast? h

/-- A text of lines is its first line and then a line feed and the line for each other. -/
theorem join_cons (s : List Char) (ls : List (List Char)) :
    join ['\n'] (s :: ls) = s ++ ls.flatMap ('\n' :: ·) := by
  induction ls generalizing s with
  | nil => exact (List.append_nil s).symm
  | cons l ls ih =>
    rw [join, ih, List.flatMap_cons, List.append_assoc]
    · rfl
    · nofun

/-- The last line ends a text of lines. -/
theorem trimEnd_join_concat {ls : List (List Char)} {l : List Char} (hl : IsTrimmedLine l)
    (hne : l = [] → ls = []) :
    trimEnd (join ['\n'] (ls ++ [l])) = join ['\n'] (ls ++ [l]) := by
  refine trimEnd_of_getLast? ?_
  by_cases hnil : l = []
  · rw [hne hnil]
    exact hl.trimmed
  · have hsome : l.getLast?.isSome = true := by simpa using hnil
    have hlast : (join ['\n'] (ls ++ [l])).getLast? = l.getLast? := by
      cases ls with
      | nil => rfl
      | cons s ls =>
        rw [List.cons_append, join_cons, List.flatMap_append, List.flatMap_singleton,
          ← List.singleton_append, ← List.append_assoc, ← List.append_assoc, List.getLast?_append,
          Option.or_of_isSome hsome]
    rw [hlast]
    exact hl.trimmed

/-- A message and its details have no white space at their end. -/
theorem Finding.trimEnd_message (f : Finding) :
    trimEnd (join ['\n'] (f.message :: f.details)) = join ['\n'] (f.message :: f.details) := by
  rcases List.eq_nil_or_concat f.details with hnil | ⟨before, d, hconcat⟩
  · rw [hnil]
    exact @trimEnd_join_concat [] _ f.isMessage fun _ => rfl
  · have hd : IsDetail d := f.areDetails d (by rw [hconcat]; simp)
    rw [hconcat, List.concat_eq_append, ← List.cons_append]
    refine trimEnd_join_concat hd.toIsTrimmedLine ?_
    rintro rfl
    obtain ⟨c, hc, -⟩ := hd.indented
    cases hc

namespace Finding

variable {f : Finding}

/-- A harmless line stays one line. -/
theorem behind_of_unbroken (h : IsUnbroken f.echo) :
    f.behind = f.echo :: f.caretLine :: f.details := by
  unfold behind
  rw [lines_of_unbroken h]
  rfl

/-- The block of a finding with a plain line and plain details. -/
theorem block_of_goesOn (h : ∀ s ∈ lines (f.echo ++ ['\n']), goesOn s = true)
    (hdetails : ∀ d ∈ f.details, Unplaced d) : f.block = ⟨f.opener, f.behind⟩ := by
  have hbehind : ∀ s ∈ f.behind, goesOn s = true := by
    intro s hs
    rcases List.mem_append.mp hs with hs | hs
    · exact h s hs
    · rcases List.mem_cons.mp hs with rfl | hs
      · exact goesOn_iff.mpr f.isPlain_caretLine
      · exact goesOn_iff.mpr (isPlain_detail (f.areDetails s hs) (hdetails s hs))
  unfold block
  rw [List.takeWhile_eq_self_iff.mpr hbehind]

/-- The diagnostic of lines with a caret line behind some that are none. -/
theorem diagnostic_of_caret {before : List (List Char)}
    (hbefore : ∀ s ∈ before, isCaretLine s = false) :
    Block.diagnostic ⟨f.opener, before ++ f.caretLine :: f.details⟩ =
      { f.diagnostic with
        message := String.ofList (trimEnd (join ['\n']
          (f.message :: (before.dropLast ++ f.details)))) } := by
  have hfind : (before ++ f.caretLine :: f.details).findIdx? isCaretLine = some before.length := by
    rw [List.findIdx?_append, List.findIdx?_eq_none_iff.mpr hbefore, List.findIdx?_cons,
      f.isCaretLine_caretLine.1]
    simp
  have htake : (before ++ f.caretLine :: f.details).take (before.length - 1) = before.dropLast := by
    rw [List.take_append_of_le_length (by omega), ← List.dropLast_eq_take]
  have hdrop : (before ++ f.caretLine :: f.details).drop (before.length + 1) = f.details := by
    simp
  unfold Block.diagnostic Block.messageLines Block.column? Block.caret? diagnostic opener
  dsimp only [Opener.line?, Opener.severity, Opener.message]
  rw [hfind]
  dsimp only
  rw [htake, hdrop]
  simp [f.isCaretLine_caretLine.2, digits, numberOf_toDigits]

/-- **A finding whose line of the source is harmless is read back**, unless something else is wrong
with it. -/
theorem isRecovered_iff (h : IsHarmless f.echo) : f.IsRecovered ↔ f.IsReadable := by
  have hbehind := behind_of_unbroken h.unbroken
  constructor
  · intro hrecovered
    refine ⟨hrecovered.numbered, fun d hd => unplaced_of_opener?_eq_none ?_⟩
    refine opener?_eq_none_iff.mpr (hrecovered.opens_nothing d ?_)
    rw [hbehind]
    exact List.mem_cons_of_mem _ (List.mem_cons_of_mem _ hd)
  · intro hreadable
    have hgoes : ∀ s ∈ lines (f.echo ++ ['\n']), goesOn s = true := by
      rw [lines_of_unbroken h.unbroken]
      intro s hs
      rw [List.mem_singleton.mp hs]
      exact goesOn_iff.mpr h.plain
    have hblock := block_of_goesOn hgoes hreadable.unplaced
    refine ⟨hreadable.numbered, ?_, ?_⟩
    · rw [hbehind]
      intro s hs
      rcases List.mem_cons.mp hs with rfl | hs
      · exact h.plain.1
      · rcases List.mem_cons.mp hs with rfl | hs
        · exact f.isPlain_caretLine.1
        · exact (isPlain_detail (f.areDetails s hs) (hreadable.unplaced s hs)).1
    · have hbefore : ∀ s ∈ [f.echo], isCaretLine s = false := by
        intro s hs
        rw [List.mem_singleton.mp hs]
        exact h.no_caret
      have hdiagnostic := diagnostic_of_caret (f := f) hbefore
      rw [hblock, hbehind]
      rw [List.singleton_append] at hdiagnostic
      rw [hdiagnostic, List.dropLast_singleton, List.nil_append, f.trimEnd_message]
      rfl

end Finding

/-! ## No other lines are harmless -/

/-- A finding that echoes a line, with its caret too far to the right for that line. -/
def probe (s : List Char) (hs : IsOneLine s) : Finding where
  parts := ["Bar.java".toList]
  isPath := ⟨"Bar".toList, by decide⟩
  number := 1
  warns := false
  message := "expected".toList
  isMessage := by decide
  echo := s
  isEcho := hs
  margin := List.replicate (s.length + 1) ' '
  isMargin c hc := by
    rw [List.eq_of_mem_replicate hc]
    rfl
  isUnbroken c hc := by
    rw [List.eq_of_mem_replicate hc]
    rfl
  details := ["  found".toList]
  areDetails d hd := by
    rw [List.mem_singleton.mp hd]
    exact ⟨by decide, ' ', rfl, rfl⟩

/-- The column of a block is that of its first caret line. -/
theorem Block.exists_caret_of_column? {b : Block} {k : Nat} (h : b.column? = some k) :
    ∃ i s, b.continuation.findIdx? isCaretLine = some i ∧ b.continuation[i]? = some s ∧
      isCaretLine s = true ∧ s.idxOf '^' + 1 = k := by
  obtain ⟨i, hcaret, hk⟩ := Option.map_eq_some_iff.mp h
  have hfind : b.continuation.findIdx? isCaretLine = some i := by
    unfold Block.caret? at hcaret
    split at hcaret
    · exact hcaret
    · cases hcaret
    · cases hcaret
  obtain ⟨hi, hline, -⟩ := List.findIdx?_eq_some_iff_getElem.mp hfind
  have hget : b.continuation[i]? = some b.continuation[i] := List.getElem?_eq_getElem hi
  refine ⟨i, _, hfind, hget, hline, ?_⟩
  rw [List.getD_eq_getElem?_getD, hget] at hk
  exact hk

section probe

variable {s : List Char} {hs : IsOneLine s}

/-- The caret of the probe stands further to the right than any character of its line. -/
theorem column_ne_of_mem_lines {line : List Char} (h : line ∈ lines (s ++ ['\n']))
    (hcaret : isCaretLine line = true) : line.idxOf '^' + 1 ≠ s.length + 2 := by
  have hmem : '^' ∈ line := by
    unfold isCaretLine at hcaret
    have hfilter : '^' ∈ line.filter (fun c => !isBlank c) := by
      rw [beq_iff_eq.mp hcaret]
      exact List.mem_cons_self
    exact (List.mem_filter.mp hfilter).1
  have hindex := List.idxOf_lt_length_of_mem hmem
  have hlength := length_le_of_mem_lines h
  rw [List.length_append, List.length_singleton] at hlength
  omega

/-- Nothing is wrong with the probe but perhaps its echo. -/
theorem isReadable_probe : (probe s hs).IsReadable := by
  have hnumber : (Nat.toDigits 10 1).length ≤ Numeral.maxDigits := by decide
  refine ⟨hnumber, fun d hd => ?_⟩
  rw [List.mem_singleton.mp hd]
  decide

/-- If the probe is read back, all lines of its echo go on with it, and none is a caret line. -/
theorem goesOn_of_isRecovered_probe (h : (probe s hs).IsRecovered) :
    ∀ line ∈ lines (s ++ ['\n']), goesOn line = true ∧ isCaretLine line = false := by
  have hcolumn : (probe s hs).block.column? = some (s.length + 2) := by
    have hdiagnostic := congrArg Diagnostic.column h.diagnostic_block
    unfold Block.diagnostic Finding.diagnostic at hdiagnostic
    dsimp only [probe] at hdiagnostic
    rw [List.length_replicate] at hdiagnostic
    obtain ⟨k, hk, heq⟩ := Option.map_eq_some_iff.mp hdiagnostic
    rw [← Int.ofNat.inj heq]
    exact hk
  have hgoes : ∀ line ∈ lines (s ++ ['\n']), goesOn line = true := by
    by_contra hstop
    have hblock : (probe s hs).block.continuation = (lines (s ++ ['\n'])).takeWhile goesOn := by
      refine List.takeWhile_append.trans (if_neg fun hlength => hstop ?_)
      exact List.takeWhile_eq_self_iff.mp ((List.takeWhile_prefix _).eq_of_length hlength)
    obtain ⟨i, line, -, hline, hcaret, hk⟩ := Block.exists_caret_of_column? hcolumn
    rw [hblock] at hline
    have hmem := (List.takeWhile_prefix _).subset (List.mem_of_getElem? hline)
    exact column_ne_of_mem_lines hmem hcaret hk
  rw [Finding.block_of_goesOn hgoes isReadable_probe.unplaced] at hcolumn
  obtain ⟨i, line, hfind, hline, hcaret, hk⟩ := Block.exists_caret_of_column? hcolumn
  have hnone : (lines (s ++ ['\n'])).findIdx? isCaretLine = none := by
    cases hecho : (lines (s ++ ['\n'])).findIdx? isCaretLine with
    | none => rfl
    | some j =>
      -- a caret line in the echo would be found before the caret of the probe
      have hfirst : (probe s hs).behind.findIdx? isCaretLine = some j :=
        List.findIdx?_append.trans (by rw [show (probe s hs).echo = s from rfl, hecho]; rfl)
      rw [hfirst, Option.some.injEq] at hfind
      subst hfind
      obtain ⟨hj, -, -⟩ := List.findIdx?_eq_some_iff_getElem.mp hecho
      have hleft : (probe s hs).behind[j]? = (lines (s ++ ['\n']))[j]? :=
        List.getElem?_append_left hj
      have hmem := List.mem_of_getElem? (hleft.symm.trans hline)
      exact absurd hk (column_ne_of_mem_lines hmem hcaret)
  exact fun line' hline' => ⟨hgoes line' hline', List.findIdx?_eq_none_iff.mp hnone line' hline'⟩

/-- **Only harmless lines are passed over in every finding**: already the probe is misread with any
other. -/
theorem isHarmless_of_isRecovered_probe (h : (probe s hs).IsRecovered) : IsHarmless s := by
  have hlines := goesOn_of_isRecovered_probe h
  have hsingle : (lines (s ++ ['\n'])).dropLast = [] := by
    have hmessage := congrArg Diagnostic.message h.diagnostic_block
    have hdiagnostic := Finding.diagnostic_of_caret (f := probe s hs)
      fun line hline => (hlines line hline).2
    have hdetail : IsTrimmedLine "  found".toList := by decide
    rw [Finding.block_of_goesOn (fun line hline => (hlines line hline).1)
      isReadable_probe.unplaced] at hmessage
    unfold Finding.behind at hmessage
    rw [show (probe s hs).echo = s from rfl, hdiagnostic] at hmessage
    have htext := String.ofList_injective hmessage
    dsimp only [probe] at htext
    rw [← List.cons_append, trimEnd_join_concat hdetail nofun] at htext
    rw [List.cons_append, join_cons, join_cons, List.append_cancel_left_eq, List.flatMap_append,
      List.append_left_eq_self, List.flatMap_eq_nil_iff] at htext
    exact List.eq_nil_iff_forall_not_mem.mpr fun line hline =>
      absurd (htext line hline) (List.cons_ne_nil _ _)
  have hunbroken : IsUnbroken s := by
    have hlength := length_lines hs.no_return
    have hone := congrArg List.length hsingle
    rw [List.length_dropLast, hlength] at hone
    have hcount : s.countP isLineBreak = 0 := by simpa using hone
    intro c hc
    exact Bool.eq_false_iff.mpr (List.countP_eq_zero.mp hcount c hc)
  rw [lines_of_unbroken hunbroken] at hlines
  obtain ⟨hgoes, hcaret⟩ := hlines s List.mem_cons_self
  exact ⟨hunbroken, goesOn_iff.mp hgoes, hcaret⟩

end probe

/-! ## Which source lines never disturb a report -/

/-- **Findings are read back, however their source lines are chosen from a set, exactly when the
lines of the set are harmless**: one line of the report, no opener, no summary, no caret line. Then
a report is read back as its findings unless a line number is too long or a detail reads like a
line with a place; and each other line is misread in some finding of which that cannot be said. -/
theorem read_print_iff (allowed : List Char → Prop) :
    (∀ (fs : List Finding) (counts : List Count), (∀ f ∈ fs, allowed f.echo) →
      ((readChars (print fs counts)).result = .ok (fs.map Finding.diagnostic) ↔
        ∀ f ∈ fs, f.IsReadable)) ↔
    ∀ s, IsOneLine s → allowed s → IsHarmless s := by
  constructor
  · intro h s hs hallowed
    have hecho : ∀ f ∈ [probe s hs], allowed f.echo := by
      intro f hf
      rw [List.mem_singleton.mp hf]
      exact hallowed
    have hreadable : ∀ f ∈ [probe s hs], f.IsReadable := by
      intro f hf
      rw [List.mem_singleton.mp hf]
      exact isReadable_probe
    have hread := (h [probe s hs] [] hecho).mpr hreadable
    exact isHarmless_of_isRecovered_probe
      ((read_print_eq_iff _ _).mp hread _ List.mem_cons_self)
  · intro h fs counts hallowed
    rw [read_print_eq_iff]
    exact forall₂_congr fun f hf => Finding.isRecovered_iff (h f.echo f.isEcho (hallowed f hf))

/-- A finding in the fifth column of a line. -/
def sampleFinding (echo : List Char) (hecho : IsOneLine echo) : Finding where
  parts := ["foo".toList, "Bar.java".toList]
  isPath := ⟨"foo.Bar".toList, by decide⟩
  number := 3
  warns := false
  message := "cannot find symbol".toList
  isMessage := by decide
  echo := echo
  isEcho := hecho
  margin := "    ".toList
  isMargin := List.all_eq_true.mp rfl
  isUnbroken := by decide
  details := ["  symbol: variable x".toList]
  areDetails d hd := by
    rw [List.mem_singleton.mp hd]
    exact ⟨by decide, ' ', rfl, rfl⟩

/-- Lines with the words of an opener or of a summary inside are harmless, and the findings in them
are read back. -/
theorem read_print_iff_sample :
    let indented := sampleFinding "    x++; // error: x".toList (by decide)
    let plain := sampleFinding "x = 1 error".toList (by decide)
    (readChars (print [indented, plain] [⟨2, false⟩])).result =
      .ok [indented.diagnostic, plain.diagnostic] := by
  intro indented plain
  have hallowed : ∀ f ∈ [indented, plain], IsHarmless f.echo := by
    intro f hf
    simp only [List.mem_cons, List.not_mem_nil, or_false] at hf
    rcases hf with rfl | rfl <;> decide
  refine ((read_print_iff IsHarmless).mpr (fun _ _ h => h) [indented, plain] _ hallowed).mpr ?_
  intro f hf
  simp only [List.mem_cons, List.not_mem_nil, or_false] at hf
  rcases hf with rfl | rfl <;> exact ⟨by decide, by decide⟩

/-- Findings are not always read back: a labelled statement forges a finding without a place, and
its own finding loses the column. -/
theorem not_forall_read_print :
    ¬ ∀ (fs : List Finding) (counts : List Count),
      (readChars (print fs counts)).result = .ok (fs.map Finding.diagnostic) := by
  intro h
  have hread := h [sampleFinding "error: x++;".toList (by decide)] [⟨1, false⟩]
  have hforged : (readChars (print [sampleFinding "error: x++;".toList (by decide)]
      [⟨1, false⟩])).result =
        .ok [⟨"cannot find symbol", some 3, none, .error⟩,
          ⟨"x++;\n    ^\n  symbol: variable x", none, none, .error⟩] := by rfl
  rw [hforged] at hread
  have hlength := congrArg List.length (Except.ok.inj hread)
  cases hlength

end LintDaemon.Report
