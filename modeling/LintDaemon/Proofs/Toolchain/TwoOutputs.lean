import LintDaemon.Proofs.Report.Continued
import LintDaemon.Proofs.Text.LastLine
import LintDaemon.Proofs.Text.Utf8
import LintDaemon.Proofs.Toolchain.FailedRuns

/-!
# Two outputs read as one

The compiler reports its findings on the standard error; what a program that runs along with it
prints, an annotation processor for one, comes on the standard output. Both are read as one text, so
the first lines of the standard output are taken up by the last diagnostic of the standard error,
unless a count of errors or warnings stands between them.

* `Report.exists_readLines_append_iff`: when the diagnostics of lines stay the first ones with more
  lines behind them.
* `Javac.errorText`, `Javac.printedText`: the two outputs, each read alone.
* `Javac.lines_reportText`: the lines of both, cut where the last line of the standard error begins.
* `Javac.BeginsWith`: results of which given diagnostics are the first.
* `Javac.beginsWith_compileOn_iff`: for which standard errors no standard output disturbs the
  diagnostics, and which standard outputs do not.
-/

namespace LintDaemon

open LintDaemon.Text

namespace Report

variable {ls more : List (List Char)} {s : List Char} {ds : List Diagnostic}

/-- **The diagnostics of lines stay the first ones** iff what follows can be read, and nothing but
blank lines is taken up by the last one. -/
theorem exists_readLines_append_iff (h : (readLines none ls).result = .ok ds) :
    (∃ extra, (readLines none (ls ++ more)).result = .ok (ds ++ extra)) ↔
      HasShortNumbers more ∧
        (IsSettled ls ∨ ∀ t ∈ more.takeWhile goesOn, allBlank t = true) := by
  obtain ⟨hshort, rfl⟩ := readLines_none_eq_ok_iff.mp h
  have hboth : HasShortNumbers (ls ++ more) ↔ HasShortNumbers more := by
    unfold HasShortNumbers
    rw [List.forall_mem_append]
    exact and_iff_right hshort
  simp only [readLines_none_eq_ok_iff, exists_and_left]
  rw [← isPrefix_diagnostics_iff, ← hboth]
  apply and_congr_right
  intro _
  exact exists_congr fun extra => eq_comm

/-- Lines that begin no block of their own can be left out. -/
theorem readLines_of_append (h : (readLines none (ls ++ more)).result = .ok ds)
    (hblocks : blocksOf (ls ++ more) = blocksOf ls) : (readLines none ls).result = .ok ds := by
  obtain ⟨hshort, hdiagnostics⟩ := readLines_none_eq_ok_iff.mp h
  refine readLines_none_eq_ok_iff.mpr ⟨fun s hs => hshort s (List.mem_append_left _ hs), ?_⟩
  rw [← hblocks]
  exact hdiagnostics

/-- Lines without a colon bring no line number. -/
theorem HasShortNumbers.append (h : HasShortNumbers ls) (hmore : ∀ s ∈ more, ':' ∉ s) :
    HasShortNumbers (ls ++ more) := by
  intro s hs digits severity message hopens
  rcases List.mem_append.mp hs with hs | hs
  · exact h s hs digits severity message hopens
  · exact absurd hopens.colon_mem (hmore s hs)

/-- A count with a letter behind it is plain. -/
theorem IsSummary.isPlain_concat (h : IsSummary s) : IsPlain (s ++ ['x']) := by
  obtain ⟨-, hcolon, -⟩ := h.exists_digit
  constructor
  · intro o hopens
    have hmem := hopens.colon_mem
    simp [hcolon] at hmem
  · rintro ⟨digits, words, -, hwords, heq⟩
    have hlast : ∀ words ∈ summaryWords, words.getLast? ≠ some 'x' ∧ words ≠ [] := by decide
    obtain ⟨hx, hne⟩ := hlast words hwords
    apply hx
    have hends := congrArg List.getLast? heq
    rwa [List.getLast?_concat, List.getLast?_append_of_ne_nil _ hne, eq_comm] at hends

end Report

namespace Javac

open Report

variable {m : Machine} {unit : SourceUnit} {options : CompileOptions} {javac : Javac}
  {sources : Path} {run : Run} {ds : List Diagnostic}

/-- What is taken out of both outputs. -/
def sourcesPrefix (sources : Path) : List Char :=
  sources.toString.toList ++ ['/']

/-- The standard error, read alone. -/
def errorText (sources : Path) (run : Run) : List Char :=
  erase (sourcesPrefix sources) (outputText run.stderr)

/-- The standard output, read alone. -/
def printedText (sources : Path) (run : Run) : List Char :=
  erase (sourcesPrefix sources) (outputText run.stdout)

/-- Results that are diagnostics of which these are the first. -/
def BeginsWith (ds : List Diagnostic) (result : Except CompileError (List Diagnostic)) : Prop :=
  ∃ extra, result = .ok (ds ++ extra)

/-- The diagnostics of lines are the first ones of a report that begins with them. -/
theorem beginsWith_readReport_iff {report : List Char} {ls more : List (List Char)}
    (hls : (readLines none ls).result = .ok ds) (hlines : lines report = ls ++ more) :
    BeginsWith ds (readReport report).2 ↔ HasShortNumbers more ∧
      (IsSettled ls ∨ ∀ t ∈ more.takeWhile goesOn, allBlank t = true) := by
  rw [← exists_readLines_append_iff hls, ← hlines]
  exact exists_congr fun extra => readReport_eq_ok_iff

/-- No carriage return is in the output of a program. -/
theorem no_return_outputText (bytes : List UInt8) : '\r' ∉ outputText bytes :=
  no_return_normalizeNewlines _

/-- No carriage return is in the standard error. -/
theorem no_return_errorText (sources : Path) (run : Run) : '\r' ∉ errorText sources run :=
  fun hmem => no_return_outputText _ ((erase_sublist _ _).subset hmem)

/-- What is taken out is something. -/
theorem sourcesPrefix_ne_nil (sources : Path) : sourcesPrefix sources ≠ [] := by
  simp [sourcesPrefix]

/-- One more character behind the standard error stays. -/
theorem erase_sourcesPrefix_concat (sources : Path) (s : List Char) :
    erase (sourcesPrefix sources) (s ++ ['x']) = erase (sourcesPrefix sources) s ++ ['x'] :=
  erase_concat (sourcesPrefix_ne_nil sources) (by simp [sourcesPrefix]) s

/-- What is printed as a text is read as that text. -/
theorem reportText_encode (sources : Path) (run : Run) {s : List Char} (hs : '\r' ∉ s) :
    reportText sources { run with stdout := Utf8.encode s } =
      erase (sourcesPrefix sources) (outputText run.stderr ++ s) := by
  rw [reportText, outputText, outputText, Utf8.decodeLossy_encode,
    normalizeNewlines_of_no_return hs]
  rfl

section

variable (hsources : IsUnbroken sources.toString.toList)

include hsources

/-- What is taken out is on one line. -/
theorem isUnbroken_sourcesPrefix : IsUnbroken (sourcesPrefix sources) :=
  hsources.append (by decide : IsUnbroken ['/'])

/-- The lines of both outputs are those of the standard error that have ended, and those of the line
that has begun, which goes on with the standard output. -/
theorem lines_reportText (run : Run) : lines (reportText sources run) =
    lines (ended (errorText sources run)) ++ lines (erase (sourcesPrefix sources)
      (begun (outputText run.stderr) ++ outputText run.stdout)) :=
  lines_erase_append (sourcesPrefix_ne_nil sources) (isUnbroken_sourcesPrefix hsources)
    (no_return_outputText _) _

/-- If the last line of the standard error has ended, the lines of the standard output follow. -/
theorem lines_reportText_of_isEnded (hended : IsEnded (outputText run.stderr)) :
    lines (reportText sources run) =
      lines (errorText sources run) ++ lines (printedText sources run) := by
  have herror : IsEnded (errorText sources run) :=
    hended.erase (sourcesPrefix_ne_nil sources) (isUnbroken_sourcesPrefix hsources)
  rw [lines_reportText hsources, herror.ended_begun_eq.1, hended.ended_begun_eq.2]
  rfl

end

/-! ## Standard errors that nothing disturbs -/

section

variable (hread : (readLines none (lines (errorText sources run))).result = .ok ds)
  (hall : ∀ stdout, HasShortNumbers (lines (reportText sources { run with stdout := stdout })) →
    BeginsWith ds (readReport (reportText sources { run with stdout := stdout })).2)

include hread hall

/-- If no line that is printed is taken up by a diagnostic, the standard error is settled. -/
theorem isSettled_errorText (hsources : IsUnbroken sources.toString.toList) :
    IsSettled (lines (errorText sources run)) := by
  have hfeed : '\n' ∉ sourcesPrefix sources := by
    intro hmem
    exact absurd (isUnbroken_sourcesPrefix hsources _ hmem) (by decide)
  have hreport : reportText sources { run with stdout := Utf8.encode ['\n', 'x'] } =
      errorText sources run ++ '\n' :: ['x'] := by
    have hletter := erase_sourcesPrefix_concat sources []
    rw [erase_nil] at hletter
    rw [reportText_encode sources run (by decide),
      erase_append_cons (sourcesPrefix_ne_nil sources) hfeed]
    exact congrArg (errorText sources run ++ '\n' :: ·) hletter
  obtain ⟨k, hk, hlines⟩ := exists_lines_newline (no_return_errorText sources run) ['x']
  rw [← hreport] at hlines
  have hshort : HasShortNumbers (lines (errorText sources run) ++ (k ++ lines ['x'])) := by
    apply HasShortNumbers.append (readLines_none_eq_ok_iff.mp hread).1
    intro t ht
    rcases List.mem_append.mp ht with ht | ht
    · simp [hk t ht]
    · rw [List.mem_singleton.mp ht]
      decide
  rw [← hlines] at hshort
  obtain ⟨-, hsettled | hblank⟩ :=
    (beginsWith_readReport_iff hread hlines).mp (hall _ hshort)
  · exact hsettled
  · have hgoes : ∀ t ∈ k ++ lines ['x'], goesOn t = true := by
      intro t ht
      rcases List.mem_append.mp ht with ht | ht
      · rw [hk t ht]
        rfl
      · rw [List.mem_singleton.mp ht]
        decide
    rw [List.takeWhile_eq_self_iff.mpr hgoes] at hblank
    exact absurd (hblank ['x'] (List.mem_append_right _ List.mem_cons_self)) (by decide)

/-- If the line that has begun is a count, a letter behind it makes it go on with what stands before
it; if that is not disturbed either, the lines before it are settled. -/
theorem isSettled_ended_of_isSummary (hsummary : IsSummary (begun (errorText sources run))) :
    IsSettled (lines (ended (errorText sources run))) := by
  have hreturn := no_return_errorText sources run
  have hplain := hsummary.isPlain_concat
  have hnil : begun (errorText sources run) ≠ [] := by
    intro hnil
    obtain ⟨⟨c, hc, -⟩, -⟩ := hsummary.exists_digit
    rw [hnil] at hc
    cases hc
  have hreport : reportText sources { run with stdout := Utf8.encode ['x'] } =
      errorText sources run ++ ['x'] := by
    rw [reportText_encode sources run (by decide), erase_sourcesPrefix_concat]
    rfl
  have hletter : IsUnbroken (begun (errorText sources run) ++ ['x']) :=
    (isUnbroken_begun _).append (by decide : IsUnbroken ['x'])
  have hmore : lines (reportText sources { run with stdout := Utf8.encode ['x'] }) =
      lines (ended (errorText sources run)) ++ [begun (errorText sources run) ++ ['x']] := by
    rw [hreport, lines_append_begun hreturn, lines_eq_singleton hletter (by simp)]
  -- the count adds no diagnostic, so those of the lines before it are all there are
  have hended : (readLines none (lines (ended (errorText sources run)))).result = .ok ds := by
    rw [lines_eq_append_begun hreturn, lines_eq_singleton (isUnbroken_begun _) hnil] at hread
    apply readLines_of_append hread
    have hsilent : blocksOf [begun (errorText sources run)] = [] :=
      blocksOf_eq_nil_iff.mpr (by simpa using hsummary.not_opens)
    rw [blocksOf_append_cons hsummary.goesOn_eq_false, hsilent, List.append_nil]
  have hshort : HasShortNumbers
      (lines (reportText sources { run with stdout := Utf8.encode ['x'] })) := by
    rw [hmore]
    apply HasShortNumbers.append (readLines_none_eq_ok_iff.mp hended).1
    simpa using hsummary.exists_digit.2.1
  obtain ⟨-, hsettled | hblank⟩ := (beginsWith_readReport_iff hended hmore).mp (hall _ hshort)
  · exact hsettled
  · have hgoes : goesOn (begun (errorText sources run) ++ ['x']) = true := goesOn_iff.mpr hplain
    have hline := hblank (begun (errorText sources run) ++ ['x']) (by simp [hgoes])
    rw [allBlank, List.all_append] at hline
    exact absurd (Bool.and_eq_true_iff.mp hline).2 (by decide)

/-- If nothing that is printed is taken up by a diagnostic, the lines that have ended are settled,
and the one that has begun opens nothing. -/
theorem isSettled_ended_errorText (hsources : IsUnbroken sources.toString.toList) :
    IsSettled (lines (ended (errorText sources run))) ∧
      ∀ o, ¬ Opens (begun (errorText sources run)) o := by
  have hsettled := isSettled_errorText hread hall hsources
  have hlines := lines_eq_append_begun (no_return_errorText sources run)
  by_cases hnil : begun (errorText sources run) = []
  · rw [hlines, hnil, lines, List.append_nil] at hsettled
    exact ⟨hsettled, fun o hopens => by simpa [hnil] using hopens.colon_mem⟩
  · rw [lines_eq_singleton (isUnbroken_begun _) hnil] at hlines
    rw [hlines, isSettled_concat_iff] at hsettled
    obtain ⟨hopens, hsummary | hended⟩ := hsettled
    · exact ⟨isSettled_ended_of_isSummary hread hall hsummary, hopens⟩
    · exact ⟨hended, hopens⟩

end

/-- Whatever is printed, the diagnostics of settled lines stay the first ones, if what has begun
behind them opens nothing. -/
theorem beginsWith_of_isSettled (hsources : IsUnbroken sources.toString.toList)
    (hread : (readLines none (lines (errorText sources run))).result = .ok ds)
    (hsettled : IsSettled (lines (ended (errorText sources run))))
    (hopens : ∀ o, ¬ Opens (begun (errorText sources run)) o) (stdout : List UInt8)
    (hshort : HasShortNumbers (lines (reportText sources { run with stdout := stdout }))) :
    BeginsWith ds (readReport (reportText sources { run with stdout := stdout })).2 := by
  have hbegun : ∀ t ∈ lines (begun (errorText sources run)), ∀ o, ¬ Opens t o := by
    intro t ht
    by_cases hnil : begun (errorText sources run) = []
    · rw [hnil] at ht
      cases ht
    · rw [lines_eq_singleton (isUnbroken_begun _) hnil, List.mem_singleton] at ht
      rw [ht]
      exact hopens
  have hended : (readLines none (lines (ended (errorText sources run)))).result = .ok ds := by
    rw [lines_eq_append_begun (no_return_errorText sources run)] at hread
    apply readLines_of_append hread
    rw [blocksOf_append hsettled, blocksOf_eq_nil_iff.mpr hbegun, List.append_nil]
  have hlines := lines_reportText hsources { run with stdout := stdout }
  refine (beginsWith_readReport_iff hended hlines).mpr ⟨?_, Or.inl hsettled⟩
  rw [hlines] at hshort
  exact fun t ht => hshort t (List.mem_append_right _ ht)

/-- **Which outputs leave the diagnostics of the standard error the first ones.** No standard output
disturbs them iff, up to the last line that has ended, a count of errors or warnings stands behind
each line that opens a diagnostic, and the line that has begun opens none; a compilation then comes
to an end with them whenever its report can be read. If the last line of the standard error has
ended, as the compiler ends it, the standard output of this run leaves them the first ones iff it
can be read, and there is such a count, or the lines of it that go on with the last diagnostic are
blank. -/
theorem beginsWith_compileOn_iff (c : Completion javac m unit options)
    (hsources : IsUnbroken (sourcesPath m).toString.toList)
    (hds : (readReport (errorText (sourcesPath m) c.run)).2 = .ok ds) :
    ((∀ stdout,
        HasShortNumbers (lines (reportText (sourcesPath m) { c.run with stdout := stdout })) →
        BeginsWith ds (readReport (reportText (sourcesPath m) { c.run with stdout := stdout })).2) ↔
      IsSettled (lines (ended (errorText (sourcesPath m) c.run))) ∧
        ∀ o, ¬ Opens (begun (errorText (sourcesPath m) c.run)) o) ∧
    (IsSettled (lines (ended (errorText (sourcesPath m) c.run))) →
      (∀ o, ¬ Opens (begun (errorText (sourcesPath m) c.run)) o) →
      (BeginsWith ds (javac.compileOn m unit options).1.result ↔
        HasShortNumbers (lines c.report))) ∧
    (IsEnded (outputText c.run.stderr) →
      (BeginsWith ds (javac.compileOn m unit options).1.result ↔
        HasShortNumbers (lines (printedText (sourcesPath m) c.run)) ∧
          (IsSettled (lines (errorText (sourcesPath m) c.run)) ∨
            ∀ line ∈ (lines (printedText (sourcesPath m) c.run)).takeWhile goesOn,
              allBlank line = true))) := by
  have hread := readReport_eq_ok_iff.mp hds
  rw [(compileOn_of_completion c).2]
  refine ⟨⟨fun hall => isSettled_ended_errorText hread hall hsources, ?_⟩, ?_, ?_⟩
  · rintro ⟨hsettled, hopens⟩ stdout hshort
    exact beginsWith_of_isSettled hsources hread hsettled hopens stdout hshort
  · intro hsettled hopens
    constructor
    · rintro ⟨extra, hresult⟩
      exact (readLines_none_eq_ok_iff.mp (readReport_eq_ok_iff.mp hresult)).1
    · exact beginsWith_of_isSettled hsources hread hsettled hopens c.run.stdout
  · intro hended
    exact beginsWith_readReport_iff hread (lines_reportText_of_isEnded hsources hended)

/-- The machine of the workshop, where the compiler program reports and prints this. -/
def talkingWorkshop (reported printed : String) : Machine :=
  workshopRunning fun _ => ⟨Utf8.encode reported.toList, Utf8.encode printed.toList, 0⟩

/-- All runs on that machine report and print this. -/
theorem run_talkingWorkshop {reported printed : String}
    (c : Completion javac (talkingWorkshop reported printed) unit options) :
    c.run = ⟨Utf8.encode reported.toList, Utf8.encode printed.toList, 0⟩ := by
  rw [Completion.run, program_eq_of_workshopRunning c]

/-- A machine where a warning is reported and counted, and something else is printed. -/
def countingWorkshop : Machine :=
  talkingWorkshop "warning: [options] bootstrap class path not set\n1 warning\n" "processing Bar\n"

/-- The diagnostic of that warning. -/
def optionsWarning : Diagnostic :=
  ⟨"[options] bootstrap class path not set", none, none, .warning⟩

/-- Behind a warning that is counted, what is printed disturbs nothing. -/
theorem beginsWith_compileOn_iff_countingWorkshop :
    ∃ c : Completion workshopJavac countingWorkshop workshopUnit (.ofClasspath ""),
      IsUnbroken (sourcesPath countingWorkshop).toString.toList ∧
      (readReport (errorText (sourcesPath countingWorkshop) c.run)).2 = .ok [optionsWarning] ∧
      BeginsWith [optionsWarning]
        (workshopJavac.compileOn countingWorkshop workshopUnit (.ofClasspath "")).1.result := by
  obtain ⟨c⟩ : Nonempty (Completion workshopJavac countingWorkshop workshopUnit
      (.ofClasspath "")) := isSome_invocation_iff.mp (by decide +kernel)
  have hrun : c.run = _ := run_talkingWorkshop c
  have hsources : IsUnbroken (sourcesPath countingWorkshop).toString.toList := by decide +kernel
  have hds : (readReport (errorText (sourcesPath countingWorkshop) c.run)).2 =
      .ok [optionsWarning] := by
    rw [hrun]
    decide +kernel
  have hlines : lines (errorText (sourcesPath countingWorkshop) c.run) =
      ["warning: [options] bootstrap class path not set".toList] ++ ["1 warning".toList] := by
    rw [hrun]
    decide +kernel
  have hprinted : lines (printedText (sourcesPath countingWorkshop) c.run) =
      ["processing Bar".toList] := by
    rw [hrun]
    decide +kernel
  have hlast : (outputText c.run.stderr).getLast? = some '\n' := by
    rw [hrun]
    decide +kernel
  refine ⟨c, hsources, hds, ((beginsWith_compileOn_iff c hsources hds).2.2 ?_).mpr ⟨?_, ?_⟩⟩
  · intro d hd
    rw [hlast] at hd
    exact Option.some.inj hd ▸ (by decide : isLineBreak '\n' = true)
  · rw [hprinted]
    intro s hs digits severity message hopens
    rw [List.mem_singleton.mp hs] at hopens
    exact absurd hopens.colon_mem (by decide)
  · have hsummary : IsSummary "1 warning".toList := isSummary_iff.mp (by decide)
    rw [hlines]
    exact Or.inl (isSettled_concat_iff.mpr ⟨hsummary.not_opens, Or.inl hsummary⟩)

/-- A machine where a note is reported, which is not counted, and something else is printed. -/
def notingWorkshop : Machine :=
  talkingWorkshop "Note: Bar.java uses unchecked or unsafe operations.\n" "processing Bar\n"

/-- What is printed goes into the message of a note. -/
theorem not_forall_beginsWith : ¬ ∀ (javac : Javac) (m : Machine) (unit : SourceUnit)
    (options : CompileOptions) (c : Completion javac m unit options) (ds : List Diagnostic),
      (readReport (errorText (sourcesPath m) c.run)).2 = .ok ds →
        BeginsWith ds (javac.compileOn m unit options).1.result := by
  intro h
  obtain ⟨c⟩ : Nonempty (Completion workshopJavac notingWorkshop workshopUnit (.ofClasspath "")) :=
    isSome_invocation_iff.mp (by decide +kernel)
  have hrun : c.run = _ := run_talkingWorkshop c
  have hds : (readReport (errorText (sourcesPath notingWorkshop) c.run)).2 =
      .ok [⟨"Bar.java uses unchecked or unsafe operations.", none, none, .note⟩] := by
    rw [hrun]
    decide +kernel
  obtain ⟨extra, hextra⟩ := h _ _ _ _ c _ hds
  have hresult :
      (workshopJavac.compileOn notingWorkshop workshopUnit (.ofClasspath "")).1.result =
        .ok [⟨"Bar.java uses unchecked or unsafe operations.\nprocessing Bar", none, none,
          .note⟩] := by
    decide +kernel
  rw [hresult] at hextra
  have hmessage := congrArg Diagnostic.message (List.cons.inj (Except.ok.inj hextra)).1
  exact absurd hmessage (by decide)

end Javac

end LintDaemon
