import LintDaemon.Proofs.Daemon.History
import LintDaemon.Proofs.Protocol.ReplyLines
import LintDaemon.Proofs.Report.Blocks
import LintDaemon.Proofs.Toolchain.Runs
import LintDaemon.Toolchain.Location

/-!
# Runs that fail

The exit status of the compiler program is not read. Whether a run is reported as a failure, and
whether a source is called clean, is settled by the lines that the program wrote, so that a run that
fails without a line of error in the form of the reports passes for clean code.

* `CompileError.isUnfinished`: errors that say that the compiler could not be run to its end.
* `Javac.ReportsFailure`: results that nobody takes for clean code.
* `Javac.reportsFailure_iff`: which runs are reported as failures, and which are answered with the
  empty list.
-/

namespace LintDaemon

open LintDaemon.Text

/-- Whether an error says that the compiler could not be run to its end. -/
def CompileError.isUnfinished : CompileError → Bool
  | .timedOut _ _ | .notStarted _ _ | .stated .compilation _ => true
  | .missingOutputDirectory | .invalidName _ | .files _ | .embeddedNul | .wait _ | .lineNumber _
  | .stated _ _ => false

/-! ## Reports without diagnostics and with errors -/

namespace Report

variable {ls : List (List Char)} {ds : List Diagnostic}

/-- The openers of the blocks are what the lines open. -/
theorem exists_block_iff (ls : List (List Char)) (p : Opener → Prop) :
    (∃ b ∈ blocksOf ls, p b.opener) ↔ ∃ s ∈ ls, ∃ o, Opens s o ∧ p o := by
  have hmem : ∀ o, o ∈ (blocksOf ls).map Block.opener ↔ ∃ s ∈ ls, Opens s o := by
    intro o
    rw [map_opener_blocksOf, List.mem_filterMap]
    simp only [opener?_eq_some_iff]
  constructor
  · rintro ⟨b, hb, hp⟩
    obtain ⟨s, hs, hopens⟩ := (hmem b.opener).mp (List.mem_map_of_mem hb)
    exact ⟨s, hs, b.opener, hopens, hp⟩
  · rintro ⟨s, hs, o, hopens, hp⟩
    obtain ⟨b, hb, rfl⟩ := List.mem_map.mp ((hmem o).mpr ⟨s, hs, hopens⟩)
    exact ⟨b, hb, hp⟩

/-- A report that is read has an error among its diagnostics exactly if a line opens one. -/
theorem exists_error_iff (h : (readLines none ls).result = .ok ds) :
    (∃ d ∈ ds, d.severity = .error) ↔ ∃ s ∈ ls, ∃ o, Opens s o ∧ o.severity = .error := by
  obtain ⟨-, rfl⟩ := readLines_none_eq_ok_iff.mp h
  have hblocks := exists_block_iff ls fun o => o.severity = .error
  rw [← hblocks]
  constructor
  · rintro ⟨d, hd, herror⟩
    obtain ⟨b, hb, rfl⟩ := List.mem_map.mp hd
    exact ⟨b, hb, herror⟩
  · rintro ⟨b, hb, herror⟩
    exact ⟨b.diagnostic, List.mem_map_of_mem hb, herror⟩

/-- A report has no diagnostics exactly if no line opens any. -/
theorem readLines_none_eq_nil_iff :
    (readLines none ls).result = .ok [] ↔ ∀ s ∈ ls, ∀ o, ¬ Opens s o := by
  have hblocks := exists_block_iff ls fun _ => True
  rw [readLines_none_eq_ok_iff, List.map_eq_nil_iff]
  constructor
  · rintro ⟨-, hnil⟩ s hs o hopens
    obtain ⟨b, hb, -⟩ := hblocks.mpr ⟨s, hs, o, hopens, trivial⟩
    rw [hnil] at hb
    exact List.not_mem_nil hb
  · intro hnone
    refine ⟨fun s hs digits severity message hopens => absurd hopens (hnone s hs _), ?_⟩
    refine List.eq_nil_iff_forall_not_mem.mpr fun b hb => ?_
    obtain ⟨s, hs, o, hopens, -⟩ := hblocks.mp ⟨b, hb, trivial⟩
    exact hnone s hs o hopens

end Report

/-- Only the empty list of diagnostics is written as the empty list. -/
theorem Reply.diagnosticsLine_eq_iff {ds : List Diagnostic} :
    diagnosticsLine ds = "[]" ↔ ds = [] := by
  constructor
  · intro h
    have hread := read_diagnosticsLine ds (List.forall_mem_nil fun c => Json.isSpace c = true)
    rw [List.append_nil, h] at hread
    have hnil : Json.Value.array [] = .array (ds.map diagnosticValue) := Except.ok.inj hread
    exact List.map_eq_nil_iff.mp (Json.Value.array.inj hnil).symm
  · rintro rfl
    rfl

/-- A lint is answered with the empty list exactly if the compiler gives no diagnostics. -/
theorem Session.dispatch_lint_eq_empty_iff {s : Session} {compiler : Compiler}
    (hcompiler : s.compiler = some compiler) (toolchain : Toolchain) (unit : SourceUnit) :
    (s.dispatch toolchain (.lint unit.name unit.body)).result = .ok (.ofLine "[]") ↔
      (compiler.compile unit s.compileOptions).result = .ok [] := by
  have hlint : (s.dispatch toolchain (.lint unit.name unit.body)).result = _ := s.lint_result unit
  rw [hlint, compile, hcompiler]
  dsimp only
  cases (compiler.compile unit s.compileOptions).result with
  | error e => exact iff_of_false nofun nofun
  | ok ds =>
    dsimp only
    rw [report, Except.ok.injEq]
    constructor
    · intro h
      split_ifs at h
      have hline := Option.some.inj (congrArg Reply.line (Except.ok.inj h))
      exact Reply.diagnosticsLine_eq_iff.mp hline
    · rintro rfl
      rfl

/-! ## What a run is reported as -/

namespace Javac

variable {m : Machine} {unit : SourceUnit} {options : CompileOptions} {javac : Javac}

/-- Results that nobody takes for clean code: the compiler could not be run to its end, or it found
an error. -/
inductive ReportsFailure : Except CompileError (List Diagnostic) → Prop
  /-- An error says that the compiler could not be run to its end. -/
  | unfinished {e : CompileError} (h : e.isUnfinished = true) : ReportsFailure (.error e)
  /-- One of the diagnostics is an error. -/
  | found {diagnostics : List Diagnostic} (h : ∃ d ∈ diagnostics, d.severity = .error) :
    ReportsFailure (.ok diagnostics)

/-- What is read from a report is reported as a failure exactly if the report can be read and a line
opens an error. -/
theorem reportsFailure_readReport_iff {report : List Char} :
    ReportsFailure (readReport report).2 ↔
      Report.HasShortNumbers (lines report) ∧
        ∃ line ∈ lines report, ∃ o, Report.Opens line o ∧ o.severity = .error := by
  have hread : (readReport report).2 =
      (Report.readLines none (lines report)).result.mapError fun e => .lineNumber e.digits := rfl
  rw [hread]
  cases hresult : (Report.readLines none (lines report)).result with
  | error e =>
    refine iff_of_false ?_ ?_
    · rintro ⟨h⟩
      cases h
    · rintro ⟨hshort, -⟩
      cases hresult.symm.trans (Report.readLines_none_result hshort)
  | ok ds =>
    have hshort : Report.HasShortNumbers (lines report) :=
      Report.digits_length_le_of_readLines_none hresult
    rw [and_iff_right hshort, ← Report.exists_error_iff hresult]
    constructor
    · rintro (_ | h)
      exact h
    · exact .found

/-- What is read from a report is a list of diagnostics exactly if its lines give that list. -/
theorem readReport_eq_ok_iff {report : List Char} {ds : List Diagnostic} :
    (readReport report).2 = .ok ds ↔ (Report.readLines none (lines report)).result = .ok ds := by
  show (Report.readLines none (lines report)).result.mapError _ = _ ↔ _
  cases (Report.readLines none (lines report)).result with
  | error e => exact iff_of_false nofun nofun
  | ok found => exact Iff.of_eq (by simp [Except.mapError])

/-- What is read from a report is the empty list exactly if no line opens anything. -/
theorem readReport_eq_nil_iff {report : List Char} :
    (readReport report).2 = .ok [] ↔ ∀ line ∈ lines report, ∀ o, ¬ Report.Opens line o :=
  readReport_eq_ok_iff.trans Report.readLines_none_eq_nil_iff

/-- **A run is reported as a failure exactly by what the program wrote**, and never by its exit
status: if a line of the report opens an error, and no line number is too long to be read. A lint is
answered with the empty list exactly if no line opens anything, whatever the exit status. -/
theorem reportsFailure_iff (c : Completion javac m unit options) :
    (ReportsFailure (javac.compileOn m unit options).1.result ↔
      Report.HasShortNumbers (lines c.report) ∧
        ∃ line ∈ lines c.report, ∃ o, Report.Opens line o ∧ o.severity = .error) ∧
    ∀ (s : Session) (toolchain : Toolchain) (home : Option String),
      s.compiler = some (javac.toCompiler m home) → s.compileOptions = options →
        ((s.dispatch toolchain (.lint unit.name unit.body)).result = .ok (.ofLine "[]") ↔
          ∀ line ∈ lines c.report, ∀ o, ¬ Report.Opens line o) := by
  have hresult := (compileOn_of_completion c).2
  rw [hresult]
  refine ⟨reportsFailure_readReport_iff, fun s toolchain home hcompiler hoptions => ?_⟩
  have hcompile : ((javac.toCompiler m home).compile unit s.compileOptions).result =
      (readReport c.report).2 := by
    rw [hoptions]
    exact hresult
  rw [Session.dispatch_lint_eq_empty_iff hcompiler, hcompile]
  exact readReport_eq_nil_iff

/-- The machine of the workshop, where the compiler program says this and fails. -/
def failingWorkshop (text : String) : Machine :=
  { workshop with
    files := ⟨[(["tmp"], .directory), (["jdk"], .directory),
      (["jdk", "javac"], .file [] true (some fun _ => ⟨Utf8.encode text.toList, [], 1⟩))]⟩ }

/-- All runs on that machine fail. -/
theorem run_failingWorkshop {text : String}
    (c : Completion javac (failingWorkshop text) unit options) :
    c.run = ⟨Utf8.encode text.toList, [], 1⟩ := by
  have hprogram : c.program = fun _ => ⟨Utf8.encode text.toList, [], 1⟩ :=
    program_eq_of_workshopRunning c
  rw [Completion.run, hprogram]

/-- What is said where the compiler program could not be started properly. -/
def crashText : String :=
  "Error: Could not create the Java Virtual Machine.\n"

/-- The compiler program of the workshop comes to its end where it says that. -/
theorem nonempty_completion_crash : Nonempty (Completion workshopJavac (failingWorkshop crashText)
    workshopUnit (.ofClasspath "")) :=
  isSome_invocation_iff.mp (by decide +kernel)

/-- Nothing that is said there opens a diagnostic. -/
theorem not_opens_crash (c : Completion javac (failingWorkshop crashText) unit options) :
    ∀ line ∈ lines c.report, ∀ o, ¬ Report.Opens line o := by
  have hlines : ∀ line ∈ lines c.report, Report.opener? line = none := by
    rw [Completion.report, run_failingWorkshop c]
    decide +kernel
  exact fun line hline => Report.opener?_eq_none_iff.mp (hlines line hline)

/-- A run that fails with an error in its report is reported as a failure; one that fails with other
words is answered with the empty list. -/
theorem reportsFailure_iff_failingWorkshop :
    (∃ c : Completion workshopJavac (failingWorkshop "error: invalid flag: -x\n") workshopUnit
        (.ofClasspath ""), c.run.status = 1 ∧
      ReportsFailure (workshopJavac.compileOn (failingWorkshop "error: invalid flag: -x\n")
        workshopUnit (.ofClasspath "")).1.result) ∧
    ∃ c : Completion workshopJavac (failingWorkshop crashText) workshopUnit (.ofClasspath ""),
      c.run.status = 1 ∧
      ((⟨"", none, some (workshopJavac.toCompiler (failingWorkshop crashText) none), 0⟩ :
        Session).dispatch ((failingWorkshop crashText).toolchain workshopJavac.timeout)
          (.lint workshopUnit.name workshopUnit.body)).result = .ok (.ofLine "[]") := by
  constructor
  · obtain ⟨c⟩ : Nonempty (Completion workshopJavac (failingWorkshop "error: invalid flag: -x\n")
        workshopUnit (.ofClasspath "")) := isSome_invocation_iff.mp (by decide +kernel)
    have hlines : lines c.report = ["error: invalid flag: -x".toList] := by
      rw [Completion.report, run_failingWorkshop c]
      decide +kernel
    refine ⟨c, by rw [run_failingWorkshop c], (reportsFailure_iff c).1.mpr ?_⟩
    rw [hlines]
    refine ⟨?_, _, List.mem_cons_self, .general .error "invalid flag: -x".toList, ?_, rfl⟩
    · intro s hs digits severity message hopens
      rw [List.mem_singleton.mp hs] at hopens
      exact hopens.digits_length_le.trans (by decide)
    · exact Report.opener?_eq_some_iff.mp (by decide +kernel)
  · obtain ⟨c⟩ := nonempty_completion_crash
    exact ⟨c, by rw [run_failingWorkshop c],
      ((reportsFailure_iff c).2 _ _ none rfl rfl).mpr (not_opens_crash c)⟩

/-- A run that fails, and yet is answered with the empty list. -/
theorem not_forall_reportsFailure : ¬ ∀ (javac : Javac) (m : Machine) (unit : SourceUnit)
    (options : CompileOptions) (c : Completion javac m unit options), c.run.status ≠ 0 →
      ReportsFailure (javac.compileOn m unit options).1.result := by
  intro h
  obtain ⟨c⟩ := nonempty_completion_crash
  have hreports := h _ _ _ _ c (by rw [run_failingWorkshop c]; decide)
  have hclean : (workshopJavac.compileOn (failingWorkshop crashText) workshopUnit
      (.ofClasspath "")).1.result = .ok [] :=
    (compileOn_of_completion c).2.trans (readReport_eq_nil_iff.mpr (not_opens_crash c))
  rw [hclean] at hreports
  cases hreports with
  | found hfound =>
    obtain ⟨d, hd, -⟩ := hfound
    exact List.not_mem_nil hd

end Javac

end LintDaemon
