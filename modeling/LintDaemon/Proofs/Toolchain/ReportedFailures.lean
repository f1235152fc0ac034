import LintDaemon.Proofs.Toolchain.FailedRuns
import LintDaemon.Proofs.Toolchain.Preparing

/-!
# Failures of a compilation that are reported as such

A compilation that gives no diagnostics is to end with an error that says that the compiler could
not be run to its end. Which ones do is settled by the files, by the texts that are told to the
operating system, by the time limit and by the report.

* `Javac.IsReported`: diagnostics, or an error that says so.
* `Javac.Preparation.isReported_iff`: when a prepared compilation is reported.
* `CompileError.isValueError`, `Javac.ValueErrorCause`: errors that blame a value, and what they
  stand for.
* `Javac.isReported_compileOn_iff`: the compilations that are reported, and where all errors that
  blame a value come from.
-/

namespace LintDaemon

open LintDaemon.Text

/-- Whether an error says that a value was not acceptable. -/
def CompileError.isValueError : CompileError → Bool
  | .missingOutputDirectory | .invalidName _ | .embeddedNul | .wait .notANumber | .lineNumber _
  | .stated .value _ => true
  | .timedOut _ _ | .notStarted _ _ | .files _ | .wait _ | .stated _ _ => false

/-- Only what is no number is not waited for as such. -/
theorem waitError?_eq_notANumber {seconds : Binary64}
    (h : waitError? seconds = some .notANumber) : seconds = .nan := by
  unfold waitError? at h
  split at h
  · rfl
  · cases h
  · split at h
    · cases h
    · split_ifs at h <;> cases h

namespace Javac

open FileSystem

variable {m : Machine} {unit : SourceUnit} {options : CompileOptions} {javac : Javac}

/-- What a compilation is to come to: diagnostics, or an error that says that the compiler could not
be run to its end. -/
inductive IsReported : Except CompileError (List Diagnostic) → Prop
  /-- The diagnostics of a report. -/
  | diagnostics (ds : List Diagnostic) : IsReported (.ok ds)
  /-- An error that says that the compiler could not be run to its end. -/
  | unfinished {e : CompileError} (h : e.isUnfinished = true) : IsReported (.error e)

/-- An error is reported exactly if it says that the compiler could not be run to its end. -/
theorem isReported_error_iff {e : CompileError} :
    IsReported (.error e) ↔ e.isUnfinished = true := by
  constructor
  · rintro (_ | h)
    exact h
  · exact .unfinished

/-- What is read from a report is reported exactly if no line number in it is too long. -/
theorem isReported_readReport_iff {report : List Char} :
    IsReported (readReport report).2 ↔ Report.HasShortNumbers (lines report) := by
  have hread : (readReport report).2 =
      (Report.readLines none (lines report)).result.mapError fun e => .lineNumber e.digits := rfl
  constructor
  · intro h
    cases hresult : (Report.readLines none (lines report)).result with
    | ok ds => exact Report.digits_length_le_of_readLines_none hresult
    | error e =>
      rw [hread, hresult] at h
      cases isReported_error_iff.mp h
  · intro h
    rw [hread, Report.readLines_none_result h]
    exact .diagnostics _

/-- A compilation that is not prepared is not reported. -/
theorem Refuses.not_isReported {e : CompileError} (h : Refuses m unit options e) :
    ¬ IsReported (.error e) := by
  intro hreported
  have hunfinished := isReported_error_iff.mp hreported
  cases h <;> cases hunfinished

/-- Only what was prepared is reported. -/
theorem nonempty_preparation_of_isReported
    (h : IsReported (javac.compileOn m unit options).1.result) :
    Nonempty (Preparation m unit options) := by
  rcases compileOn_cases javac m unit options with ⟨e, he, hrefuses⟩ | hprepared
  · rw [he] at h
    exact absurd h hrefuses.not_isReported
  · exact hprepared

/-! ## What was prepared -/

namespace Preparation

variable (p : Preparation m unit options)

/-- The compiler program can be started. -/
def Starts (javac : Javac) (program : Launch → Run) : Prop :=
  p.machine.program p.directory javac.path.toString
    (arguments options p.output (sourcePath m p.parts)) = .ok program

/-- What a compilation that was prepared comes to is reported exactly if its command can be told to
the operating system, the time for a program that can be started can be waited for, and the report
of a program that ends in time can be read. -/
theorem isReported_iff (htree : m.files.IsTree) :
    IsReported (javac.compileOn m unit options).1.result ↔
      (p.command javac).any holdsNul = false ∧
        (∀ program, p.Starts javac program →
          isOver javac.timeout = true ∨ waitError? javac.timeout = none) ∧
        ∀ c : Completion javac m unit options, Report.HasShortNumbers (lines c.report) := by
  -- a run that came to its end is one of this preparation
  have hcompletion : ∀ c : Completion javac m unit options, p.Starts javac c.program := by
    intro c
    rw [← Subsingleton.elim c.toPreparation p]
    exact c.program_eq
  rw [p.compileOn_eq]
  rcases runOn_cases javac p with ⟨e, -, he, hstops⟩ | ⟨c, rfl⟩
  · rw [he, isReported_error_iff]
    cases hstops with
    | commandNul hnul =>
      refine iff_of_false nofun ?_
      rintro ⟨hnone, -⟩
      cases hnul.symm.trans hnone
    | noSources fault hmissing =>
      cases hmissing.symm.trans (p.locate_sources htree)
    | notStarted hnul fault hfault =>
      refine iff_of_true rfl ⟨hnul, ?_, ?_⟩
      · intro program hstarts
        cases hfault.symm.trans hstarts
      · intro c
        cases hfault.symm.trans (hcompletion c)
    | overdue hnul hover =>
      refine iff_of_true rfl ⟨hnul, fun _ _ => Or.inl hover, fun c => ?_⟩
      cases hover.symm.trans c.isOver_eq
    | notWaitable program hstarts hover e hwait =>
      refine iff_of_false nofun ?_
      rintro ⟨-, hwaits, -⟩
      rcases hwaits program hstarts with hnow | hnone
      · cases hover.symm.trans hnow
      · cases hwait.symm.trans hnone
    | late hnul hwait hends =>
      refine iff_of_true rfl ⟨hnul, fun _ _ => Or.inr hwait, fun c => ?_⟩
      cases hends.symm.trans c.ends
  · rw [c.runOn_eq, isReported_readReport_iff]
    constructor
    · intro hshort
      refine ⟨c.command_noNul, fun _ _ => Or.inr c.waitError?_eq, fun d => ?_⟩
      rwa [← Subsingleton.elim c d]
    · rintro ⟨-, -, hshort⟩
      exact hshort c

end Preparation

/-! ## Errors that blame a value -/

/-- Where an error that blames a value comes from. -/
inductive ValueErrorCause (javac : Javac) (m : Machine) (unit : SourceUnit)
    (options : CompileOptions) : CompileError → Prop
  /-- Class files are to be kept, but nowhere. -/
  | missingOutput (hretain : options.retain = true) (hnone : options.outputDirectory = none) :
    ValueErrorCause javac m unit options .missingOutputDirectory
  /-- The name of the unit is not valid. -/
  | invalidName (h : isUnitName unit.name = false) :
    ValueErrorCause javac m unit options (.invalidName unit.name)
  /-- The directory for class files that are kept cannot be told to the operating system. -/
  | outputNul (output : Path) (hretain : options.retain = true)
    (houtput : options.outputDirectory = some output) (h : holdsNul output.toString = true) :
    ValueErrorCause javac m unit options .embeddedNul
  /-- The path of the compiler program or the class path cannot be told to it. -/
  | commandNul (h : holdsNul javac.path.toString = true ∨ holdsNul options.classpath = true) :
    ValueErrorCause javac m unit options .embeddedNul
  /-- The time limit is no number. -/
  | notANumber (h : javac.timeout = .nan) :
    ValueErrorCause javac m unit options (.wait .notANumber)
  /-- A line number in the report is too long. -/
  | lineNumber (digits : Nat) (c : Completion javac m unit options)
    (h : ¬ Report.HasShortNumbers (lines c.report)) :
    ValueErrorCause javac m unit options (.lineNumber digits)

/-- Only a directory that is asked for holds a character that no path may hold. -/
theorem exists_output_of_holdsNul (hfresh : holdsNul m.freshDirectory = false)
    (hasOutput : ¬ (options.retain = true ∧ options.outputDirectory.isNone = true))
    (h : holdsNul (outputPath options (Path.ofString m.freshDirectory)).toString = true) :
    ∃ output, options.retain = true ∧ options.outputDirectory = some output ∧
      holdsNul output.toString = true := by
  unfold outputPath at h
  split_ifs at h with hretain
  · cases houtput : options.outputDirectory with
    | none => exact absurd ⟨hretain, by simp [houtput]⟩ hasOutput
    | some output =>
      rw [houtput] at h
      exact ⟨output, hretain, rfl, h⟩
  · cases (holdsNul_join hfresh (by decide) (by decide)).symm.trans h

/-- Errors that blame a value come from nowhere else. -/
theorem valueErrorCause_of_result (hfresh : holdsNul m.freshDirectory = false) {e : CompileError}
    (h : (javac.compileOn m unit options).1.result = .error e) (hvalue : e.isValueError = true) :
    ValueErrorCause javac m unit options e := by
  rcases compileOn_cases javac m unit options with ⟨refused, he, hrefuses⟩ | ⟨⟨p⟩⟩
  · rw [he] at h
    obtain rfl : refused = e := Except.error.inj h
    cases hrefuses with
    | missingOutput hmissing =>
      exact .missingOutput hmissing.1 (Option.isNone_iff_eq_none.mp hmissing.2)
    | invalidName hnone =>
      apply ValueErrorCause.invalidName
      rw [← Bool.not_eq_true]
      intro hname
      obtain ⟨parts, hparts⟩ := exists_path? hname
      cases hnone.symm.trans hparts
    | files fault => cases hvalue
    | outputNul hasOutput hnul =>
      obtain ⟨output, hretain, houtput, hholds⟩ := exists_output_of_holdsNul hfresh hasOutput hnul
      exact .outputNul output hretain houtput hholds
  · rw [p.compileOn_eq] at h
    rcases runOn_cases javac p with ⟨stopped, -, he, hstops⟩ | ⟨c, rfl⟩
    · rw [he] at h
      obtain rfl : stopped = e := Except.error.inj h
      cases hstops with
      | commandNul hnul =>
        apply ValueErrorCause.commandNul
        by_contra hnone
        simp only [not_or, Bool.not_eq_true] at hnone
        cases hnul.symm.trans ((p.command_noNul_iff hfresh javac).mpr hnone)
      | noSources fault hmissing => cases hvalue
      | notStarted hnul fault hfault => cases hvalue
      | overdue hnul hover => cases hvalue
      | late hnul hwait hends => cases hvalue
      | notWaitable program hstarts hover error hwait =>
        cases error with
        | notANumber => exact .notANumber (waitError?_eq_notANumber hwait)
        | infinite => cases hvalue
        | tooLarge => cases hvalue
        | uncountable => cases hvalue
    · rw [c.runOn_eq] at h
      dsimp only at h
      obtain ⟨digits, rfl⟩ := readReport_eq_error h
      refine .lineNumber digits c fun hshort => ?_
      have hreported := isReported_readReport_iff.mpr hshort
      rw [h] at hreported
      cases isReported_error_iff.mp hreported

/-! ## What is reported -/

/-- **A compilation gives diagnostics or an error of the compiler exactly if** its paths are not too
long and nothing is in their way, the class path and the path of the program can be told to the
operating system, the time limit of a program that is started can be waited for, and no line number
in the report of one that ends in time is too long. All other failures come out as faults of files,
as overflows, or as errors that blame a value, which come from much more than an invalid name or a
directory that is not given. -/
theorem isReported_compileOn_iff (javac : Javac) (m : Machine) (unit : SourceUnit)
    (options : CompileOptions) (htree : m.files.IsTree)
    (hdirectory : m.files.node? m.directory = some .directory)
    (hfresh : holdsNul m.freshDirectory = false)
    (hlowest : ∀ output, options.outputDirectory = some output → output.IsLowest) :
    (IsReported (javac.compileOn m unit options).1.result ↔
      (∃ parts, unit.path? = some parts ∧ IsAccepted m options parts) ∧
        (holdsNul javac.path.toString = false ∧ holdsNul options.classpath = false) ∧
        (∀ (p : Preparation m unit options) (program : Launch → Run), p.Starts javac program →
          isOver javac.timeout = true ∨ waitError? javac.timeout = none) ∧
        ∀ c : Completion javac m unit options, Report.HasShortNumbers (lines c.report)) ∧
      ∀ e, (javac.compileOn m unit options).1.result = .error e → e.isValueError = true →
        ValueErrorCause javac m unit options e := by
  refine ⟨?_, fun e => valueErrorCause_of_result hfresh⟩
  have hprepared := @nonempty_preparation_iff m unit options htree hdirectory hfresh hlowest
  rw [← hprepared]
  constructor
  · intro h
    obtain ⟨p⟩ := nonempty_preparation_of_isReported h
    obtain ⟨hnul, hwaits, hshort⟩ := (p.isReported_iff htree).mp h
    refine ⟨⟨p⟩, (p.command_noNul_iff hfresh javac).mp hnul, fun q => ?_, hshort⟩
    rwa [← Subsingleton.elim p q]
  · rintro ⟨⟨p⟩, hnul, hwaits, hshort⟩
    exact (p.isReported_iff htree).mpr
      ⟨(p.command_noNul_iff hfresh javac).mpr hnul, hwaits p, hshort⟩

/-- Of these two compilations one is reported, and the other fails by a class path that cannot be
told to the operating system. -/
theorem isReported_compileOn_iff_workshop :
    workshop.files.IsTree ∧ workshop.files.node? workshop.directory = some .directory ∧
      holdsNul workshop.freshDirectory = false ∧
      (∃ parts, workshopUnit.path? = some parts ∧ IsAccepted workshop (.ofClasspath "") parts) ∧
      ¬ IsReported
        (workshopJavac.compileOn workshop workshopUnit (.ofClasspath "\x00")).1.result := by
  have htree : workshop.files.IsTree := by decide
  have hfresh : holdsNul workshop.freshDirectory = false := by decide
  have hiff : ∀ classpath, _ := fun classpath =>
    (isReported_compileOn_iff workshopJavac workshop workshopUnit (.ofClasspath classpath) htree rfl
      hfresh nofun).1
  refine ⟨htree, rfl, hfresh, ((hiff "").mp ?_).1, (hiff "\x00").not.mpr ?_⟩
  · have hok : (workshopJavac.compileOn workshop workshopUnit (.ofClasspath "")).1.result.isOk =
        true := by decide +kernel
    cases hresult : (workshopJavac.compileOn workshop workshopUnit (.ofClasspath "")).1.result with
    | ok ds => exact .diagnostics ds
    | error e =>
      rw [hresult] at hok
      cases hok
  · rintro ⟨-, ⟨-, hnul⟩, -⟩
    exact absurd hnul (by decide)

/-- A class whose name has this many letters. -/
def longUnit (count : Nat) : SourceUnit :=
  ⟨letters count, "class A {}"⟩

/-- It is a valid name, and the name of its file has five more. -/
theorem path?_longUnit (count : Nat) : isUnitName (longUnit (count + 1)).name = true ∧
    (longUnit (count + 1)).path? = some [letters (count + 1) ++ ".java"] := by
  have hletters : isIdentifier (List.replicate (count + 1) 'a') = true := by
    have hstart : isNameStart 'a' = true := by decide
    have hpart : isNamePart 'a' = true := by decide
    rw [List.replicate_succ, isIdentifier, hstart, List.all_replicate]
    simp [hpart]
  obtain ⟨hname, hpath⟩ := pathParts?_of_isIdentifier hletters
  rw [isUnitName, SourceUnit.path?, longUnit, letters, String.toList_ofList, hpath]
  refine ⟨hname, ?_⟩
  rw [Option.map_some, List.map_singleton, String.ofList_append]
  rfl

/-- A unit with a valid name whose compilation is not reported: the name of its file is too long. -/
theorem not_forall_isReported : ¬ ∀ (javac : Javac) (m : Machine) (unit : SourceUnit)
    (options : CompileOptions), m.files.IsTree → m.files.node? m.directory = some .directory →
      isUnitName unit.name = true → options.retain = false →
      IsReported (javac.compileOn m unit options).1.result := by
  intro h
  obtain ⟨hname, hpath⟩ := path?_longUnit 251
  have hreported := h workshopJavac workshop (longUnit 252) (.ofClasspath "") (by decide) rfl
    hname rfl
  obtain ⟨p⟩ := nonempty_preparation_of_isReported hreported
  have hparts := Option.some.inj (p.path_eq.symm.trans hpath)
  have hshort := (p.isAccepted (by decide) rfl nofun).parts_short
  rw [hparts] at hshort
  have hpart := hshort _ List.mem_cons_self
  rw [String.utf8ByteSize_append, utf8ByteSize_letters] at hpart
  exact absurd hpart (by decide)

end Javac

end LintDaemon
