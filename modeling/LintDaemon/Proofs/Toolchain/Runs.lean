import LintDaemon.Proofs.Host.Lookups
import LintDaemon.Proofs.Toolchain.WorkDirectory

/-!
# How far a compilation gets

A compilation prepares its work directory, starts the compiler program among the sources, and
reads what the program wrote when it has ended.

* `Machine.exists_file_of_program`: what is started is what a file does when it is run.
* `Javac.Preparation`: all that is made before the program is started.
* `Javac.isInside_sources`: the file of a unit is always below the directory of the sources.
* `Javac.Preparation.locate_sources`: the directory in which the program works is there.
* `Javac.Refuses`, `Javac.compileOn_cases`: why a compilation without a preparation comes to an end
  before anything is run.
* `Javac.Preparation.compileOn_eq`: one with a preparation is what the program comes to.
* `Javac.Completion`: a preparation whose program ran to its end.
* `Javac.Stops`, `Javac.runOn_cases`: why a prepared compilation comes to an end without one.
* `Javac.workshopRunning`: a machine with a compiler program that others are cases of.
* `Javac.isSome_invocation_iff`: a compilation has run its program exactly if it has a completion.
-/

namespace LintDaemon

open LintDaemon.Text

/-! ## Programs -/

namespace Machine

variable {m : Machine} {directory : Place} {program : Launch → Run}

/-- A program can be started where a file that is one may be run. -/
theorem programAt_eq_ok_iff {path : String} : m.programAt directory path = .ok program ↔
    ∃ place content,
      m.files.locate directory path = .ok (place, .file content true (some program)) := by
  constructor
  · intro h
    unfold programAt at h
    split at h <;> cases h
    · next place content hlocate =>
      exact ⟨place, content, hlocate⟩
  · rintro ⟨place, content, hlocate⟩
    rw [programAt, hlocate]

/-- The first of several paths that can be started is one of them. -/
theorem exists_programAt_of_firstProgram {telling : Option SystemFault} {last : SystemFault}
    {paths : List String} (h : m.firstProgram directory telling last paths = .ok program) :
    ∃ path ∈ paths, m.programAt directory path = .ok program := by
  induction paths generalizing telling last with
  | nil => cases h
  | cons path rest ih =>
    rw [firstProgram] at h
    cases hpath : m.programAt directory path with
    | ok found =>
      rw [hpath] at h
      cases h
      exact ⟨path, List.mem_cons_self, hpath⟩
    | error e =>
      rw [hpath] at h
      obtain ⟨other, hother, hprogram⟩ := ih h
      exact ⟨other, List.mem_cons_of_mem path hother, hprogram⟩

/-- A program that is started is what a file does when it is run. -/
theorem exists_file_of_program {name : String} {arguments : List String}
    (h : m.program directory name arguments = .ok program) :
    ∃ place content, m.files.node? place = some (.file content true (some program)) := by
  unfold Machine.program at h
  split at h
  · cases h
  · obtain ⟨path, -, hpath⟩ := exists_programAt_of_firstProgram h
    obtain ⟨place, content, hlocate⟩ := programAt_eq_ok_iff.mp hpath
    exact ⟨place, content, (FileSystem.locate_eq_ok_iff.mp hlocate).2⟩

end Machine

namespace Javac

open FileSystem

variable {m : Machine} {unit : SourceUnit} {options : CompileOptions} {javac : Javac}

/-- The directory of the sources. -/
def sourcesPath (m : Machine) : Path :=
  (Path.ofString m.freshDirectory).child "src"

/-- The file of a unit with a valid name is below the directory of the sources. -/
theorem isInside_sources {work : Place} {parts : List String}
    (hplace : m.files.placeOf m.directory m.freshDirectory = .ok work)
    (hpath : unit.path? = some parts) :
    isInside (leadsTo m.directory (sourcesPath m).toString)
      (leadsTo m.directory (sourcePath m parts).toString) = true := by
  have hsources : leadsTo m.directory (sourcesPath m).toString = work ++ ["src"] :=
    leadsTo_work_join hplace (by decide : ∀ part ∈ ["src"], Path.IsPlainPart part)
  have hsource : leadsTo m.directory (sourcePath m parts).toString = work ++ ["src"] ++ parts := by
    rw [sourcePath_eq_join, leadsTo_work_join hplace (isPlainPart_of_mem_sources hpath)]
    simp
  rw [hsources, hsource, isInside, Bool.and_eq_true]
  refine ⟨List.isPrefixOf_iff_prefix.mpr (List.prefix_append _ _), ?_⟩
  simpa using List.length_pos_iff.mpr (ne_nil_of_path? hpath)

/-! ## Preparations -/

/-- All that is made before the compiler program is started: the files after each stage. -/
structure Preparation (m : Machine) (unit : SourceUnit) (options : CompileOptions) where
  /-- The path of the unit below the directory of the sources. -/
  parts : List String
  /-- The place of the work directory. -/
  work : Place
  /-- The files when the work directory has been made. -/
  opened : FileSystem
  /-- The files when the directories for the source have been made. -/
  housed : FileSystem
  /-- The files when the source has been written. -/
  written : FileSystem
  /-- The files when the directory for class files has been made. -/
  files : FileSystem
  path_eq : unit.path? = some parts
  hasOutput : ¬ (options.retain = true ∧ options.outputDirectory.isNone = true)
  place_eq : m.files.placeOf m.directory m.freshDirectory = .ok work
  opened_eq : m.files.makeDirectory m.directory m.freshDirectory = .ok opened
  housed_eq : opened.makeDirectories m.directory (sourcePath m parts).parent = (housed, .ok ())
  written_eq : housed.write m.directory (sourcePath m parts).toString
    (Utf8.encode unit.body.toList) = .ok written
  output_noNul :
    holdsNul (outputPath options (Path.ofString m.freshDirectory)).toString = false
  files_eq : written.makeDirectories m.directory
    (outputPath options (Path.ofString m.freshDirectory)) = (files, .ok ())

namespace Preparation

variable (p : Preparation m unit options)

/-- Where the class files go. -/
def output (_ : Preparation m unit options) : Path :=
  outputPath options (Path.ofString m.freshDirectory)

/-- The machine when all is prepared. -/
def machine : Machine :=
  { m with files := p.files }

/-- The compiler program and its arguments. -/
def command (javac : Javac) : List String :=
  javac.path.toString :: arguments options p.output (sourcePath m p.parts)

/-- The directory in which the compiler program works. -/
def directory : Place :=
  p.work ++ ["src"]

/-- The directory of the sources is the one in which the compiler program works. -/
theorem leadsTo_sources : leadsTo m.directory (sourcesPath m).toString = p.directory :=
  leadsTo_work_join p.place_eq (by decide : ∀ part ∈ ["src"], Path.IsPlainPart part)

/-- Writing the source only adds to the files in the work directory. -/
theorem opened_grows_written (htree : m.files.IsTree) :
    Grows (IsMade m unit options p.work) p.opened p.written := by
  refine source_grows p.place_eq p.opened_eq p.path_eq htree ?_
  rw [p.housed_eq]
  exact p.written_eq

/-- Preparing only adds to the files: the work directory and all that is made in it, and
directories for class files that are kept. -/
theorem grows (htree : m.files.IsTree) :
    Grows (IsMade m unit options p.work) m.files p.files := by
  have hclasses := classDirectories_grows p.place_eq p.opened_eq (isUnitName_of_path? p.path_eq)
    (p.opened_grows_written htree)
  rw [p.files_eq] at hclasses
  exact (opened_grows p.place_eq p.opened_eq).trans hclasses

/-- The directory in which the compiler program works is there when all is prepared. -/
theorem locate_sources (htree : m.files.IsTree) :
    p.files.locate m.directory (sourcesPath m).toString = .ok (p.directory, .directory) := by
  have hlowest := isLowest_sourcePath m p.path_eq
  have hparts : p.parts ≠ [] := ne_nil_of_path? p.path_eq
  have habove : (sourcesPath m).IsAtOrAbove (sourcePath m p.parts) :=
    ⟨rfl, List.prefix_append _ _⟩
  have hproper : (sourcesPath m).parts.length < (sourcePath m p.parts).parts.length := by
    simpa [sourcePath, sourcesPath, Path.child, Path.join] using List.length_pos_iff.mpr hparts
  -- the source was written, so the directories above it were there before
  obtain ⟨place, hplace⟩ := placeOf_of_write p.written_eq
  have hhoused := locate_of_isAtOrAbove hlowest habove (by simp [sourcesPath, Path.child]) hproper
    hplace
  rw [p.leadsTo_sources] at hhoused
  have hwritten : Grows (IsMade m unit options p.work) p.housed p.written := by
    have hhoused : (p.opened.makeDirectories m.directory (sourcePath m p.parts).parent).1 =
        p.housed := congrArg Prod.fst p.housed_eq
    rw [← hhoused]
    exact writeSource_grows p.place_eq p.opened_eq p.path_eq htree (hhoused ▸ p.written_eq)
  have hfiles := makeDirectories_grows p.written m.directory
    (outputPath options (Path.ofString m.freshDirectory))
  rw [p.files_eq] at hfiles
  exact hfiles.locate_eq_ok (hwritten.locate_eq_ok hhoused)

/-- What a prepared compilation comes to is what its program comes to. -/
theorem compileOn_eq (javac : Javac) :
    (javac.compileOn m unit options).1 =
      javac.runOn p.machine unit options (sourcesPath m) (sourcePath m p.parts) p.output := by
  have hinside := isInside_sources p.place_eq p.path_eq
  have hhoused := p.housed_eq
  have hwritten := p.written_eq
  unfold sourcePath at hinside hhoused hwritten
  unfold sourcesPath at hinside
  unfold compileOn
  rw [if_neg p.hasOutput, p.place_eq, p.opened_eq]
  dsimp only
  unfold compileIn
  rw [p.path_eq]
  dsimp only
  rw [hinside, Bool.not_true, if_neg Bool.false_ne_true, hhoused]
  dsimp only
  rw [hwritten]
  dsimp only
  rw [p.output_noNul, if_neg Bool.false_ne_true, p.files_eq]
  rfl

end Preparation

/-- All that is prepared is settled by the machine, the unit and the options. -/
instance : Subsingleton (Preparation m unit options) where
  allEq p q := by
    obtain ⟨parts, work, opened, housed, written, files, path_eq, -, place_eq, opened_eq, housed_eq,
      written_eq, -, files_eq⟩ := p
    obtain ⟨_, _, _, _, _, _, path_eq', -, place_eq', opened_eq', housed_eq', written_eq', -,
      files_eq'⟩ := q
    obtain rfl := Option.some.inj (path_eq.symm.trans path_eq')
    obtain rfl := Except.ok.inj (place_eq.symm.trans place_eq')
    obtain rfl := Except.ok.inj (opened_eq.symm.trans opened_eq')
    obtain rfl := congrArg Prod.fst (housed_eq.symm.trans housed_eq')
    obtain rfl := Except.ok.inj (written_eq.symm.trans written_eq')
    obtain rfl := congrArg Prod.fst (files_eq.symm.trans files_eq')
    rfl

/-- Why a compilation comes to an end before anything is run. -/
inductive Refuses (m : Machine) (unit : SourceUnit) (options : CompileOptions) :
    CompileError → Prop
  /-- Class files are to be kept, but nowhere. -/
  | missingOutput (h : options.retain = true ∧ options.outputDirectory.isNone = true) :
    Refuses m unit options .missingOutputDirectory
  /-- The name is not valid. -/
  | invalidName (h : unit.path? = none) : Refuses m unit options (.invalidName unit.name)
  /-- A file or directory cannot be made. -/
  | files (fault : SystemFault) : Refuses m unit options (.files fault)
  /-- No directory for class files can have that name. -/
  | outputNul (hasOutput : ¬ (options.retain = true ∧ options.outputDirectory.isNone = true))
    (h : holdsNul (outputPath options (Path.ofString m.freshDirectory)).toString = true) :
    Refuses m unit options .embeddedNul

/-- A compilation that is not prepared comes to an end before anything is run. -/
theorem compileOn_cases (javac : Javac) (m : Machine) (unit : SourceUnit)
    (options : CompileOptions) :
    (∃ e, (javac.compileOn m unit options).1 = unstarted e ∧ Refuses m unit options e) ∨
      Nonempty (Preparation m unit options) := by
  unfold compileOn
  by_cases hasOutput : options.retain = true ∧ options.outputDirectory.isNone = true
  · rw [if_pos hasOutput]
    exact Or.inl ⟨_, rfl, .missingOutput hasOutput⟩
  rw [if_neg hasOutput]
  rcases place_eq : m.files.placeOf m.directory m.freshDirectory with e | work
  · cases m.files.makeDirectory m.directory m.freshDirectory <;> exact Or.inl ⟨_, rfl, .files _⟩
  rcases opened_eq : m.files.makeDirectory m.directory m.freshDirectory with e | opened
  · exact Or.inl ⟨_, rfl, .files e⟩
  unfold compileIn
  rcases path_eq : unit.path? with _ | parts
  · exact Or.inl ⟨_, rfl, .invalidName path_eq⟩
  have hinside := isInside_sources place_eq path_eq
  unfold sourcesPath sourcePath at hinside
  dsimp only
  rw [hinside, Bool.not_true, if_neg Bool.false_ne_true]
  rcases housed_eq : opened.makeDirectories m.directory
      (((Path.ofString m.freshDirectory).child "src").join parts).parent with ⟨housed, e | ⟨⟩⟩
  · exact Or.inl ⟨_, rfl, .files e⟩
  dsimp only
  rcases written_eq : housed.write m.directory
      (((Path.ofString m.freshDirectory).child "src").join parts).toString
      (Utf8.encode unit.body.toList) with e | written
  · exact Or.inl ⟨_, rfl, .files e⟩
  dsimp only
  rcases output_noNul :
      holdsNul (outputPath options (Path.ofString m.freshDirectory)).toString with _ | _
  · rw [if_neg Bool.false_ne_true]
    rcases files_eq : written.makeDirectories m.directory
        (outputPath options (Path.ofString m.freshDirectory)) with ⟨files, e | ⟨⟩⟩
    · exact Or.inl ⟨_, rfl, .files e⟩
    · exact Or.inr ⟨⟨parts, work, opened, housed, written, files, path_eq, hasOutput, place_eq,
        opened_eq, housed_eq, written_eq, output_noNul, files_eq⟩⟩
  · exact Or.inl ⟨_, rfl, .outputNul hasOutput output_noNul⟩

/-! ## Completions -/

/-- A preparation whose program was started and came to its end in time. -/
structure Completion (javac : Javac) (m : Machine) (unit : SourceUnit) (options : CompileOptions)
    extends Preparation m unit options where
  /-- What is found where the program is to work. -/
  node : Node
  /-- The program. -/
  program : Launch → Run
  ends : m.neverEnds = false
  command_noNul : (javac.path.toString ::
    arguments options toPreparation.output (sourcePath m parts)).any holdsNul = false
  sources_eq : files.locate m.directory (sourcesPath m).toString =
    .ok (toPreparation.directory, node)
  program_eq : toPreparation.machine.program toPreparation.directory javac.path.toString
    (arguments options toPreparation.output (sourcePath m parts)) = .ok program
  isOver_eq : isOver javac.timeout = false
  waitError?_eq : waitError? javac.timeout = none

/-- A run that comes to its end is settled as what is prepared is. -/
instance : Subsingleton (Completion javac m unit options) where
  allEq c d := by
    obtain ⟨p, node, program, -, -, sources_eq, program_eq, -, -⟩ := c
    obtain ⟨q, _, _, -, -, sources_eq', program_eq', -, -⟩ := d
    obtain rfl := Subsingleton.elim p q
    obtain rfl := congrArg Prod.snd (Except.ok.inj (sources_eq.symm.trans sources_eq'))
    obtain rfl := Except.ok.inj (program_eq.symm.trans program_eq')
    rfl

namespace Completion

variable (c : Completion javac m unit options)

/-- What the compiler program is run with. -/
def launch : Launch where
  directory := (sourcesPath m).toString
  arguments := arguments options c.output (sourcePath m c.parts)
  source := Utf8.encode unit.body.toList

/-- What the compiler program has done. -/
def run : Run :=
  c.program c.launch

/-- The text that is read when the compiler program has ended. -/
def report : List Char :=
  reportText (sourcesPath m) c.run

/-- The program was there before the compilation: no program is among what a compilation makes. -/
theorem exists_file (htree : m.files.IsTree) :
    ∃ place content, m.files.node? place = some (.file content true (some c.program)) := by
  obtain ⟨place, content, hnode⟩ := Machine.exists_file_of_program c.program_eq
  have hfile : c.files.node? place = some (.file content true (some c.program)) := hnode
  rcases c.grows htree place with hsame | ⟨-, node, hadded, hmade⟩
  · exact ⟨place, content, hsame.symm.trans hfile⟩
  · obtain rfl := Option.some.inj (hadded.symm.trans hfile)
    rcases hmade with _ | _ | ⟨-, -, output, -, hdirectory, -⟩
    cases hdirectory

/-- A program that came to its end is reported to have run, and what it wrote is read. -/
theorem runOn_eq :
    javac.runOn c.machine unit options (sourcesPath m) (sourcePath m c.parts) c.output =
      ⟨⟨.debug, "Running: " ++ " ".intercalate (javac.path.toString :: c.launch.arguments)⟩ ::
          (readReport c.report).1,
        some ⟨c.launch.arguments, c.launch.source⟩, (readReport c.report).2⟩ := by
  have hnul := c.command_noNul
  have hprogram := c.program_eq
  have hsources : c.machine.files.locate c.machine.directory (sourcesPath m).toString =
      .ok (c.directory, c.node) := c.sources_eq
  have hends : c.machine.neverEnds = false := c.ends
  unfold runOn
  dsimp only
  rw [hnul, if_neg Bool.false_ne_true, hsources]
  dsimp only
  rw [hprogram]
  dsimp only
  rw [c.isOver_eq, if_neg Bool.false_ne_true, c.waitError?_eq]
  dsimp only
  rw [hends, if_neg Bool.false_ne_true]
  rfl

end Completion

/-- A compilation whose program came to its end is a run of it. -/
theorem compileOn_of_completion (c : Completion javac m unit options) :
    (javac.compileOn m unit options).1.invocation = some ⟨c.launch.arguments, c.launch.source⟩ ∧
      (javac.compileOn m unit options).1.result = (readReport c.report).2 := by
  rw [c.compileOn_eq, c.runOn_eq]
  exact ⟨rfl, rfl⟩

/-- Why a prepared compilation comes to an end without a run to report: what is asked of the system
comes first, then the program is started, and then it is waited for. -/
inductive Stops (javac : Javac) (p : Preparation m unit options) : CompileError → Prop
  /-- The program or an argument cannot be told to the operating system. -/
  | commandNul (h : (p.command javac).any holdsNul = true) : Stops javac p .embeddedNul
  /-- The directory of the sources is not there. -/
  | noSources (fault : SystemFault)
    (h : p.files.locate m.directory (sourcesPath m).toString = .error fault) :
    Stops javac p (.notStarted javac.path.toString (fault.about (sourcesPath m).toString))
  /-- The program cannot be started. -/
  | notStarted (hnul : (p.command javac).any holdsNul = false) (fault : SystemFault)
    (h : p.machine.program p.directory javac.path.toString
      (arguments options p.output (sourcePath m p.parts)) = .error fault) :
    Stops javac p (.notStarted javac.path.toString (fault.about javac.path.toString))
  /-- The time for the program is over as soon as it begins. -/
  | overdue (hnul : (p.command javac).any holdsNul = false) (h : isOver javac.timeout = true) :
    Stops javac p (.timedOut javac.timeout unit.name)
  /-- The time for the program cannot be waited for. -/
  | notWaitable (program : Launch → Run)
    (hprogram : p.machine.program p.directory javac.path.toString
      (arguments options p.output (sourcePath m p.parts)) = .ok program)
    (hover : isOver javac.timeout = false) (e : WaitError)
    (h : waitError? javac.timeout = some e) : Stops javac p (.wait e)
  /-- No program ends in time. -/
  | late (hnul : (p.command javac).any holdsNul = false) (hwait : waitError? javac.timeout = none)
    (h : m.neverEnds = true) : Stops javac p (.timedOut javac.timeout unit.name)

/-- A prepared compilation stops without a run, or its program comes to its end. -/
theorem runOn_cases (javac : Javac) (p : Preparation m unit options) :
    (∃ e, (javac.runOn p.machine unit options (sourcesPath m) (sourcePath m p.parts)
          p.output).invocation = none ∧
        (javac.runOn p.machine unit options (sourcesPath m) (sourcePath m p.parts)
          p.output).result = .error e ∧ Stops javac p e) ∨
      ∃ c : Completion javac m unit options, c.toPreparation = p := by
  unfold runOn
  dsimp only
  split
  · next hnul => exact Or.inl ⟨_, rfl, rfl, .commandNul hnul⟩
  next hnul =>
  have hnul : (p.command javac).any holdsNul = false := Bool.eq_false_iff.mpr hnul
  rcases hsources : p.machine.files.locate p.machine.directory (sourcesPath m).toString with
    e | ⟨place, node⟩
  · exact Or.inl ⟨_, rfl, rfl, .noSources e hsources⟩
  -- where the sources are found is where the paths in the work directory lead
  obtain rfl : place = p.directory :=
    (placeOf_eq_ok (locate_eq_ok_iff.mp hsources).1).1.trans p.leadsTo_sources
  dsimp only
  rcases hprogram : p.machine.program p.directory javac.path.toString
      (arguments options p.output (sourcePath m p.parts)) with e | program
  · exact Or.inl ⟨_, rfl, rfl, .notStarted hnul e hprogram⟩
  dsimp only
  split
  · next hover => exact Or.inl ⟨_, rfl, rfl, .overdue hnul hover⟩
  next hover =>
  have hover : isOver javac.timeout = false := Bool.eq_false_iff.mpr hover
  rcases hwait : waitError? javac.timeout with _ | e
  · dsimp only
    split
    · next hends => exact Or.inl ⟨_, rfl, rfl, .late hnul hwait hends⟩
    · next hends =>
      have hends : m.neverEnds = false := Bool.eq_false_iff.mpr hends
      exact Or.inr ⟨⟨p, node, program, hends, hnul, hsources, hprogram, hover, hwait⟩, rfl⟩
  · exact Or.inl ⟨_, rfl, rfl, .notWaitable program hprogram hover e hwait⟩

/-- A compilation has run its program exactly if that came to its end. -/
theorem isSome_invocation_iff : (javac.compileOn m unit options).1.invocation.isSome = true ↔
    Nonempty (Completion javac m unit options) := by
  constructor
  · intro h
    rcases compileOn_cases javac m unit options with ⟨e, he, -⟩ | ⟨⟨p⟩⟩
    · rw [he] at h
      cases h
    · rw [p.compileOn_eq] at h
      rcases runOn_cases javac p with ⟨e, hnone, -⟩ | ⟨c, -⟩
      · rw [hnone] at h
        cases h
      · exact ⟨c⟩
  · rintro ⟨c⟩
    rw [(compileOn_of_completion c).1]
    rfl

/-- The machine of the workshop with another compiler program. -/
def workshopRunning (program : Launch → Run) : Machine :=
  { workshop with
    files := ⟨[(["tmp"], .directory), (["jdk"], .directory),
      (["jdk", "javac"], .file [] true (some program))]⟩ }

/-- The files of that machine are a tree. -/
theorem isTree_workshopRunning (program : Launch → Run) :
    (workshopRunning program).files.IsTree := by
  intro entry hentry
  simp only [workshopRunning, List.mem_cons, List.not_mem_nil, or_false] at hentry
  rcases hentry with rfl | rfl | rfl <;> rfl

/-- On that machine no other program is run. -/
theorem program_eq_of_workshopRunning {program : Launch → Run}
    (c : Completion javac (workshopRunning program) unit options) : c.program = program := by
  obtain ⟨place, content, hnode⟩ := c.exists_file (isTree_workshopRunning program)
  rcases FileSystem.exists_mem_of_node?_eq_some hnode with rfl | hmem
  · cases hnode
  · simp only [workshopRunning, List.mem_cons, Prod.mk.injEq, reduceCtorEq, and_false,
      Node.file.injEq, Option.some.injEq, List.not_mem_nil, or_false, false_or] at hmem
    exact hmem.2.2.2

end Javac

end LintDaemon
