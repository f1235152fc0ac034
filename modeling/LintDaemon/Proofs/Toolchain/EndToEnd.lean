import LintDaemon.Proofs.Text.Erasing
import LintDaemon.Proofs.Toolchain.Preparing
import LintDaemon.Proofs.Toolchain.SamePaths

/-!
# A compilation from end to end

Where the files allow it, the compiler program is run once among the sources, with the source
written for it, and the diagnostics are what is read of all that it wrote, with the directory of the
sources taken out.

* `Javac.IsReady`: a compilation that nothing stands in the way of but a limit of the operating
  system.
* `Javac.launchOf`: what the compiler program is then run with.
* `Javac.IsWrittenAround`: output that names files only through the directory of the sources.
* `Javac.compileOn_of_isReady`: what such a compilation comes to, and that neither the name of the
  work directory nor the exit status nor the place of the class files matters to it.
-/

namespace LintDaemon

open LintDaemon.Text

namespace Javac

open FileSystem

variable {m : Machine} {unit : SourceUnit} {options : CompileOptions} {javac : Javac}
  {parts : List String} {program : Launch → Run}

/-- A compilation for which all is in order: the unit is accepted, the class path can be told to the
operating system, and the compiler program is there and comes to its end in time. -/
structure IsReady (javac : Javac) (m : Machine) (unit : SourceUnit) (options : CompileOptions)
    (parts : List String) (program : Launch → Run) : Prop where
  /-- The files are a tree. -/
  tree : m.files.IsTree
  /-- The directory in which the daemon was started is there. -/
  directory : m.files.node? m.directory = some .directory
  /-- The work directory has a name that can be told to the operating system. -/
  fresh_noNul : holdsNul m.freshDirectory = false
  /-- The directory for class files is a path as it is read from a text. -/
  output_isLowest : ∀ output, options.outputDirectory = some output → output.IsLowest
  /-- The unit has a valid name, and this path. -/
  path_eq : unit.path? = some parts
  /-- The files accept it. -/
  accepted : IsAccepted m options parts
  /-- The class path can be told to the operating system. -/
  classpath_noNul : holdsNul options.classpath = false
  /-- The path of the compiler program is a path as it is read from a text. -/
  path_isLowest : javac.path.IsLowest
  /-- It has a root. -/
  absolute : javac.path.root ≠ ""
  /-- The program is there. -/
  there : ∃ content, m.files.find? m.directory javac.path.toString =
    some (.file content true (some program))
  /-- Programs come to their ends. -/
  ends : m.neverEnds = false
  /-- There is time for it. -/
  inTime : isOver javac.timeout = false

/-- What the compiler program is run with. -/
def launchOf (m : Machine) (unit : SourceUnit) (options : CompileOptions) (parts : List String) :
    Launch where
  directory := (sourcesPath m).toString
  arguments := ["-J-Duser.language=en", "-encoding", "UTF-8", "-cp", options.classpath, "-d",
    (outputPath options (Path.ofString m.freshDirectory)).toString, (sourcePath m parts).toString]
  source := Utf8.encode unit.body.toList

/-- The output of a program that names files only through the directory of the sources: pieces, with
the path of that directory and a slash between them. -/
structure IsWrittenAround (sources : Path) (run : Run) (pieces : List (List Char)) : Prop where
  /-- The pieces and what stands between them are all that was written. -/
  text_eq : outputText run.stderr ++ outputText run.stdout =
    join (sources.toString.toList ++ ['/']) pieces
  /-- The path begins in none of them. -/
  avoids : ∀ piece ∈ pieces, Avoids (sources.toString.toList ++ ['/']) piece

/-- A path that is found is not too long for an argument. -/
theorem le_maxArgumentBytes_of_locate {fs : FileSystem} {directory : Place} {path : String}
    {found : Place × Node} (h : fs.locate directory path = .ok found) :
    path.utf8ByteSize ≤ Machine.maxArgumentBytes := by
  obtain ⟨-, hlimit, -⟩ := placeOf_eq_ok_iff.mp (locate_eq_ok_iff.mp h).1
  have hmost : pathByteLimit ≤ Machine.maxArgumentBytes := by decide
  exact hlimit.le.trans hmost

/-- A path at which something was found can be told to the operating system. -/
theorem holdsNul_of_find? {fs : FileSystem} {directory : Place} {path : String} {node : Node}
    (h : fs.find? directory path = some node) : holdsNul path = false := by
  rw [← Bool.not_eq_true]
  intro hnul
  rw [find?, query, if_pos hnul] at h
  cases h

namespace IsReady

variable (h : IsReady javac m unit options parts program)

include h

/-- All is prepared. -/
theorem exists_preparation : ∃ p : Preparation m unit options, p.parts = parts := by
  obtain ⟨p⟩ := (nonempty_preparation_iff h.tree h.directory h.fresh_noNul h.output_isLowest).mpr
    ⟨parts, h.path_eq, h.accepted⟩
  exact ⟨p, Option.some.inj (p.path_eq.symm.trans h.path_eq)⟩

/-- The program is started, unless the class path is too long for an argument. -/
theorem program_eq (p : Preparation m unit options)
    (hclasspath : options.classpath.utf8ByteSize ≤ Machine.maxArgumentBytes) :
    p.machine.program p.directory javac.path.toString
      (arguments options p.output (sourcePath m p.parts)) = .ok program := by
  obtain ⟨content, hfind⟩ := h.there
  obtain ⟨place, hlocate⟩ := locate_of_find? hfind
  have hfound := (p.grows h.tree).locate_eq_ok hlocate
  have hslash := Machine.contains_slash h.path_isLowest (Or.inl h.absolute)
  have hshort : ((javac.path.toString :: arguments options p.output (sourcePath m p.parts)).any
      (Machine.maxArgumentBytes < ·.utf8ByteSize)) = false := by
    have hjavac := le_maxArgumentBytes_of_locate hfound
    have houtput : p.output.toString.utf8ByteSize ≤ Machine.maxArgumentBytes :=
      le_maxArgumentBytes_of_locate (makeDirectories_eq_ok p.files_eq)
    have hsource := le_maxArgumentBytes_of_locate (p.locate_source h.tree)
    have hflags : ∀ flag ∈ ["-J-Duser.language=en", "-encoding", "UTF-8", "-cp", "-d"],
        flag.utf8ByteSize ≤ Machine.maxArgumentBytes := by decide
    simp only [List.forall_mem_cons] at hflags
    simp [arguments, CompileOptions.arguments, hjavac, houtput, hsource, hclasspath, hflags]
  rw [Machine.program_eq_programAt hslash, hshort, if_neg Bool.false_ne_true,
    Machine.programAt_eq_ok_iff]
  refine ⟨place, content, ?_⟩
  rw [locate_of_root h.path_isLowest h.absolute _ _ m.directory]
  exact hfound

/-- The program is run, and comes to its end. -/
theorem exists_completion
    (hclasspath : options.classpath.utf8ByteSize ≤ Machine.maxArgumentBytes)
    (hwait : waitError? javac.timeout = none) :
    ∃ c : Completion javac m unit options, c.parts = parts ∧ c.program = program := by
  obtain ⟨p, hparts⟩ := h.exists_preparation
  obtain ⟨content, hfind⟩ := h.there
  have hnul : (p.command javac).any holdsNul = false :=
    (p.command_noNul_iff h.fresh_noNul javac).mpr ⟨holdsNul_of_find? hfind, h.classpath_noNul⟩
  exact ⟨⟨p, .directory, program, h.ends, hnul, p.locate_sources h.tree,
    h.program_eq p hclasspath, h.inTime, hwait⟩, hparts, rfl⟩

/-- What is read of a program that names files only through the directory of the sources is what its
output says besides. -/
theorem result_eq_of_isWrittenAround
    (hclasspath : options.classpath.utf8ByteSize ≤ Machine.maxArgumentBytes)
    (hwait : waitError? javac.timeout = none) {pieces : List (List Char)}
    (hpieces : IsWrittenAround (sourcesPath m) (program (launchOf m unit options parts)) pieces) :
    (javac.compileOn m unit options).1.result = (readReport pieces.flatten).2 := by
  obtain ⟨c, rfl, rfl⟩ := h.exists_completion hclasspath hwait
  have hne : (sourcesPath m).toString.toList ++ ['/'] ≠ [] := by simp
  have hrun : c.run = c.program (launchOf m unit options c.parts) := rfl
  rw [(compileOn_of_completion c).2, Completion.report, reportText, hrun, hpieces.text_eq,
    erase_join hne hpieces.avoids]

end IsReady

/-- **A compilation from end to end.** Where all is in order, and the class path and the time limit
are within what the operating system takes, the compiler program is run once, among the sources,
with these arguments and with the source in its file, byte for byte; and the result is what is read
of its standard error and then its standard output, with the path of the directory of the sources
taken out wherever it stands. So two compilations of which the output is the same but for that path
come to the same, whatever their work directories are called, however they exit and wherever the
class files go. -/
theorem compileOn_of_isReady (javac : Javac) (m : Machine) (unit : SourceUnit)
    (options : CompileOptions) (parts : List String) (program : Launch → Run)
    (h : IsReady javac m unit options parts program)
    (hclasspath : options.classpath.utf8ByteSize ≤ Machine.maxArgumentBytes)
    (hwait : waitError? javac.timeout = none) :
    (∃ files place, (javac.compileOn m unit options).1 =
        javac.runOn { m with files := files } unit options (sourcesPath m) (sourcePath m parts)
          (outputPath options (Path.ofString m.freshDirectory)) ∧
      files.locate m.directory (sourcesPath m).toString = .ok (place, .directory) ∧
      files.locate m.directory (sourcePath m parts).toString =
        .ok (place ++ parts, .file (Utf8.encode unit.body.toList) false none)) ∧
      (javac.compileOn m unit options).1.invocation =
        some ⟨(launchOf m unit options parts).arguments, Utf8.encode unit.body.toList⟩ ∧
      (javac.compileOn m unit options).1.result =
        (readReport (erase ((sourcesPath m).toString.toList ++ ['/'])
          (outputText (program (launchOf m unit options parts)).stderr ++
            outputText (program (launchOf m unit options parts)).stdout))).2 ∧
      ∀ (otherJavac : Javac) (other : Machine) (otherOptions : CompileOptions)
        (otherProgram : Launch → Run) (pieces : List (List Char)),
        IsReady otherJavac other unit otherOptions parts otherProgram →
        otherOptions.classpath.utf8ByteSize ≤ Machine.maxArgumentBytes →
        waitError? otherJavac.timeout = none →
        IsWrittenAround (sourcesPath m) (program (launchOf m unit options parts)) pieces →
        IsWrittenAround (sourcesPath other)
          (otherProgram (launchOf other unit otherOptions parts)) pieces →
        (javac.compileOn m unit options).1.result =
          (otherJavac.compileOn other unit otherOptions).1.result := by
  refine ⟨?_, ?_, ?_, ?_⟩
  · obtain ⟨p, rfl⟩ := h.exists_preparation
    refine ⟨p.files, p.directory, p.compileOn_eq javac, p.locate_sources h.tree, ?_⟩
    rw [p.locate_source h.tree, Preparation.directory, List.append_assoc]
    rfl
  · obtain ⟨c, rfl, -⟩ := h.exists_completion hclasspath hwait
    exact (compileOn_of_completion c).1
  · obtain ⟨c, rfl, rfl⟩ := h.exists_completion hclasspath hwait
    exact (compileOn_of_completion c).2
  · intro otherJavac other otherOptions otherProgram pieces hother hotherPath hotherWait hpieces
      hotherPieces
    rw [h.result_eq_of_isWrittenAround hclasspath hwait hpieces,
      hother.result_eq_of_isWrittenAround hotherPath hotherWait hotherPieces]

/-- Where nothing is kept, any class path that can be told to the operating system will do. -/
theorem IsReady.withClasspath {classpath other : String}
    (h : IsReady javac m unit (.ofClasspath classpath) parts program)
    (hother : holdsNul other = false) : IsReady javac m unit (.ofClasspath other) parts program :=
  { h with
    output_isLowest := nofun
    accepted := ⟨h.accepted.work, h.accepted.short, h.accepted.parts_short, nofun⟩
    classpath_noNul := hother }

/-- The machine of the workshop with another work directory, where the compiler program finds fault
with the source and has this exit status. -/
def namingWorkshop (fresh : String) (status : Nat) : Machine :=
  { workshop with
    freshDirectory := fresh
    files := ⟨[(["tmp"], .directory), (["jdk"], .directory),
      (["jdk", "javac"], .file [] true (some fun launch =>
        ⟨Utf8.encode (launch.directory ++ "/foo/Bar.java:3: error: no").toList, [], status⟩))]⟩ }

/-- What its compiler program says of a class in a package. -/
def namingPieces : List (List Char) :=
  [[], "foo/Bar.java:3: error: no".toList]

/-- A compilation on one of these machines, with these options, that comes to its end is one for
which all is in order. -/
theorem isReady_namingWorkshop (fresh : String) (status : Nat) (options : CompileOptions)
    (hfresh : holdsNul fresh = false) (hclasspath : holdsNul options.classpath = false)
    (hlowest : ∀ output, options.outputDirectory = some output → output.IsLowest)
    (hruns : (workshopJavac.compileOn (namingWorkshop fresh status) workshopUnit
      options).1.invocation.isSome = true) :
    IsReady workshopJavac (namingWorkshop fresh status) workshopUnit options ["foo", "Bar.java"]
      fun launch =>
        ⟨Utf8.encode (launch.directory ++ "/foo/Bar.java:3: error: no").toList, [], status⟩ := by
  have htree : (namingWorkshop fresh status).files.IsTree := isTree_workshopRunning _
  have hpath : workshopUnit.path? = some ["foo", "Bar.java"] := by decide +kernel
  obtain ⟨c⟩ := isSome_invocation_iff.mp hruns
  have haccepted := c.isAccepted htree rfl hlowest
  rw [Option.some.inj (c.path_eq.symm.trans hpath)] at haccepted
  exact ⟨htree, rfl, hfresh, hlowest, hpath, haccepted, hclasspath, Path.isLowest_ofString _,
    by decide, ⟨[], rfl⟩, rfl, by decide⟩

/-- A compilation that keeps nothing and succeeds and one that keeps its class files and fails, in
work directories of different names, come to the same. -/
theorem compileOn_of_isReady_namingWorkshop :
    (workshopJavac.compileOn (namingWorkshop "/tmp/javalint-k3v" 0) workshopUnit
        (.ofClasspath "")).1.result =
      (workshopJavac.compileOn (namingWorkshop "/tmp/javalint-zq8w" 1) workshopUnit
        (keepingIn "/build/classes")).1.result ∧
      (workshopJavac.compileOn (namingWorkshop "/tmp/javalint-k3v" 0) workshopUnit
        (.ofClasspath "")).1.invocation.isSome = true := by
  have hwait : waitError? workshopJavac.timeout = none := by decide +kernel
  have hfirst := isReady_namingWorkshop "/tmp/javalint-k3v" 0 (.ofClasspath "") (by decide)
    (by decide) nofun (by decide +kernel)
  have hsecond := isReady_namingWorkshop "/tmp/javalint-zq8w" 1 (keepingIn "/build/classes")
    (by decide) (by decide)
    (fun output houtput => Option.some.inj houtput ▸ Path.isLowest_ofString _) (by decide +kernel)
  obtain ⟨-, hinvocation, -, hsame⟩ := compileOn_of_isReady _ _ _ _ _ _ hfirst (by decide) hwait
  refine ⟨hsame _ _ _ _ namingPieces hsecond (by decide) hwait ?_ ?_, ?_⟩
  · exact ⟨by decide +kernel, by decide +kernel⟩
  · exact ⟨by decide +kernel, by decide +kernel⟩
  · rw [hinvocation]
    rfl

/-- A program that ran was given a class path that is short enough for an argument. -/
theorem Completion.classpath_le (c : Completion javac m unit options) :
    options.classpath.utf8ByteSize ≤ Machine.maxArgumentBytes := by
  have hprogram := c.program_eq
  unfold Machine.program at hprogram
  split_ifs at hprogram with hlong
  rw [Bool.not_eq_true, List.any_eq_false] at hlong
  have hmem : options.classpath ∈ javac.path.toString ::
      arguments options c.output (sourcePath m c.parts) := by
    simp [arguments, CompileOptions.arguments]
  simpa using hlong _ hmem

/-- Two compilations for which all is in order, of which none runs: one whose class path is too long
for an argument, and one whose time limit is infinite. -/
theorem not_forall_isReady_runs :
    (¬ ∀ (javac : Javac) (m : Machine) (unit : SourceUnit) (options : CompileOptions)
      (parts : List String) (program : Launch → Run),
      IsReady javac m unit options parts program → waitError? javac.timeout = none →
        (javac.compileOn m unit options).1.invocation.isSome = true) ∧
    ¬ ∀ (javac : Javac) (m : Machine) (unit : SourceUnit) (options : CompileOptions)
      (parts : List String) (program : Launch → Run),
      IsReady javac m unit options parts program →
        options.classpath.utf8ByteSize ≤ Machine.maxArgumentBytes →
        (javac.compileOn m unit options).1.invocation.isSome = true := by
  have hready := isReady_namingWorkshop "/tmp/javalint-k3v" 0 (.ofClasspath "") (by decide)
    (by decide) nofun (by decide +kernel)
  constructor
  · intro h
    have hlong := hready.withClasspath (holdsNul_letters 131072)
    obtain ⟨c⟩ := isSome_invocation_iff.mp (h _ _ _ _ _ _ hlong (by decide +kernel))
    have hsize := c.classpath_le
    rw [CompileOptions.ofClasspath, utf8ByteSize_letters] at hsize
    exact absurd hsize (by decide)
  · intro h
    have hendless : IsReady ⟨workshopJavac.path, .infinite false⟩
        (namingWorkshop "/tmp/javalint-k3v" 0) workshopUnit (.ofClasspath "")
        ["foo", "Bar.java"] _ :=
      { hready with inTime := by decide }
    obtain ⟨c⟩ := isSome_invocation_iff.mp (h _ _ _ _ _ _ hendless (by decide))
    cases c.waitError?_eq

end Javac

end LintDaemon
