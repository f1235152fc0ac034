import LintDaemon.Host.Machine
import LintDaemon.Report.Reading
import LintDaemon.Text.Utf8
import LintDaemon.Toolchain.Compiler

/-!
# Running the compiler program

A compilation writes the source into a fresh directory, runs the compiler program there, and
reads what it printed. The directory is removed however the compilation ends.

* `Javac`: a compiler program and the time that it is given.
* `Machine.program`: the program that a name or path starts.
* `waitError?`: the time spans that cannot be waited for.
* `Javac.compileOn`: a compilation and the files after it.

This is `JavacInvoker.compile` of section 4.4 of the specification. What can go wrong is met in the
order in which it is met there: the names and directories first, then what the operating system is
told to start, then the wait for it, then the report.

Scope: a program is a function of what it is started with, and whether it ends in time is told by
the machine. The class files that it writes are not modelled, nor is anything else that it does to
the files.
-/

namespace LintDaemon

open LintDaemon.Text

/-- A compiler program. -/
structure Javac where
  /-- Where the program is. -/
  path : Path
  /-- How many seconds it is given. -/
  timeout : Binary64
  deriving DecidableEq, Repr

/-! ## Starting a program -/

namespace Machine

/-- The most bytes an argument may have. -/
def maxArgumentBytes : Nat := 131071

/-- The directories in which programs are looked for where no variable names them. -/
def defaultSearchPath : String := "/bin:/usr/bin"

/-- A path inside a directory, as text; an empty directory is the one worked in. -/
def pathIn (directory name : String) : String :=
  if directory = "" then name
  else if directory.toList.getLast? = some '/' then directory ++ name
  else directory ++ "/" ++ name

/-- The paths at which a program is tried: its own if it has several parts, else those in the
directories searched for programs. -/
def candidates (m : Machine) (program : String) : List String :=
  if program.toList.contains '/' then [program]
  else
    let directories := fieldsOf ':' ((m.envValue? "PATH").getD defaultSearchPath)
    directories.map (pathIn · program)

/-- The program at a path, or why it cannot be started. -/
def programAt (m : Machine) (directory : Place) (path : String) :
    Except SystemFault (Launch → Run) :=
  match m.files.locate directory path with
  | .error e => .error e
  | .ok (_, .directory) | .ok (_, .socket _) | .ok (_, .file _ false _) =>
    .error .permissionDenied
  | .ok (_, .file _ true none) => .error .noProgram
  | .ok (_, .file _ true (some program)) => .ok program

/-- The first of the candidates that can be started. If none can, the fault is the first one that
says more than that nothing is there, or else the last. -/
def firstProgram (m : Machine) (directory : Place) :
    Option SystemFault → SystemFault → List String → Except SystemFault (Launch → Run)
  | telling, last, [] => .error (telling.getD last)
  | telling, _, path :: rest =>
    match m.programAt directory path with
    | .ok program => .ok program
    | .error e =>
      let telling := if FileSystem.isAbsence e then telling else telling.or (some e)
      m.firstProgram directory telling e rest

/-- The program that a name or path starts in a directory. -/
def program (m : Machine) (directory : Place) (name : String) (arguments : List String) :
    Except SystemFault (Launch → Run) :=
  if (name :: arguments).any (maxArgumentBytes < ·.utf8ByteSize) then .error .argumentsTooLong
  else m.firstProgram directory none .noEntry (m.candidates name)

end Machine

/-! ## Waiting for a program -/

/-- The most milliseconds that can be waited for. -/
def maxWaitMilliseconds : Nat := 2147483647

/-- The most milliseconds whose nanoseconds can be counted. -/
def maxCountableMilliseconds : Nat := 9223372036854

/-- Why a positive time span cannot be waited for. -/
def waitError? : Binary64 → Option WaitError
  | .nan => some .notANumber
  | .infinite _ => some .infinite
  | seconds =>
    match seconds.scaleBy 1000 with
    | .infinite _ => some .infinite
    | milliseconds =>
      if milliseconds.above maxCountableMilliseconds then some .uncountable
      else if milliseconds.above maxWaitMilliseconds then some .tooLarge
      else none

/-- Whether a time span is over as soon as it begins. -/
def isOver (seconds : Binary64) : Bool :=
  seconds.isZero || seconds.isNegative

/-! ## Compiling -/

namespace Javac

/-- The arguments of the compiler program. -/
def arguments (options : CompileOptions) (output source : Path) : List String :=
  ["-J-Duser.language=en", "-encoding", "UTF-8"] ++ options.arguments ++
    ["-d", output.toString, source.toString]

/-- What a program wrote to one of its outputs, as text. -/
def outputText (bytes : List UInt8) : List Char :=
  normalizeNewlines (Utf8.decodeLossy bytes)

/-- The report of a compiler: what it wrote to the standard error and then to the standard
output, with the directory of the sources taken out of every path. -/
def reportText (sources : Path) (run : Run) : List Char :=
  erase (sources.toString.toList ++ ['/']) (outputText run.stderr ++ outputText run.stdout)

/-- The diagnostics of a report, and what is logged while it is read. -/
def readReport (report : List Char) : List LogEntry × Except CompileError (List Diagnostic) :=
  let outcome := Report.readChars report
  (outcome.ignored.map fun line =>
      ⟨.debug, "Ignoring javac output: " ++ String.ofList line⟩,
    outcome.result.mapError fun e => .lineNumber e.digits)

/-- The run of the compiler program on sources that have been written. A command that cannot be told
to the operating system is refused before anything is started; a time limit that cannot be waited
for is noticed when the program has been started; and only then the program may take too long. -/
def runOn (javac : Javac) (m : Machine) (unit : SourceUnit) (options : CompileOptions)
    (sources source output : Path) : Compilation :=
  let name := javac.path.toString
  let arguments := arguments options output source
  let running : LogEntry := ⟨.debug, "Running: " ++ " ".intercalate (name :: arguments)⟩
  let failed (e : CompileError) : Compilation := ⟨[running], none, .error e⟩
  if (name :: arguments).any FileSystem.holdsNul then failed .embeddedNul
  else
    match m.files.locate m.directory sources.toString with
    | .error e => failed (.notStarted name (e.about sources.toString))
    | .ok (place, _) =>
      match m.program place name arguments with
      | .error e => failed (.notStarted name (e.about name))
      | .ok program =>
        if isOver javac.timeout then failed (.timedOut javac.timeout unit.name)
        else
          match waitError? javac.timeout with
          | some e => failed (.wait e)
          | none =>
            if m.neverEnds then failed (.timedOut javac.timeout unit.name)
            else
              let body := Utf8.encode unit.body.toList
              let run := program ⟨sources.toString, arguments, body⟩
              let (ignored, result) := readReport (reportText sources run)
              ⟨running :: ignored, some ⟨arguments, body⟩, result⟩

/-- Where the compiler is to put the class files. -/
def outputPath (options : CompileOptions) (work : Path) : Path :=
  if options.retain then options.outputDirectory.getD work else work.child "classes"

/-- A compilation that came to an end before anything was run. -/
def unstarted (e : CompileError) : Compilation :=
  ⟨[], none, .error e⟩

/-- The wording for a unit whose file would not be among the sources. -/
def escapeMessage (name : String) : String :=
  "Source unit " ++ quote name ++ " escapes the work directory"

/-- A compilation in a work directory that has been made. -/
def compileIn (javac : Javac) (m : Machine) (unit : SourceUnit) (options : CompileOptions)
    (work : Path) : Compilation × FileSystem :=
  match unit.path? with
  | none => (unstarted (.invalidName unit.name), m.files)
  | some parts =>
    let sources := work.child "src"
    let source := sources.join parts
    if !FileSystem.isInside (FileSystem.leadsTo m.directory sources.toString)
        (FileSystem.leadsTo m.directory source.toString) then
      (unstarted (.stated .value (escapeMessage unit.name)), m.files)
    else
      match m.files.makeDirectories m.directory source.parent with
      | (files, .error e) => (unstarted (.files e), files)
      | (files, .ok ()) =>
        match files.write m.directory source.toString (Utf8.encode unit.body.toList) with
        | .error e => (unstarted (.files e), files)
        | .ok files =>
          let output := outputPath options work
          if FileSystem.holdsNul output.toString then (unstarted .embeddedNul, files)
          else
            match files.makeDirectories m.directory output with
            | (files, .error e) => (unstarted (.files e), files)
            | (files, .ok ()) =>
              let compilation :=
                javac.runOn { m with files := files } unit options sources source output
              (compilation, files)

/-- A compilation and the files after it: the work directory has gone again. -/
def compileOn (javac : Javac) (m : Machine) (unit : SourceUnit) (options : CompileOptions) :
    Compilation × FileSystem :=
  if options.retain ∧ options.outputDirectory.isNone then
    (unstarted .missingOutputDirectory, m.files)
  else
    let work := Path.ofString m.freshDirectory
    match m.files.placeOf m.directory m.freshDirectory,
        m.files.makeDirectory m.directory m.freshDirectory with
    | .ok place, .ok files =>
      let (compilation, files) := javac.compileIn { m with files := files } unit options work
      (compilation, files.removeTree place)
    | _, .error e => (unstarted (.files e), m.files)
    | .error e, _ => (unstarted (.files e), m.files)

/-- The program as a compiler, on a machine whose files stay as they are. -/
def toCompiler (javac : Javac) (m : Machine) (home : Option String) : Compiler where
  label := "JavacInvoker(" ++ quote javac.path.toString ++ ")"
  home := home
  compile unit options := (javac.compileOn m unit options).1

end Javac

end LintDaemon
