import LintDaemon.Toolchain.Javac

/-!
# Finding the compiler program

* `Machine.locateJavac`: the compiler program of a named installation, or the default one.

A named installation is authoritative: it is not replaced by another one. Without a name the
installation that a variable names comes first, and then the directories searched for programs.

This is `resolve_javac` of section 4.4 of the specification. Of an installation a file is asked for
that may be run; in a directory that is searched anything but a directory will do. A question about
a path that cannot be asked is a failure for an installation and a no for a searched directory.
-/

namespace LintDaemon

open LintDaemon.Text

namespace Machine

/-- The name of the compiler program. -/
def programName : String := "javac"

/-- The compiler program of an installation. -/
def programOf (home : Path) : Path :=
  home.join ["bin", programName]

/-- Whether a path is a file that may be run. -/
def isExecutable (m : Machine) (p : Path) : Except SystemFault Bool :=
  m.files.isExecutable m.directory p.toString

/-- A list without its repetitions; each item stays at its first place. -/
def distinct : List String → List String
  | [] => []
  | s :: rest => s :: (distinct rest).filter (· != s)

/-- The directories searched for programs; none if the variable for them is empty. -/
def searchDirectories (m : Machine) : List String :=
  let path := (m.envValue? "PATH").getD defaultSearchPath
  if path = "" then [] else distinct (fieldsOf ':' path)

/-- Whether a path in a searched directory is something that may be run and no directory, a file or
not. Faults count as no. -/
def isCandidate (m : Machine) (path : String) : Bool :=
  match m.files.find? m.directory path with
  | some node => node.mayRun && !node.isDirectory
  | none => false

/-- The compiler program in the first of the searched directories that has one. -/
def searchJavac? (m : Machine) : Option Path :=
  ((m.searchDirectories.map (pathIn · programName)).find? m.isCandidate).map Path.ofString

/-- The compiler program of the default installation. -/
def defaultJavac (m : Machine) : Except LocateError Path := do
  let home := Path.ofString ((m.envValue? "JAVA_HOME").getD "")
  let named :=
    if (m.envValue? "JAVA_HOME").getD "" = "" then .ok false
    else m.isExecutable (programOf home)
  match named with
  | .error e => .error (.system e)
  | .ok true => .ok (programOf home)
  | .ok false =>
    match m.searchJavac? with
    | some path => .ok path
    | none => .error .noneFound

/-- The compiler program of a named installation. -/
def namedJavac (m : Machine) (home : String) : Except LocateError Path :=
  match m.expandHome (Path.ofString home) with
  | .error .unknown => .error .unknownHome
  | .error .embeddedNul => .error .embeddedNul
  | .ok path =>
    match m.isExecutable (programOf path) with
    | .error e => .error (.system e)
    | .ok true => .ok (programOf path)
    | .ok false => .error (.noneAt home)

/-- The compiler program of an installation; no name and the empty one stand for the default. -/
def locateJavac (m : Machine) (timeout : Binary64) (home : Option String) :
    Except LocateError Javac :=
  match home with
  | none | some "" => (m.defaultJavac).map (⟨·, timeout⟩)
  | some home => (m.namedJavac home).map (⟨·, timeout⟩)

/-- The compilers of a machine whose files and variables stay as they are. -/
def toolchain (m : Machine) (timeout : Binary64) : Toolchain := fun home =>
  (m.locateJavac timeout home).map fun javac => javac.toCompiler m home

end Machine

end LintDaemon
