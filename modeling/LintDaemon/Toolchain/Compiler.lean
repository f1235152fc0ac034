import LintDaemon.Diagnostic
import LintDaemon.Host.Fault
import LintDaemon.Host.Path
import LintDaemon.Log
import LintDaemon.Number.Numeral
import LintDaemon.SourceUnit

/-!
# Compilers

What the daemon needs of a compiler, however it is made.

* `Compiler`: compiles one source unit.
* `CompileError`: why a compilation gave no diagnostics.
* `Toolchain`: finds the compiler of an installation.
* `LocateError`: why there is none.

This is the boundary of the compilation invoker (section 4.4 of the specification): `compile` and
its options, and what looking for a compiler can come to. A compiler is a function here: what it
does besides answering, and whether it answers in time, is told where there is a machine to do it on
(`Javac.compileOn`).
-/

namespace LintDaemon

/-- What a compilation is asked to do. -/
structure CompileOptions where
  /-- The class path, handed on as it is. -/
  classpath : String
  /-- Whether the class files are kept. -/
  retain : Bool
  /-- Where they are kept. -/
  outputDirectory : Option Path
  deriving DecidableEq, Repr

/-- Options with a class path that keep nothing. -/
def CompileOptions.ofClasspath (classpath : String) : CompileOptions :=
  ⟨classpath, false, none⟩

/-- The arguments that say the options to the compiler. -/
def CompileOptions.arguments (o : CompileOptions) : List String :=
  ["-cp", o.classpath]

/-- Kinds of failure that a compiler may report in words of its own. -/
inductive FailureKind
  /-- The compiler could not be run to its end. -/
  | compilation
  /-- A value was not acceptable. -/
  | value
  /-- Something went wrong while running. -/
  | runtime
  /-- The operating system reported a fault. -/
  | system
  deriving DecidableEq, Repr

/-- Why a time span cannot be waited for. -/
inductive WaitError
  /-- It is no number. -/
  | notANumber
  /-- It is infinite. -/
  | infinite
  /-- It has more milliseconds than can be waited for. -/
  | tooLarge
  /-- It has more nanoseconds than can be counted. -/
  | uncountable
  deriving DecidableEq, Repr

/-- Why a compilation gave no diagnostics. -/
inductive CompileError
  /-- Class files are to be kept, but nowhere. -/
  | missingOutputDirectory
  /-- The unit has a name that is not valid. -/
  | invalidName (name : String)
  /-- The compiler did not end in time. -/
  | timedOut (seconds : Binary64) (name : String)
  /-- The compiler could not be started. -/
  | notStarted (compiler : String) (fault : SystemFault)
  /-- The files of the compilation could not be made. -/
  | files (fault : SystemFault)
  /-- An argument or a path holds the character that none may hold. -/
  | embeddedNul
  /-- The time for the compilation cannot be waited for. -/
  | wait (error : WaitError)
  /-- A line number in the report has too many digits. -/
  | lineNumber (digits : Nat)
  /-- A failure in the compiler's own words. -/
  | stated (kind : FailureKind) (text : String)
  deriving DecidableEq, Repr

/-- The wording of a time span that cannot be waited for. -/
def WaitError.message : WaitError → String
  | .notANumber => "cannot convert float NaN to integer"
  | .infinite => "cannot convert float infinity to integer"
  | .tooLarge => "timeout is too large"
  | .uncountable => "timestamp too large to convert to C _PyTime_t"

/-- The wording for a character that no argument and no path may hold. -/
def embeddedNulMessage : String := "embedded null byte"

/-- The wording of a failed compilation. -/
def CompileError.message : CompileError → String
  | .missingOutputDirectory => "output_dir is required when retaining artifacts"
  | .invalidName name => invalidUnitNameMessage name
  | .timedOut seconds name =>
    "javac timed out after " ++ seconds.toRoundedText ++ "s compiling " ++ name
  | .notStarted compiler fault => "Failed to run " ++ compiler ++ ": " ++ fault.message
  | .files fault => fault.message
  | .embeddedNul => embeddedNulMessage
  | .wait error => error.message
  | .lineNumber digits => (Numeral.IntError.tooLong digits).message
  | .stated _ text => text

/-- A run of a compiler program. -/
structure Invocation where
  /-- Its arguments, its own name not among them. -/
  arguments : List String
  /-- The source that it was given. -/
  source : List UInt8
  deriving DecidableEq, Repr

/-- What compiling a unit has come to. -/
structure Compilation where
  /-- What was logged. -/
  log : List LogEntry
  /-- The run of the compiler program, if there was one that ended. -/
  invocation : Option Invocation
  /-- The diagnostics in the order of the report. -/
  result : Except CompileError (List Diagnostic)

/-- A compiler. -/
structure Compiler where
  /-- How messages name it. -/
  label : String
  /-- The installation for which it was found. -/
  home : Option String
  /-- What compiling a unit comes to. -/
  compile : SourceUnit → CompileOptions → Compilation

/-- Why an installation has no usable compiler. -/
inductive LocateError
  /-- The named installation has none. -/
  | noneAt (home : String)
  /-- No installation was named, and none was found. -/
  | noneFound
  /-- There is none, for a reason in words. -/
  | stated (text : String)
  /-- The path begins at a home directory that is not known. -/
  | unknownHome
  /-- The path holds the character that none may hold. -/
  | embeddedNul
  /-- The operating system reported a fault. -/
  | system (fault : SystemFault)
  deriving DecidableEq, Repr

/-- Whether an error says that there is no compiler, rather than that looking for it failed. -/
def LocateError.isUnavailable : LocateError → Bool
  | .noneAt _ | .noneFound | .stated _ => true
  | .unknownHome | .embeddedNul | .system _ => false

/-- The wording for an installation without a compiler. -/
def LocateError.message : LocateError → String
  | .noneAt home => "No javac found in JDK at " ++ home
  | .noneFound => "No javac found on JAVA_HOME or PATH"
  | .stated text => text
  | .unknownHome => "Could not determine home directory."
  | .embeddedNul => embeddedNulMessage
  | .system fault => fault.message

/-- Finds the compiler of the named installation, or of the default one. -/
abbrev Toolchain := Option String → Except LocateError Compiler

end LintDaemon
