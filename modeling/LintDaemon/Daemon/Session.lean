import LintDaemon.Protocol.Reply
import LintDaemon.Protocol.Request
import LintDaemon.Toolchain.Compiler

/-!
# The session

What outlives a connection: the class path, the installation of the compiler, the compiler that
was found for it, and how many sources were linted.

* `Session.start`: a session with its first settings.
* `Session.setClasspath`, `Session.setJdk`, `Session.lint`: what requests change.
* `Session.dispatch`: what comes of a request.

This is the session configuration (section 3 of the specification) with the compiler in use, and the
command dispatcher on it (section 4.3), whose `dispatch` is `Session.dispatch`.

Each step gives its result, the session after it, and the events on the way. A failed step may
leave the session changed: the installation is recorded before its compiler is looked for.

Scope: requests are carried out one after the other, so that there is no lock (section 5). A failure
of a step is told by what is logged of it; the traceback that is logged with it is left out.
-/

namespace LintDaemon

open LintDaemon.Text

/-- The call of a compiler. -/
structure Call where
  /-- The installation for which the compiler was found. -/
  home : Option String
  /-- What was compiled. -/
  unit : SourceUnit
  /-- How it was to be compiled. -/
  options : CompileOptions
  deriving DecidableEq, Repr

/-- Something that happens while a request is served. -/
inductive Event
  /-- A message is logged. -/
  | logged (entry : LogEntry)
  /-- A compiler is called; its program runs, or it does not get so far. -/
  | compiled (call : Call) (invocation : Option Invocation)
  deriving DecidableEq, Repr

/-- The logged messages among events. -/
def Event.entries (events : List Event) : List LogEntry :=
  events.filterMap fun
    | .logged entry => some entry
    | .compiled _ _ => none

/-- The calls of compilers among events. -/
def Event.calls (events : List Event) : List Call :=
  events.filterMap fun
    | .logged _ => none
    | .compiled call _ => some call

/-- The runs of compiler programs among events. -/
def Event.invocations (events : List Event) : List Invocation :=
  events.filterMap fun
    | .logged _ => none
    | .compiled _ invocation => invocation

/-- A logged message. -/
def Event.log (level : LogLevel) (message : String) : Event :=
  .logged ⟨level, message⟩

/-- Why serving a request failed. -/
inductive Failure
  /-- The source could not be compiled. -/
  | compile (error : CompileError)
  /-- The compiler could not be looked for. -/
  | locate (error : LocateError)
  /-- The request is of a type that the daemon does not handle. -/
  | notARequest (typeName : String)
  deriving DecidableEq, Repr

/-- The wording of a failure. -/
def Failure.message : Failure → String
  | .compile error => error.message
  | .locate error => error.message
  | .notARequest typeName => "Unhandled command type: " ++ typeName

/-- The settings with which a session begins. -/
structure SessionSettings where
  /-- The class path. -/
  classpath : String
  /-- The installation of the compiler. -/
  jdkHome : Option String
  deriving DecidableEq, Repr

/-- What outlives a connection. -/
structure Session where
  /-- The class path. -/
  classpath : String
  /-- The installation of the compiler. -/
  jdkHome : Option String
  /-- The compiler in use, if there is one. -/
  compiler : Option Compiler
  /-- How many sources were to be linted. -/
  lintCount : Nat

/-- What a step of a session comes to. -/
structure Step (α : Type) where
  /-- Its result. -/
  result : Except Failure α
  /-- The session after it. -/
  session : Session
  /-- The events on the way. -/
  events : List Event

namespace Session

/-- The message that there is no compiler. -/
def noCompilerMessage : String :=
  "No Java compiler found! Please specify JDK location"

/-- The diagnostics where there is no compiler. -/
def noCompilerDiagnostics : List Diagnostic :=
  [⟨noCompilerMessage, none, none, .error⟩]

/-- The compiler looked for anew. Whether one was found; without one the session goes on, but a
failed search is a failure of the step and leaves the compiler as it was. -/
def findCompiler (s : Session) (toolchain : Toolchain) : Step Bool :=
  match toolchain s.jdkHome with
  | .ok compiler =>
    ⟨.ok true, { s with compiler := some compiler },
      [.log .info ("Using compiler " ++ compiler.label)]⟩
  | .error e =>
    if e.isUnavailable then
      ⟨.ok false, { s with compiler := none },
        [.log .warning (noCompilerMessage ++ " (" ++ e.message ++ ")")]⟩
    else ⟨.error (.locate e), s, []⟩

/-- A session with its first settings, and its compiler looked for. -/
def start (toolchain : Toolchain) (settings : SessionSettings) : Step Bool :=
  findCompiler ⟨settings.classpath, settings.jdkHome, none, 0⟩ toolchain

/-- A new class path, whatever it is. -/
def setClasspath (s : Session) (classpath : String) : Step Unit :=
  ⟨.ok (), { s with classpath := classpath },
    [.log .info ("Classpath set to " ++ quote classpath)]⟩

/-- A new installation, whose compiler is looked for. Whether one was found. -/
def setJdk (s : Session) (toolchain : Toolchain) (home : String) : Step Bool :=
  let step := findCompiler { s with jdkHome := some home } toolchain
  match step.result with
  | .ok false => { step with events := step.events ++ [.log .warning ("Wrong JDK path: " ++ home)] }
  | _ => step

/-- The options with which the next source is compiled. -/
def compileOptions (s : Session) : CompileOptions :=
  .ofClasspath s.classpath

/-- The diagnostics of a source by the compiler in use. -/
def compile (s : Session) (unit : SourceUnit) :
    Except CompileError (List Diagnostic) × List Event :=
  match s.compiler with
  | none => (.ok noCompilerDiagnostics, [])
  | some compiler =>
    let compilation := compiler.compile unit s.compileOptions
    (compilation.result,
      .compiled ⟨compiler.home, unit, s.compileOptions⟩ compilation.invocation ::
        compilation.log.map .logged)

/-- The reply that reports diagnostics. A place that cannot be written is a value that is not
acceptable. -/
def report (diagnostics : List Diagnostic) : Except Failure Reply :=
  if Reply.isWritable diagnostics then .ok (.ofLine (Reply.diagnosticsLine diagnostics))
  else .error (.compile (.stated .value Reply.unwritableMessage))

/-- A source linted. It counts even if it cannot be compiled. -/
def lint (s : Session) (unit : SourceUnit) : Step Reply :=
  let (result, events) := s.compile unit
  let s := { s with lintCount := s.lintCount + 1 }
  match result with
  | .error e => ⟨.error (.compile e), s, events⟩
  | .ok diagnostics =>
    ⟨report diagnostics, s,
      events ++ [.log .info
        ("Linted " ++ unit.name ++ ": " ++ toString diagnostics.length ++ " diagnostic(s)")]⟩

/-- A setting changed. -/
def set (s : Session) (toolchain : Toolchain) (property value : String) : Step Reply :=
  if property = Request.classpathProperty then
    let step := s.setClasspath value
    { step with result := step.result.map fun _ => .silent }
  else if property = Request.jdkProperty then
    let step := s.setJdk toolchain value
    { step with result := step.result.map fun _ => .silent }
  else
    ⟨.ok (.ofLine (Reply.errorLine ("Unknown property: " ++ property))), s,
      [.log .warning ("Unknown property: " ++ quote property)]⟩

/-- What comes of a request: `dispatch` of section 4.3 of the specification. A request that breaks
off or makes no sense is answered with an error; only a request for diagnostics, and one for another
installation, can fail. -/
def dispatch (s : Session) (toolchain : Toolchain) : Request → Step Reply
  | .lint name body => s.lint ⟨name, body⟩
  | .set property value => s.set toolchain property value
  | .kill => ⟨.ok .terminating, s, [.log .info "Shutdown requested via socket"]⟩
  | .unknown header =>
    let method := Request.methodName header
    ⟨.ok (.ofLine (Reply.errorLine ("Unknown command: " ++ method))), s,
      [.log .warning ("Unknown command: " ++ quote method)]⟩
  | .malformed header fault =>
    ⟨.ok (.ofLine (Reply.errorLine fault.message)), s,
      [.log .warning ("Malformed request " ++ quote header ++ ": " ++ fault.message)]⟩

/-- What comes of an object that may be no request at all, but one of another type. -/
def dispatchObject (s : Session) (toolchain : Toolchain) : Except String Request → Step Reply
  | .ok request => s.dispatch toolchain request
  | .error typeName => ⟨.error (.notARequest typeName), s, []⟩

end Session

end LintDaemon
