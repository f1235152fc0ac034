import LintDaemon.Client
import LintDaemon.CommandLine.DaemonArguments
import LintDaemon.Daemon.Startup
import LintDaemon.Display.DiagnosticsTable
import LintDaemon.Display.Screen
import LintDaemon.Display.SettingsTable
import LintDaemon.Settings.Source
import LintDaemon.Text.Escape

/-!
# Running commands

* `Surroundings`: what a command finds around it.
* `Outcome`: its status, what it writes, and what it sends.
* `runCommandLine`, `runDaemonProgram`: what comes of the arguments of the two programs.

These are the commands of section 6 of the specification and how they write (section 8.3). An error
for which nothing is planned ends a program with a status of one and a traceback; it is told by its
cause here (`CommandError`).

Scope: the standard output and the standard error take all that is written to them.
-/

namespace LintDaemon

open LintDaemon.Text LintDaemon.Display LintDaemon.Terminal

/-- What a command finds around it. -/
structure Surroundings where
  /-- The machine. -/
  machine : Machine
  /-- Who answers when a connection is opened. -/
  peer : Peer
  /-- What comes of creating a listening socket. -/
  binding : Binding
  /-- What a listening socket meets. -/
  arrivals : List Arrival

/-- What is written to an output. -/
inductive Printed
  /-- A text. -/
  | text (s : String)
  /-- How the program is used. -/
  | usage
  deriving DecidableEq, Repr

/-- Why a command came to an end that is not planned. -/
inductive CommandError
  /-- The settings cannot be loaded. -/
  | settings (error : LoadError)
  /-- The daemon could not be run. -/
  | daemon (error : StartupError)
  /-- The reply of the daemon could not be read. -/
  | reply (error : ClientError)
  /-- The file to be linted is no text. -/
  | source (error : Utf8.DecodeError)
  /-- The reply of the daemon could not be shown. -/
  | listing (error : ListingError)
  /-- The size of the screen is no number. -/
  | screen (error : Numeral.IntError)

/-- The wording of an end that is not planned. -/
def CommandError.message : CommandError → String
  | .settings error => error.message
  | .daemon error => error.message
  | .reply error => error.message
  | .source error => error.message
  | .listing error => error.message
  | .screen error => error.message

/-- What a command comes to. -/
structure Outcome where
  /-- How it ended. -/
  status : Except CommandError ProgramEnd
  /-- What it wrote to the standard output. -/
  stdout : Printed
  /-- What it wrote to the standard error. -/
  stderr : Printed
  /-- What it sent over each of its connections. -/
  sent : List (List UInt8)
  /-- The peer after it. -/
  peer : Peer
  /-- The events on the side of the daemon that it talked to. -/
  events : List Event
  /-- The run of the daemon, if it started one. -/
  daemon : Option DaemonRun

namespace Outcome

/-- A command that ends with a status and has written what it has to say. -/
def ended (s : Surroundings) (status : Nat) (stdout stderr : String) : Outcome :=
  ⟨.ok (.exited status), .text stdout, .text stderr, [], s.peer, [], none⟩

/-- A command that meets an error for which nothing is planned, having written something. -/
def failed (s : Surroundings) (e : CommandError) (stdout : String) : Outcome :=
  ⟨.error e, .text stdout, .text "", [], s.peer, [], none⟩

/-- An outcome behind a step of a client. -/
def after (step : ClientStep α) (o : Outcome) : Outcome :=
  { o with
    sent := step.sent.toList ++ o.sent
    peer := step.peer
    events := step.events ++ o.events }

/-- What comes of arguments that give nothing to do. -/
def ofUnusable (s : Surroundings) : Parsed α → Outcome
  | .help => { ended s 0 "" "" with stdout := .usage }
  | .noArguments => { ended s 2 "" "" with stdout := .usage }
  | .misuse | .command _ => { ended s 2 "" "" with stderr := .usage }

/-- What comes of a run of the daemon. -/
def ofDaemon (s : Surroundings) (run : DaemonRun) : Outcome :=
  ⟨run.status.mapError .daemon, .text run.stdout, .text run.stderr, [], s.peer, [], some run⟩

/-- Whether an error is that the reader of a connection has gone. -/
def isBrokenPipe : CommandError → Bool
  | .daemon (.accept fault) => fault.number == SystemFault.brokenPipe.number
  | _ => false

/-- An outcome whose status is zero where it just returned, and one where the reader of a connection
has gone. -/
def withStatus (o : Outcome) : Outcome :=
  let status :=
    match o.status with
    | .ok .returned => .ok (.exited 0)
    | .ok finish => .ok finish
    | .error e => if isBrokenPipe e then .ok (.exited 1) else .error e
  { o with status }

end Outcome

/-- A line that is said outside of the screen; it does not tell a terminal anything. -/
def spokenLine (text : String) : String :=
  withoutEscapes text ++ "\n"

/-- The status of a command that could do nothing. -/
def failureStatus : Nat := 2

/-- The status of a command that met what it was to find: an error in a source, or no daemon. -/
def findingStatus : Nat := 1

namespace Surroundings

/-- What is done with the settings, whose port may be given with the command. Values that cannot be
settings are reported; a file that is not written as one is an error for which nothing is
planned. -/
def withSettings (s : Surroundings) (port : Option Int) (use : Settings → Outcome) : Outcome :=
  match s.machine.loadSettings with
  | .ok settings => use { settings with port := port.getD settings.port }
  | .error e =>
    if e.isValueError then
      .ended s failureStatus "" (spokenLine ("Error loading configuration: " ++ e.message))
    else .failed s (.settings e) ""

/-- The client of the daemon that settings name. -/
def clientOf (settings : Settings) : Client := ⟨settings.host, settings.port⟩

/-- The line that says that the daemon cannot be talked to. -/
def unreachable (settings : Settings) (e : ClientError) : String :=
  spokenLine ("Could not reach daemon on port " ++ toString settings.port ++ ": " ++ e.message)

/-- The daemon run in the foreground. -/
def serve (s : Surroundings) (port : Option Int) : Outcome :=
  s.withSettings port fun settings =>
    (Outcome.ofDaemon s (Startup.run s.machine settings s.binding s.arrivals)).withStatus

/-- The status of a lint that was answered, after what was written of the answer. -/
def lintStatus (s : Surroundings) (reply : Json.Value) (stdout : String) : Outcome :=
  match reportsError reply with
  | .ok found => .ended s (if found then findingStatus else 0) stdout ""
  | .error e => .failed s (.listing e) stdout

/-- What comes of the answer to a lint. -/
def showAnswer (s : Surroundings) (settings : Settings) (name : String) (asJson : Bool) :
    Except ClientError Json.Value → Outcome
  | .error (.reported message) =>
    let text := message.asMessage
    .ended s failureStatus ""
      (spokenLine (if asJson then Reply.errorLine text else "Error: " ++ text))
  | .error e =>
    if e.isOfConnection then .ended s failureStatus "" (unreachable settings e)
    else .failed s (.reply e) ""
  | .ok reply =>
    if asJson then s.lintStatus reply (spokenLine (Json.render reply))
    else
      match s.machine.screen with
      | .error e => .failed s (.screen e) ""
      | .ok screen =>
        match showReply screen name reply with
        | .ok text => s.lintStatus reply text
        | .error e => .failed s (.listing e) ""

/-- The bytes of a file, or why it cannot be opened. -/
def readFile (s : Surroundings) (path : String) : Except SystemFault (List UInt8) :=
  match s.machine.files.find? s.machine.directory path with
  | some node => node.read.mapError (·.about path)
  | none => .error (SystemFault.noEntry.about path)

/-- A file linted. It is read before a connection is opened; a fault of opening it is reported as
one of the connection. -/
def lint (s : Surroundings) (name file : String) (port : Option Int) (asJson : Bool) : Outcome :=
  s.withSettings port fun settings =>
    match s.readFile file with
    | .error fault =>
      .ended s failureStatus "" (unreachable settings (.connect (.system fault)))
    | .ok bytes =>
      match Utf8.decode bytes with
      | .error e => .failed s (.source e) ""
      | .ok source =>
        let step := (clientOf settings).lint s.peer name (String.ofList (normalizeNewlines source))
        (s.showAnswer settings name asJson step.result).after step

/-- A setting of the daemon changed by a step of a client. -/
def change (s : Surroundings) (port : Option Int) (step : Client → ClientStep Unit) : Outcome :=
  s.withSettings port fun settings =>
    let step := step (clientOf settings)
    let outcome : Outcome :=
      match step.result with
      | .ok () => .ended s 0 "" ""
      | .error e =>
        if e.isOfConnection then .ended s failureStatus "" (unreachable settings e)
        else .failed s (.reply e) ""
    outcome.after step

/-- The daemon asked to end. -/
def kill (s : Surroundings) (port : Option Int) : Outcome :=
  s.withSettings port fun settings =>
    let step := (clientOf settings).kill s.peer
    let outcome : Outcome :=
      match step.result with
      | .ok true => .ended s 0 "" ""
      | .ok false =>
        .ended s findingStatus ""
          (spokenLine ("No daemon running on port " ++ toString settings.port))
      | .error e => .failed s (.reply e) ""
    outcome.after step

/-- Texts shown one below the other, and a status. What was shown before a text that cannot be
shown stays. -/
def showAll (s : Surroundings) (status : Nat) (shown : String) :
    List (Except Markup.Error String) → Outcome
  | [] => .ended s status shown ""
  | .ok text :: rest => s.showAll status (shown ++ text) rest
  | .error e :: _ => .failed s (.listing (.markup e)) shown

/-- What is said below the settings about the file they may come from. -/
def settingsNote (m : Machine) : String :=
  let path := m.settingsFile.toString
  if (m.files.find? m.directory path).isSome then "\n[dim]Config file: " ++ path ++ "[/dim]"
  else "\n[dim]No config file at " ++ path ++ "; showing defaults[/dim]"

/-- The settings shown as a table. -/
def showSettings (s : Surroundings) (screen : Screen) : Outcome :=
  match s.machine.loadSettings with
  | .ok settings =>
    s.showAll 0 "" [screen.showTable (settingsTable settings),
      screen.showMarkup (settingsNote s.machine).toList]
  | .error e =>
    if e.isValueError then
      s.showAll failureStatus ""
        [screen.showMarkup ("[red]Invalid configuration: " ++ e.message ++ "[/red]").toList]
    else .failed s (.settings e) ""

/-- What is done about the settings: they are shown, or the path of their file is. -/
def settings (s : Surroundings) (action : String) : Outcome :=
  match s.machine.screen with
  | .error e => .failed s (.screen e) ""
  | .ok screen =>
    if action = "show" then s.showSettings screen
    else if action = "path" then
      s.showAll 0 "" [screen.showMarkup s.machine.settingsFile.toString.toList]
    else
      s.showAll findingStatus ""
        [screen.showMarkup ("[red]Unknown action: " ++ action ++ "[/red]").toList,
          screen.showMarkup "Available actions: show, path".toList]

/-- A command carried out. -/
def run (s : Surroundings) : Command → Outcome
  | .serve port => s.serve port
  | .lint name file port asJson => s.lint name file port asJson
  | .setClasspath classpath port => s.change port fun c => c.setClasspath s.peer classpath
  | .setJdk home port => s.change port fun c => c.setJdk s.peer home
  | .kill port => s.kill port
  | .settings action => s.settings action

/-- What comes of the arguments of the program. -/
def runCommandLine (s : Surroundings) (args : List String) : Outcome :=
  match Command.parse s.machine args with
  | .command c => s.run c
  | unusable => .ofUnusable s unusable

/-- What comes of the arguments of the daemon as a program of its own. Settings that cannot be
loaded are an error for which nothing is planned. -/
def runDaemonProgram (s : Surroundings) (args : List String) : Outcome :=
  match DaemonArguments.parse args with
  | .command port =>
    match s.machine.loadSettings with
    | .error e => .failed s (.settings e) ""
    | .ok settings =>
      .ofDaemon s (Startup.run s.machine { settings with port := port.getD settings.port }
        s.binding s.arrivals)
  | unusable => .ofUnusable s unusable

end Surroundings

end LintDaemon
