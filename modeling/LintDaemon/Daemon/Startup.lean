import LintDaemon.Daemon.Server
import LintDaemon.Settings.Basic
import LintDaemon.Toolchain.Location

/-!
# Starting the daemon

* `Startup.run`: the daemon from its settings to its end.

A marker on the standard output tells the program that started the daemon whether it listens; a
daemon that cannot listen says why on the standard error and ends with a status of its own (section
6 of the specification).

Scope: the files and variables of the machine stay as they are while the daemon runs, and so does
what the compiler programs do.
-/

namespace LintDaemon

/-- Why the daemon came to an end that is not planned. -/
inductive StartupError
  /-- The settings name no level of the log. -/
  | unknownLevel (name : String)
  /-- The compiler could not be looked for. -/
  | compiler (failure : Failure)
  /-- The port is none. -/
  | bind (error : BindError)
  /-- Accepting a connection failed. -/
  | accept (fault : SystemFault)
  deriving DecidableEq, Repr

/-- The wording of an end that is not planned. -/
def StartupError.message : StartupError → String
  | .unknownLevel name => "Unknown level: " ++ Text.quote name
  | .compiler failure => failure.message
  | .bind error => error.message
  | .accept fault => fault.message

/-- How a program comes to its end, if it does. -/
inductive ProgramEnd
  /-- It just returns. -/
  | returned
  /-- It exits with a status. -/
  | exited (status : Nat)
  /-- It does not end. -/
  | endless
  deriving DecidableEq, Repr

/-- What a run of the daemon comes to. -/
structure DaemonRun where
  /-- How it ends: it just returns if it was stopped. -/
  status : Except StartupError ProgramEnd
  /-- What it wrote to the standard output. -/
  stdout : String
  /-- What it wrote to the standard error. -/
  stderr : String
  /-- The address at which it tried to listen. -/
  asked : Option (String × Int)
  /-- The events that the log level lets through. -/
  events : List Event
  /-- What each client received. -/
  received : List (Option String)

namespace Startup

/-- The status of a daemon whose port is in use. -/
def portUsedStatus : Nat := 1

/-- The status of a daemon that could not start. -/
def failedStatus : Nat := 2

/-- The marker that the daemon listens. -/
def runningMarker : String := "RUNNING\n"

/-- The marker that the port is in use. -/
def portUsedMarker : String := "PORT_USED\n"

/-- The first line of a failed start. -/
def failedLine : String := "Error while starting javalint.\n"

/-- The message that a stop was asked for. -/
def stopNotice : List LogEntry := [⟨.info, "Received shutdown signal"⟩]

/-- The status of a run of the server. -/
def statusOf : End → Except StartupError ProgramEnd
  | .returned => .ok .returned
  | .exited => .ok (.exited 0)
  | .endless => .ok .endless
  | .unbound error => .error (.bind error)
  | .failed fault => .error (.accept fault)

/-- The events that a threshold lets through; calls of the compiler are kept. -/
def visibleEvents (threshold : Nat) (events : List Event) : List Event :=
  events.filter fun
    | .logged entry => threshold ≤ entry.level.rank
    | .compiled _ _ => true

/-- A daemon that could not listen. -/
def unbound (settings : Settings) (events : List Event) (error : BindError) : DaemonRun :=
  let asked := some (settings.host, settings.port)
  match error with
  | .portInUse port =>
    ⟨.ok (.exited portUsedStatus), portUsedMarker,
      failedLine ++ "Port " ++ toString port ++ " seems to be already in use.\n", asked, events, []⟩
  | .system fault =>
    ⟨.ok (.exited failedStatus), "",
      failedLine ++ "An I/O error occurred: " ++ fault.message ++ "\n", asked, events, []⟩
  | .portOutOfRange => ⟨.error (.bind error), "", "", asked, events, []⟩

/-- The server that settings describe. -/
def server (settings : Settings) (toolchain : Toolchain) (uptime : Binary64) (session : Session) :
    Server where
  host := settings.host
  port := settings.port
  readTimeout := settings.readTimeout
  toolchain := toolchain
  stopNotice := stopNotice
  uptime := uptime
  session := session
  running := false
  listener := none

/-- The daemon with a toolchain, all its events being logged. -/
def runWith (settings : Settings) (toolchain : Toolchain) (uptime : Binary64) (binding : Binding)
    (arrivals : List Arrival) : DaemonRun :=
  let step := Session.start toolchain ⟨settings.classpath, settings.jdkHome⟩
  match step.result with
  | .error e => ⟨.error (.compiler e), "", "", none, step.events, []⟩
  | .ok _ =>
    match (server settings toolchain uptime step.session).bind binding with
    | (.error e, events) => unbound settings (step.events ++ events) e
    | (.ok server, events) =>
      let run := server.run arrivals
      ⟨statusOf run.finish, runningMarker, "", some (settings.host, settings.port),
        step.events ++ events ++ run.events, run.received⟩

/-- The daemon from its settings to its end, on a machine whose files and variables stay as they
are. -/
def run (m : Machine) (settings : Settings) (binding : Binding) (arrivals : List Arrival) :
    DaemonRun :=
  match thresholdOfName? settings.logLevel with
  | none => ⟨.error (.unknownLevel settings.logLevel), "", "", none, [], []⟩
  | some threshold =>
    let run := runWith settings (m.toolchain settings.compileTimeout) m.uptime binding arrivals
    { run with events := visibleEvents threshold run.events }

end Startup

end LintDaemon
