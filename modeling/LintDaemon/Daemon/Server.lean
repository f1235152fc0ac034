import LintDaemon.Daemon.Connection

/-!
# The server

The server listens at an address and serves one connection after the other. This is the connection
loop of section 4.1 of the specification.

* `Server.bind`: a listener is made (`bind()`).
* `Server.stop`: no further connection is to be accepted (`stop()`).
* `Server.serve`: connections are served until a request or a stop ends it (`serve_forever()`).

A connection that fails is logged and does not end the server. One whose serving does not end keeps
the server for ever: no further connection is accepted, and a stop that is asked for meanwhile
closes the listener, but does not end the run.

Scope: what accepting meets is given as a list of arrivals, and a stop is asked for either while a
client is served or while nobody is. A stop cannot fall between two statements of the loop.
-/

namespace LintDaemon

/-- A socket that listens. -/
structure Listener where
  /-- The host it listens at. -/
  host : String
  /-- The port it listens at. -/
  port : Int
  /-- Whether it has not been closed yet. -/
  isOpen : Bool
  deriving DecidableEq, Repr

/-- A listener that has been closed. -/
def Listener.closed (l : Listener) : Listener :=
  { l with isOpen := false }

/-- A server and its session. -/
structure Server where
  /-- The host to listen at. -/
  host : String
  /-- The port to listen at; zero stands for any free one. -/
  port : Int
  /-- How many seconds a client may be silent; zero stands for no limit. -/
  readTimeout : Binary64
  /-- Finds compilers. -/
  toolchain : Toolchain
  /-- What is logged when a stop is asked for. -/
  stopNotice : List LogEntry
  /-- For how many seconds the server has been there when it stops. -/
  uptime : Binary64
  /-- The session. -/
  session : Session
  /-- Whether connections are to be accepted. -/
  running : Bool
  /-- The listener, once there is one. -/
  listener : Option Listener

/-- What comes of creating a listening socket. -/
inductive Binding
  /-- The socket listens; a free port was chosen where any would do. -/
  | bound (freePort : Int)
  /-- The operating system reported a fault. -/
  | fault (fault : SystemFault)
  /-- The port is none. -/
  | portOutOfRange
  deriving DecidableEq, Repr

/-- Why a server cannot listen. -/
inductive BindError
  /-- Somebody else listens at the port. -/
  | portInUse (port : Int)
  /-- The operating system reported another fault. -/
  | system (fault : SystemFault)
  /-- The port is none. -/
  | portOutOfRange
  deriving DecidableEq, Repr

/-- The fault of a port at which somebody else listens. -/
def portInUseFault (port : Int) : SystemFault :=
  ⟨SystemFault.addressInUse, "Port " ++ toString port ++ " is already in use", none⟩

/-- The wording of a failure to listen. -/
def BindError.message : BindError → String
  | .portInUse port => (portInUseFault port).message
  | .system fault => fault.message
  | .portOutOfRange => "bind(): port must be 0-65535."

/-- What accepting a connection meets. -/
inductive Arrival
  /-- A client connects; while it is served a stop may be asked for. -/
  | connection (c : Connection) (stopMeanwhile : Bool)
  /-- A stop is asked for while nobody is served. -/
  | stop
  /-- The operating system reports a fault. -/
  | fault (fault : SystemFault)
  deriving DecidableEq, Repr

/-- How serving ended. -/
inductive End
  /-- A stop was asked for. -/
  | returned
  /-- A request ended the daemon, with a status of zero. -/
  | exited
  /-- The server could not listen. -/
  | unbound (error : BindError)
  /-- Accepting a connection failed. -/
  | failed (fault : SystemFault)
  /-- It does not end: a client is waited for without a limit. -/
  | endless
  deriving DecidableEq, Repr

/-- What a run of a server comes to. -/
structure ServerRun where
  /-- How it ended. -/
  finish : End
  /-- The server after it, or while it waits for ever. -/
  server : Server
  /-- The events on the way. -/
  events : List Event
  /-- What each client that was accepted received. -/
  received : List (Option String)
  /-- The listener that the server gave up, if it gave one up. -/
  dropped : Option Listener

/-- A run in which a client was served before the rest. -/
def ServerRun.after (events : List Event) (received : Option String) (run : ServerRun) :
    ServerRun :=
  { run with events := events ++ run.events, received := received :: run.received }

namespace Server

/-- The address of the server: that of its listener, or the one it is to listen at. -/
def address (s : Server) : String × Int :=
  match s.listener with
  | none => (s.host, s.port)
  | some l => (l.host, l.port)

/-- A server that listens, or why it cannot. -/
def bind (s : Server) (binding : Binding) : Except BindError Server × List Event :=
  match binding with
  | .bound freePort =>
    let port := if s.port = 0 then freePort else s.port
    (.ok { s with listener := some ⟨s.host, port, true⟩ },
      [.log .info ("Daemon listening on " ++ s.host ++ ":" ++ toString port)])
  | .fault fault =>
    if fault.number = SystemFault.addressInUse then (.error (.portInUse s.port), [])
    else (.error (.system fault), [])
  | .portOutOfRange => (.error .portOutOfRange, [])

/-- A server that accepts no further connection. -/
def stop (s : Server) : Server :=
  { s with running := false, listener := s.listener.map .closed }

/-- The message that a server has stopped. -/
def stoppedEvents (s : Server) : List Event :=
  [.log .info ("Daemon stopped after " ++ toString s.session.lintCount ++
    " lint request(s), uptime " ++ s.uptime.toRoundedText ++ "s")]

/-- A run that ends with the listener closed and given up. -/
def close (s : Server) (finish : End) (events : List Event) (received : List (Option String)) :
    ServerRun :=
  ⟨finish, { s with running := false, listener := none }, events ++ s.stoppedEvents, received,
    s.listener.map .closed⟩

/-- Whether the server has a listener that is open. -/
def isListening (s : Server) : Bool :=
  s.listener.any (·.isOpen)

/-- The server when a stop has been asked for and nobody is served: accepting fails, since the
listener is closed, and the run returns. -/
def interrupt (s : Server) : ServerRun :=
  s.stop.close .returned (s.stopNotice.map .logged) []

/-- The message that a connection failed. -/
def failureEvents : ServeResult → List Event
  | .ended (.error e) => [.log .error ("Error handling client: " ++ e.message)]
  | .ended (.ok _) | .endless => []

/-- Whether a connection ends the daemon. -/
def endsDaemon : ServeResult → Bool
  | .ended (.ok reply) => reply.terminate
  | .ended (.error _) | .endless => false

/-- Connections served by a server that listens; behind the last arrival a stop is asked for. -/
def serveArrivals (s : Server) : List Arrival → ServerRun
  | [] => s.interrupt
  | .stop :: _ => s.interrupt
  | .fault fault :: _ => ⟨.failed fault, s, [], [], none⟩
  | .connection c stopMeanwhile :: rest =>
    let served := c.serve s.session s.toolchain s.readTimeout
    let notice := if stopMeanwhile then s.stopNotice.map .logged else []
    let events := served.events ++ notice ++ failureEvents served.result
    let s := { s with session := served.session }
    let s := if stopMeanwhile then s.stop else s
    if served.result.isEndless then ⟨.endless, s, events, [served.received], none⟩
    else if endsDaemon served.result then s.close .exited events [served.received]
    else if stopMeanwhile then s.close .returned events [served.received]
    else (serveArrivals s rest).after events served.received

/-- A run of a server that has a listener. Accepting fails at once if it has been closed. -/
def run (s : Server) (arrivals : List Arrival) : ServerRun :=
  let s := { s with running := true }
  if s.isListening then s.serveArrivals arrivals
  else ⟨.failed .badDescriptor, s, [], [], none⟩

/-- A run of a server that listens first, if it has no listener yet. -/
def serve (s : Server) (binding : Binding) (arrivals : List Arrival) : ServerRun :=
  match s.listener with
  | some _ => s.run arrivals
  | none =>
    match s.bind binding with
    | (.error e, events) => ⟨.unbound e, s, events, [], none⟩
    | (.ok s, events) =>
      let run := s.run arrivals
      { run with events := events ++ run.events }

end Server

end LintDaemon
