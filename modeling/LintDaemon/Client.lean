import LintDaemon.Daemon.Server
import LintDaemon.Json.Display
import LintDaemon.Json.Reader
import LintDaemon.Text.Incoming

/-!
# The client

A client opens a connection for each request, sends it, and reads at most one line of reply.

This is the client of section 4.5 of the specification.

* `Peer`: where addresses lead, and who answers there, in particular a `RunningDaemon`.
* `Peer.exchange`: a connection with whoever answers.
* `Client.lint`, `Client.setClasspath`, `Client.setJdk`, `Client.kill`, `Client.isDaemonRunning`:
  what a client can ask, each by one connection.

Each step gives its result, the bytes that were sent if somebody took them, the peer after it, and
the events on the side of the daemon.

Scope: how names and ports become addresses belongs to the system and its libraries, so that
`Peer.resolve` is a parameter. Once there is a connection it lasts: a client sends its request,
closes its side and takes all of the reply, and no time limit of its own runs out.
-/

namespace LintDaemon

open LintDaemon.Text

/-- A daemon that runs somewhere. -/
structure RunningDaemon where
  /-- Finds compilers. -/
  toolchain : Toolchain
  /-- How many seconds a client may be silent. -/
  readTimeout : Binary64
  /-- Its session. -/
  session : Session
  /-- Whether it still accepts connections. -/
  alive : Bool

/-- Why there is no connection. -/
inductive ConnectError
  /-- The operating system reported a fault. -/
  | system (fault : SystemFault)
  /-- The host or the port cannot be handed to the system: the name of the host is none, or the port
  is too large. -/
  | address (message : String)
  deriving DecidableEq, Repr

/-- The wording of a failure to connect. -/
def ConnectError.message : ConnectError → String
  | .system fault => fault.message
  | .address message => message

/-- Whether a failure to connect is a fault of the operating system. -/
def ConnectError.isSystem : ConnectError → Bool
  | .system _ => true
  | .address _ => false

/-- Who answers, and at which address. -/
inductive Responder
  /-- Nobody. -/
  | nobody
  /-- A daemon, at its address only. -/
  | daemon (host : String) (port : Int) (d : RunningDaemon)
  /-- Somebody whose answer, or fault, is always the same. -/
  | fixed (host : String) (port : Int) (answer : Except SystemFault (List UInt8))

/-- What a client meets that opens connections. -/
structure Peer where
  /-- The address to which a host and a port lead, or why they lead nowhere. -/
  resolve : String → Int → Except ConnectError (String × Int)
  /-- Who answers. -/
  responder : Responder

/-- What a connection comes to. -/
structure Exchange where
  /-- All that is received, or why there was no connection. -/
  received : Except ConnectError (List UInt8)
  /-- The peer after it. -/
  peer : Peer
  /-- The events on the side of the daemon. -/
  events : List Event

/-- A connection with a daemon, from a client that sends all it has, closes its side, and takes the
reply. Such a connection is always served to its end. Where serving fails nothing is received, and
the daemon goes on. -/
def RunningDaemon.exchange (d : RunningDaemon) (sent : List UInt8) :
    List UInt8 × RunningDaemon × List Event :=
  let served := Connection.serve ⟨sent, .closed, .whole⟩ d.session d.toolchain d.readTimeout
  (Utf8.encode (served.received.getD "").toList,
    { d with session := served.session, alive := !Server.endsDaemon served.result },
    served.events)

/-- A connection with whoever answers at an address: what is received, who answers from then on,
and the events on the side of the daemon. -/
def Responder.exchange (r : Responder) (address : String × Int) (sent : List UInt8) :
    Except SystemFault (List UInt8) × Responder × List Event :=
  match r with
  | .nobody => (.error .connectionRefused, r, [])
  | .daemon host port d =>
    if address = (host, port) ∧ d.alive then
      let (received, d, events) := d.exchange sent
      (.ok received, .daemon host port d, events)
    else (.error .connectionRefused, r, [])
  | .fixed host port answer =>
    (if address = (host, port) then answer else .error .connectionRefused, r, [])

/-- A connection with whoever answers where a host and a port lead. -/
def Peer.exchange (p : Peer) (host : String) (port : Int) (sent : List UInt8) : Exchange :=
  match p.resolve host port with
  | .error e => ⟨.error e, p, []⟩
  | .ok address =>
    let (received, responder, events) := p.responder.exchange address sent
    ⟨received.mapError .system, { p with responder }, events⟩

/-- Why asking a daemon failed. -/
inductive ClientError
  /-- There was no connection. -/
  | connect (error : ConnectError)
  /-- The connection was closed without the reply that was expected. -/
  | noReply
  /-- The daemon reported an error. -/
  | reported (message : Json.Value)
  /-- The reply is no text. -/
  | decode (error : Utf8.DecodeError)
  /-- The reply is no JSON. -/
  | json (error : Json.ReadError)

/-- The wording of a failure. -/
def ClientError.message : ClientError → String
  | .connect error => error.message
  | .noReply => "Daemon closed the connection without a response"
  | .reported message => message.asMessage
  | .decode error => error.message
  | .json error => error.message

/-- Whether a failure is a fault of the connection rather than one of its address or of what came
over it. -/
def ClientError.isOfConnection : ClientError → Bool
  | .connect error => error.isSystem
  | .noReply => true
  | .reported _ | .decode _ | .json _ => false

/-- What a step of a client comes to. -/
structure ClientStep (α : Type) where
  /-- Its result. -/
  result : Except ClientError α
  /-- What was sent, if there was a connection. -/
  sent : Option (List UInt8)
  /-- The peer after it. -/
  peer : Peer
  /-- The events on the side of the daemon. -/
  events : List Event

/-- A step whose result is worked on. -/
def ClientStep.mapResult (f : Except ClientError α → Except ClientError β) (s : ClientStep α) :
    ClientStep β :=
  ⟨f s.result, s.sent, s.peer, s.events⟩

/-- A client of the daemon at an address. -/
structure Client where
  /-- The host. -/
  host : String
  /-- The port. -/
  port : Int
  deriving DecidableEq, Repr

namespace Client

/-- The value that the first line of a reply writes; none if that line is all white space. -/
def readReply (bytes : List UInt8) : Except ClientError (Option Json.Value) := do
  let line ← (Incoming.firstLine bytes).mapError .decode
  if allBlank line then return none
  else return some (← (Json.read line).mapError .json)

/-- Bytes sent, and the reply to them read. -/
def request (c : Client) (p : Peer) (bytes : List UInt8) : ClientStep (Option Json.Value) :=
  let exchange := p.exchange c.host c.port bytes
  match exchange.received with
  | .error e => ⟨.error (.connect e), none, exchange.peer, exchange.events⟩
  | .ok received => ⟨readReply received, some bytes, exchange.peer, exchange.events⟩

/-- A reply that is expected and reports no error. -/
def expected : Option Json.Value → Except ClientError Json.Value
  | none => .error .noReply
  | some reply =>
    match reply.get? "error" with
    | some message => .error (.reported message)
    | none => .ok reply

/-- A source linted. The reply is whatever the daemon says, unless it reports an error. -/
def lint (c : Client) (p : Peer) (name source : String) : ClientStep Json.Value :=
  (c.request p (Utf8.encode (Request.encodeLint name.toList source.toList))).mapResult
    (· >>= expected)

/-- A setting changed. A reply is read and passed over. -/
def set (c : Client) (p : Peer) (property value : String) : ClientStep Unit :=
  (c.request p (Utf8.encode (Request.encodeSet property.toList value.toList))).mapResult
    (·.map fun _ => ())

/-- The class path changed. -/
def setClasspath (c : Client) (p : Peer) (classpath : String) : ClientStep Unit :=
  c.set p Request.classpathProperty classpath

/-- The installation of the compiler changed. -/
def setJdk (c : Client) (p : Peer) (home : String) : ClientStep Unit :=
  c.set p Request.jdkProperty home

/-- Whether a request was delivered: it was not if the connection failed. -/
def delivered : Except ClientError (Option Json.Value) → Except ClientError Bool
  | .ok _ => .ok true
  | .error e => if e.isOfConnection then .ok false else .error e

/-- The daemon asked to end. Whether that was delivered. -/
def kill (c : Client) (p : Peer) : ClientStep Bool :=
  (c.request p (Utf8.encode Request.encodeKill)).mapResult delivered

/-- Whether somebody accepts connections: one is opened, and closed without a request. -/
def isDaemonRunning (c : Client) (p : Peer) : ClientStep Bool :=
  let exchange := p.exchange c.host c.port []
  match exchange.received with
  | .error e =>
    ⟨if e.isSystem then .ok false else .error (.connect e), none, exchange.peer, exchange.events⟩
  | .ok _ => ⟨.ok true, some [], exchange.peer, exchange.events⟩

end Client

end LintDaemon
