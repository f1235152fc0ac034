import LintDaemon.Daemon.Session
import LintDaemon.Protocol.Stream

/-!
# Serving a connection

A connection carries one request and at most one line of reply. Serving it is one turn of the
connection loop (section 4.1 of the specification): the request is read, carried out by the session
(section 4.3), and answered.

* `Connection`: what a client sends, how it goes on behind that, and how it takes the reply.
* `timeLimitError?`: the numbers of seconds that are no time limit.
* `Connection.serve`: how serving a connection goes, what the client receives, and the session after
  it.

A time limit bounds each single read and each single write. Zero stands for no limit: a client that
is silent before its request is complete, or that stops taking the reply, is waited for without end,
and nobody else is served.

Scope: all that a client sends is there when it is read, so that no time limit runs out between two
parts of it. How long a compilation or a whole connection takes is not told. A reply is taken by the
client, or by the system in its place. A writer that meets a fault tries once more when it is
closed; the fault here is the one that it meets then.
-/

namespace LintDaemon

/-! ## Clients -/

/-- How a client goes on when it has sent all it sends. -/
inductive ClientState
  /-- It has closed its side. -/
  | closed
  /-- It is silent. -/
  | silent
  /-- Its connection breaks: reading on meets a fault. -/
  | broken (fault : SystemFault)
  deriving DecidableEq, Repr

/-- How a client takes the reply. -/
inductive Reception
  /-- It takes all of it. -/
  | whole
  /-- It takes at most so many characters, and then no more. -/
  | upTo (count : Nat)
  /-- It has gone: writing meets a fault. -/
  | gone (fault : SystemFault)
  deriving DecidableEq, Repr

/-- A connection of a client. -/
structure Connection where
  /-- What the client sends. -/
  sent : List UInt8
  /-- How it goes on. -/
  client : ClientState
  /-- How it takes the reply. -/
  reception : Reception
  deriving DecidableEq, Repr

/-- How the stream of a client goes on. -/
def ClientState.ending : ClientState → Ending
  | .closed => .closed
  | .silent | .broken _ => .stalled

/-! ## Time limits -/

/-- Why a time limit cannot be set. -/
inductive TimeLimitError
  /-- It is no number. -/
  | notANumber
  /-- It has too many nanoseconds to count them. -/
  | uncountable
  /-- It is below zero. -/
  | negative
  deriving DecidableEq, Repr

/-- The wording of a time limit that cannot be set. -/
def TimeLimitError.message : TimeLimitError → String
  | .notANumber => "Invalid value NaN (not a number)"
  | .uncountable => "timestamp out of range for platform time_t"
  | .negative => "Timeout value out of range"

/-- How many nanoseconds can be counted. -/
def maxNanoseconds : Nat := 9223372036854775808

/-- Why a number of seconds is no time limit. Zero stands for no limit. -/
def timeLimitError? (seconds : Binary64) : Option TimeLimitError :=
  match seconds with
  | .nan => some .notANumber
  | .infinite _ => some .uncountable
  | .finite negative _ _ =>
    match seconds.scaleBy 1000000000 with
    | .nan => some .notANumber
    | .infinite _ => some .uncountable
    | .finite _ mantissa exponent =>
      let (num, den) := Binary64.ratio mantissa exponent
      let most := maxNanoseconds * den
      let isBeyond : Bool := if negative then num > most else num ≥ most
      if isBeyond then some .uncountable
      else if seconds.isNegative then some .negative else none

/-! ## Outcomes -/

/-- Why serving a connection failed. -/
inductive ServeError
  /-- The time limit could not be set. -/
  | timeLimit (error : TimeLimitError)
  /-- The request could not be read. -/
  | read (fault : SystemFault)
  /-- The request failed. -/
  | request (failure : Failure)
  /-- The reply could not be written. -/
  | reply (fault : SystemFault)
  /-- The reply was not taken in time. -/
  | replyTimedOut
  deriving DecidableEq, Repr

/-- The wording of a failed connection. -/
def ServeError.message : ServeError → String
  | .timeLimit error => error.message
  | .read fault => fault.message
  | .request failure => failure.message
  | .reply fault => fault.message
  | .replyTimedOut => "timed out"

/-- How serving a connection goes. -/
inductive ServeResult
  /-- It ends, with a reply or an error. -/
  | ended (result : Except ServeError Reply)
  /-- It does not end: the client is waited for without a limit. -/
  | endless

/-- Whether serving a connection does not end. -/
def ServeResult.isEndless : ServeResult → Bool
  | .ended _ => false
  | .endless => true

/-- What serving a connection comes to. -/
structure Served where
  /-- How it goes. -/
  result : ServeResult
  /-- What the client receives, if it has not gone. -/
  received : Option String
  /-- The session after it. -/
  session : Session
  /-- The events on the way. -/
  events : List Event

/-! ## Serving -/

/-- What a client receives of a text that is sent to it; nothing can be received by one that has
gone. -/
def Reception.taken : Reception → String → Option String
  | .whole, text => some text
  | .upTo count, text => some (String.ofList (text.toList.take count))
  | .gone _, _ => none

namespace Reply

/-- The text that is sent for a reply. -/
def text (reply : Reply) : String :=
  match reply.line with
  | none => ""
  | some line => line ++ "\n"

/-- A reply sent under a time limit to a client. -/
def send (reply : Reply) (timeLimit : Binary64) (reception : Reception) : ServeResult :=
  match reply.line, reception with
  | none, _ | some _, .whole => .ended (.ok reply)
  | some _, .gone fault => .ended (.error (.reply fault))
  | some _, .upTo count =>
    if reply.text.length ≤ count then .ended (.ok reply)
    else if timeLimit.isZero then .endless
    else .ended (.error .replyTimedOut)

end Reply

namespace Connection

/-- The stream of a connection. -/
def stream (c : Connection) : Stream :=
  .ofBytes c.sent c.client.ending

/-- Whether a client is silent before its request is complete. -/
def fallsSilent (c : Connection) : Bool :=
  c.client == .silent && c.stream.readsToEnd

/-- Whether a client is waited for without end before its request is complete. -/
def isAwaited (c : Connection) (timeLimit : Binary64) : Bool :=
  timeLimit.isZero && c.fallsSilent

/-- The fault that reading the request meets, if the connection breaks before it is complete. A
connection that has timed out counts as a silent client. -/
def readFault? (c : Connection) : Option SystemFault :=
  match c.client with
  | .closed | .silent => none
  | .broken fault =>
    if fault.number ≠ SystemFault.connectionTimedOut.number ∧ c.stream.readsToEnd then some fault
    else none

/-- A connection that ends before there is a reply. -/
def unanswered (c : Connection) (s : Session) (result : ServeResult) (events : List Event) :
    Served :=
  ⟨result, c.reception.taken "", s, events⟩

/-- The one request of a connection read, carried out and answered: the body of the loop of
`serve_forever` in section 4.1 of the specification. The time limit is set first, and nothing is
read if that fails; a connection is closed without a reply if there was no request, and if reading
or carrying out the request failed. -/
def serve (c : Connection) (s : Session) (toolchain : Toolchain) (timeLimit : Binary64) :
    Served :=
  match timeLimitError? timeLimit with
  | some e => c.unanswered s (.ended (.error (.timeLimit e))) []
  | none =>
    if c.isAwaited timeLimit then c.unanswered s .endless []
    else
      match c.readFault?, c.stream.read.1 with
      | some fault, _ => c.unanswered s (.ended (.error (.read fault))) []
      | none, none =>
        c.unanswered s (.ended (.ok .silent))
          [.log .debug "Client closed without sending a request"]
      | none, some request =>
        let step := s.dispatch toolchain request
        match step.result with
        | .error e => c.unanswered step.session (.ended (.error (.request e))) step.events
        | .ok reply =>
          ⟨reply.send timeLimit c.reception, c.reception.taken reply.text, step.session,
            step.events⟩

end Connection

end LintDaemon
