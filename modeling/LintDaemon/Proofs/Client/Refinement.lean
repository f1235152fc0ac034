import LintDaemon.Client
import LintDaemon.Proofs.Daemon.History
import LintDaemon.Proofs.Protocol.Framing
import LintDaemon.Proofs.Protocol.ReplyLines

/-!
# A client talks to an abstract session

What a client gets from a daemon, call after call, told without bytes, lines, JSON or connections.

* `ClientCall`, `Client.perform`, `Client.performAll`: the calls of a client, and what they come to.
* `AbstractDaemon.step`, `AbstractDaemon.run`: the same calls on a class path, an installation and
  whether the daemon is alive.
* `ClientCall.request?_bytes`: the request that the daemon reads is the one that was meant.
* `Client.readReply_line`: the client reads what the daemon reports.
* `Client.perform_step`: one call on the daemon is one step of the abstract one.
* `Client.performAll_eq_run`: so is every sequence of calls.
-/

namespace LintDaemon

open LintDaemon.Text

/-! ## Calls -/

/-- What a client asks of a daemon. -/
inductive ClientCall
  /-- A source is to be linted. -/
  | lint (name source : String)
  /-- The class path is to change. -/
  | setClasspath (classpath : String)
  /-- The installation of the compiler is to change. -/
  | setJdk (home : String)
  /-- The daemon is to end. -/
  | kill
  deriving DecidableEq, Repr

/-- What a call returns. -/
inductive CallValue
  /-- What the daemon replied. -/
  | reply (value : Json.Value)
  /-- Nothing. -/
  | done
  /-- Whether the request was delivered. -/
  | delivered (wasDelivered : Bool)

/-- Calls that can be carried over the wire: sources of a class with a valid name, without a line
that is the sentinel, and values on one line. -/
def ClientCall.IsSendable : ClientCall → Prop
  | .lint name source =>
    isUnitName name = true ∧ Request.sentinel ∉ fields '\n' (normalizeNewlines source.toList)
  | .setClasspath classpath => IsOneLine classpath.toList
  | .setJdk home => IsOneLine home.toList
  | .kill => True

/-- Whether a call can be carried over the wire can be computed. -/
instance : DecidablePred ClientCall.IsSendable
  | .lint name source =>
    inferInstanceAs (Decidable (isUnitName name = true ∧
      Request.sentinel ∉ fields '\n' (normalizeNewlines source.toList)))
  | .setClasspath classpath => inferInstanceAs (Decidable (IsOneLine classpath.toList))
  | .setJdk home => inferInstanceAs (Decidable (IsOneLine home.toList))
  | .kill => inferInstanceAs (Decidable True)

/-- One call of a client: what it returns or raises, and who answers from then on. -/
def Client.perform (c : Client) (p : Peer) : ClientCall → Except ClientError CallValue × Peer
  | .lint name source =>
    let step := c.lint p name source
    (step.result.map .reply, step.peer)
  | .setClasspath classpath =>
    let step := c.setClasspath p classpath
    (step.result.map fun _ => .done, step.peer)
  | .setJdk home =>
    let step := c.setJdk p home
    (step.result.map fun _ => .done, step.peer)
  | .kill =>
    let step := c.kill p
    (step.result.map .delivered, step.peer)

/-- Calls of a client, one after the other, whatever they raise. -/
def Client.performAll (c : Client) (p : Peer) :
    List ClientCall → List (Except ClientError CallValue) × Peer
  | [] => ([], p)
  | call :: rest =>
    let (result, p) := c.perform p call
    let (results, p) := c.performAll p rest
    (result :: results, p)

/-! ## The abstract daemon -/

/-- A daemon as its clients know it. -/
structure AbstractDaemon extends SessionSettings where
  /-- Whether it answers. -/
  alive : Bool

/-- A line or column in the words of the wire. -/
def placeText : Option Int → String
  | none => "-1"
  | some n => toString n

/-- A diagnostic as its client gets it. -/
def diagnosticObject (d : Diagnostic) : Json.Value :=
  .object
    [("message", .string d.message), ("line", .string (placeText d.line)),
      ("position", .string (placeText d.column)), ("type", .string d.severity.name)]

/-- What a client gets where there is no compiler. -/
def noCompilerObject : Json.Value :=
  .object
    [("message", .string "No Java compiler found! Please specify JDK location"),
      ("line", .string "-1"), ("position", .string "-1"), ("type", .string "ERROR")]

/-- A source as the compiler gets it: with line feeds only, and one at its end. -/
def deliveredSource (source : String) : String :=
  String.ofList (Request.terminated (normalizeNewlines source.toList))

namespace AbstractDaemon

/-- What a lint returns: the diagnostics of the compiler in use, in their order. Where the compiler
fails there is no reply. -/
def lint (toolchain : Toolchain) (a : AbstractDaemon) (name source : String) :
    Except ClientError CallValue :=
  match toolchain a.jdkHome with
  | .error _ => .ok (.reply (.array [noCompilerObject]))
  | .ok compiler =>
    match (compiler.compile ⟨name, deliveredSource source⟩ ⟨a.classpath, false, none⟩).result with
    | .ok diagnostics => .ok (.reply (.array (diagnostics.map diagnosticObject)))
    | .error _ => .error .noReply

/-- One call: what it returns or raises, and the daemon after it. -/
def step (toolchain : Toolchain) (a : AbstractDaemon) (call : ClientCall) :
    Except ClientError CallValue × AbstractDaemon :=
  match a.alive, call with
  | true, .lint name source => (a.lint toolchain name source, a)
  | true, .setClasspath classpath => (.ok .done, { a with classpath := classpath })
  | true, .setJdk home => (.ok .done, { a with jdkHome := some home })
  | true, .kill => (.ok (.delivered true), { a with alive := false })
  | false, .kill => (.ok (.delivered false), a)
  | false, _ => (.error (.connect (.system .connectionRefused)), a)

/-- Calls, one after the other. -/
def run (toolchain : Toolchain) (a : AbstractDaemon) :
    List ClientCall → List (Except ClientError CallValue) × AbstractDaemon
  | [] => ([], a)
  | call :: rest =>
    let (result, a) := a.step toolchain call
    let (results, a) := a.run toolchain rest
    (result :: results, a)

end AbstractDaemon

/-! ## What the daemon reads -/

namespace ClientCall

/-- What a call asks of the daemon. -/
def request : ClientCall → Request
  | .lint name source => .lint name (deliveredSource source)
  | .setClasspath classpath => .set Request.classpathProperty classpath
  | .setJdk home => .set Request.jdkProperty home
  | .kill => .kill

/-- The bytes that a call sends. -/
def bytes : ClientCall → List UInt8
  | .lint name source => Utf8.encode (Request.encodeLint name.toList source.toList)
  | .setClasspath classpath =>
    Utf8.encode (Request.encodeSet Request.classpathProperty.toList classpath.toList)
  | .setJdk home => Utf8.encode (Request.encodeSet Request.jdkProperty.toList home.toList)
  | .kill => Utf8.encode Request.encodeKill

/-- The request that the daemon reads is the one that was meant. -/
theorem request?_bytes {call : ClientCall} (h : call.IsSendable) :
    Connection.request? ⟨call.bytes, .closed, .whole⟩ = some call.request := by
  have hset : ∀ property value : String, Request.delimiter ∉ property.toList →
      IsOneLine property.toList → IsOneLine value.toList →
        Connection.request?
            ⟨Utf8.encode (Request.encodeSet property.toList value.toList), .closed, .whole⟩ =
          some (.set property value) := by
    intro property value htab hproperty hvalue
    have hread := Stream.read_encodeSet htab hproperty hvalue [] .closed
    rw [List.append_nil, String.ofList_toList, String.ofList_toList] at hread
    exact congrArg Prod.fst hread
  cases call with
  | lint name source =>
    have hread := Stream.read_encodeLint_of_not_mem h.1 h.2 [] .closed
    rw [List.append_nil, String.ofList_toList] at hread
    exact congrArg Prod.fst hread
  | setClasspath classpath => exact hset _ _ (by decide) ⟨by decide, by decide⟩ h
  | setJdk home => exact hset _ _ (by decide) ⟨by decide, by decide⟩ h
  | kill =>
    have hread := Stream.read_encodeKill [] .closed
    rw [List.append_nil] at hread
    exact congrArg Prod.fst hread

end ClientCall

/-! ## What the client reads -/

namespace Client

/-- A printable line that does not begin with white space is read as the value that it writes. -/
theorem readReply_of_isPrintable {line : String} {value : Json.Value}
    (hprintable : Json.IsPrintable line.toList)
    (hread : Json.read (line.toList ++ ['\n']) = .ok value) {first : Char} {inner : List Char}
    (hfirst : line.toList = first :: inner) (hblank : isBlank first = false) :
    readReply (Utf8.encode (line ++ "\n").toList) = .ok (some value) := by
  have hline : (line ++ "\n").toList = line.toList ++ ['\n'] := String.toList_append
  have hall : allBlank (line.toList ++ ['\n']) = false := by
    simp [allBlank, hfirst, hblank]
  unfold readReply
  rw [hline, Incoming.firstLine_encode hprintable.isOneLine]
  simp only [bind, Except.bind, Except.mapError, hall, hread]
  rfl

/-- The line that reports diagnostics is read as what it reports. -/
theorem readReply_line (ds : List Diagnostic) :
    readReply (Utf8.encode (Reply.diagnosticsLine ds ++ "\n").toList) =
      .ok (some (Reply.diagnosticsValue ds)) := by
  have hspace : ['\n'].all Json.isSpace = true := rfl
  obtain ⟨inner, hbracket⟩ : ∃ inner, (Reply.diagnosticsLine ds).toList = '[' :: inner := by
    unfold Reply.diagnosticsLine Json.render Reply.diagnosticsValue
    rw [String.toList_ofList, Json.write]
    exact ⟨_, rfl⟩
  exact readReply_of_isPrintable (Reply.diagnosticsLine_printable ds)
    (Reply.read_diagnosticsLine ds (List.all_eq_true.mp hspace)) hbracket rfl

/-- The line that reports an error is read as what it reports. -/
theorem readReply_errorLine (message : String) :
    readReply (Utf8.encode (Reply.errorLine message ++ "\n").toList) =
      .ok (some (Reply.errorValue message)) := by
  have hspace : ['\n'].all Json.isSpace = true := rfl
  obtain ⟨inner, hbrace⟩ : ∃ inner, (Reply.errorLine message).toList = '\x7b' :: inner := by
    unfold Reply.errorLine Json.render Reply.errorValue
    rw [String.toList_ofList, Json.write]
    exact ⟨_, rfl⟩
  exact readReply_of_isPrintable (Reply.errorLine_printable message)
    (Reply.read_errorLine message (List.all_eq_true.mp hspace)) hbrace rfl

/-- A list of diagnostics is no report of an error. -/
theorem expected_diagnosticsValue (ds : List Diagnostic) :
    expected (some (Reply.diagnosticsValue ds)) = .ok (Reply.diagnosticsValue ds) :=
  rfl

/-- How the result of a call follows from what came back. -/
def conclude (result : Except ClientError (Option Json.Value)) :
    ClientCall → Except ClientError CallValue
  | .lint _ _ => (result >>= expected).map .reply
  | .setClasspath _ => result.map fun _ => .done
  | .setJdk _ => result.map fun _ => .done
  | .kill => (delivered result).map .delivered

/-- Every call is one request, and its result follows from what came back. -/
theorem perform_eq (c : Client) (p : Peer) (call : ClientCall) :
    c.perform p call =
      (conclude (c.request p call.bytes).result call, (c.request p call.bytes).peer) := by
  cases call with
  | lint name source => rfl
  | setClasspath classpath =>
    refine Prod.ext ?_ rfl
    simp only [perform, setClasspath, set, ClientStep.mapResult, conclude, ClientCall.bytes]
    cases (c.request p _).result <;> rfl
  | setJdk home =>
    refine Prod.ext ?_ rfl
    simp only [perform, setJdk, set, ClientStep.mapResult, conclude, ClientCall.bytes]
    cases (c.request p _).result <;> rfl
  | kill => rfl

section

variable (c : Client) (d : RunningDaemon)
  {resolve : String → Int → Except ConnectError (String × Int)}
  {host : String} {port : Int} (hresolve : resolve c.host c.port = .ok (host, port))

include hresolve

/-- A request to a daemon that is alive is served as a connection. -/
theorem request_alive (halive : d.alive = true) (bytes : List UInt8) :
    (c.request ⟨resolve, .daemon host port d⟩ bytes).result = readReply (d.exchange bytes).1 ∧
      (c.request ⟨resolve, .daemon host port d⟩ bytes).peer =
        ⟨resolve, .daemon host port (d.exchange bytes).2.1⟩ := by
  unfold request Peer.exchange Responder.exchange
  simp [hresolve, halive, Except.mapError]

/-- A request to a daemon that has ended is refused. -/
theorem request_ended (halive : d.alive = false) (bytes : List UInt8) :
    (c.request ⟨resolve, .daemon host port d⟩ bytes).result =
        .error (.connect (.system .connectionRefused)) ∧
      (c.request ⟨resolve, .daemon host port d⟩ bytes).peer =
        ⟨resolve, .daemon host port d⟩ := by
  unfold request Peer.exchange Responder.exchange
  simp [hresolve, halive, Except.mapError]

end

end Client

/-! ## One call -/

/-- Every list of diagnostics that the compilers of a toolchain give can be written. -/
def Toolchain.OnlyWritable (toolchain : Toolchain) : Prop :=
  ∀ home compiler unit options diagnostics, toolchain home = .ok compiler →
    (compiler.compile unit options).result = .ok diagnostics → Reply.isWritable diagnostics = true

/-- A place is written in the words of the wire. -/
theorem Reply.position_eq (place : Option Int) : Reply.position place = placeText place := by
  cases place with
  | none => rfl
  | some n =>
    cases n with
    | ofNat n => rfl
    | negSucc n =>
      have hminus : String.ofList ('-' :: Nat.toDigits 10 (n + 1)) =
          "-" ++ String.ofList (Nat.toDigits 10 (n + 1)) := String.toList_inj.mp (by simp)
      exact hminus

/-- Diagnostics are reported by their objects. -/
theorem Reply.diagnosticsValue_eq_map (ds : List Diagnostic) :
    Reply.diagnosticsValue ds = .array (ds.map diagnosticObject) := by
  have hobject : Reply.diagnosticValue = diagnosticObject := by
    funext d
    unfold Reply.diagnosticValue diagnosticObject
    rw [Reply.position_eq, Reply.position_eq]
  unfold Reply.diagnosticsValue
  rw [hobject]

section Step

variable {toolchain : Toolchain} {timeLimit : Binary64} (settings : SessionSettings)
  (before : List Connection)

/-- The daemon behind connections. -/
def RunningDaemon.after (toolchain : Toolchain) (timeLimit : Binary64)
    (settings : SessionSettings) (before : List Connection) (alive : Bool) : RunningDaemon :=
  ⟨toolchain, timeLimit, Session.after toolchain settings (Connection.requests before), alive⟩

/-- The connection that a call opens. -/
def ClientCall.connection (call : ClientCall) : Connection :=
  ⟨call.bytes, .closed, .whole⟩

/-- The text that a call receives from a daemon with these settings. -/
def ClientCall.answer (toolchain : Toolchain) (settings : SessionSettings) : ClientCall → String
  | .lint name source => settings.lintAnswer toolchain ⟨name, deliveredSource source⟩
  | .setClasspath _ => ""
  | .setJdk _ => ""
  | .kill => ""

variable (htoolchain : toolchain.OnlyUnavailable) (htime : timeLimitError? timeLimit = none)

include htoolchain htime in
/-- A set request of a property that there is succeeds in silence. -/
theorem Connection.received_serve_set {c : Connection} (hreception : c.reception = .whole)
    {property value : String} (h : c.request? = some (.set property value))
    (hproperty : property = Request.classpathProperty ∨ property = Request.jdkProperty)
    (s : Session) : (c.serve s toolchain timeLimit).received = some "" := by
  have hresult : (s.dispatch toolchain (.set property value)).result = .ok .silent := by
    rw [Session.dispatch, Session.set]
    rcases hproperty with rfl | rfl
    · rfl
    · obtain ⟨found, hfound⟩ := Session.setJdk_result s value (htoolchain _)
      have hne : Request.jdkProperty ≠ Request.classpathProperty := by decide
      rw [if_neg hne, if_pos rfl]
      dsimp only
      rw [hfound]
      rfl
  have hawaited : c.isAwaited timeLimit = false := Connection.isAwaited_eq_false h (by simp)
  rw [Connection.serve_of_ok htime hawaited h hresult, hreception]
  rfl

include htime in
/-- A kill request succeeds in silence and ends the daemon. -/
theorem Connection.serve_kill {c : Connection} (hreception : c.reception = .whole)
    (h : c.request? = some .kill) (s : Session) :
    (c.serve s toolchain timeLimit).received = some "" ∧
      Server.endsDaemon (c.serve s toolchain timeLimit).result = true := by
  have hresult : (s.dispatch toolchain .kill).result = .ok .terminating := rfl
  refine ⟨?_, Connection.endsDaemon_serve_kill htime h⟩
  have hawaited : c.isAwaited timeLimit = false := Connection.isAwaited_eq_false h (by simp)
  rw [Connection.serve_of_ok htime hawaited h hresult, hreception]
  rfl

include htoolchain htime in
/-- A call receives its answer, and the daemon goes on as the one behind one more connection; only
a kill ends it. -/
theorem RunningDaemon.exchange_after {call : ClientCall} (hcall : call.IsSendable) :
    ((RunningDaemon.after toolchain timeLimit settings before true).exchange call.bytes).1 =
        Utf8.encode (call.answer toolchain (settings.after (Connection.requests before))).toList ∧
      ((RunningDaemon.after toolchain timeLimit settings before true).exchange call.bytes).2.1 =
        .after toolchain timeLimit settings (before ++ [call.connection]) (call != .kill) := by
  have hrequest : call.connection.request? = some call.request := ClientCall.request?_bytes hcall
  have hsession := Connection.serve_after settings before htime htoolchain call.connection
  have hserved : (call.connection.serve
        (Session.after toolchain settings (Connection.requests before)) toolchain
          timeLimit).received =
          some (call.answer toolchain (settings.after (Connection.requests before))) ∧
      Server.endsDaemon (call.connection.serve
        (Session.after toolchain settings (Connection.requests before)) toolchain
          timeLimit).result = (call == .kill) := by
    cases call with
    | lint name source =>
      refine ⟨?_, Connection.endsDaemon_serve htime (by rw [hrequest]; nofun)⟩
      rw [Connection.received_serve_lint settings before htime hrequest]
      rfl
    | setClasspath classpath =>
      exact ⟨Connection.received_serve_set htoolchain htime rfl hrequest (Or.inl rfl) _,
        Connection.endsDaemon_serve htime (by rw [hrequest]; nofun)⟩
    | setJdk home =>
      exact ⟨Connection.received_serve_set htoolchain htime rfl hrequest (Or.inr rfl) _,
        Connection.endsDaemon_serve htime (by rw [hrequest]; nofun)⟩
    | kill => exact Connection.serve_kill htime rfl hrequest _
  unfold RunningDaemon.exchange
  constructor
  · exact congrArg (fun received => Utf8.encode (received.getD "").toList) hserved.1
  · exact congrArg₂ (RunningDaemon.mk toolchain timeLimit) hsession (congrArg (! ·) hserved.2)

/-- What a client makes of the answer to a lint is what the abstract daemon says. -/
theorem AbstractDaemon.conclude_lintAnswer (hwritable : toolchain.OnlyWritable)
    (settings : SessionSettings) (alive : Bool) (name source : String) :
    Client.conclude (Client.readReply (Utf8.encode
        (settings.lintAnswer toolchain ⟨name, deliveredSource source⟩).toList))
          (.lint name source) =
      AbstractDaemon.lint toolchain ⟨settings, alive⟩ name source := by
  have hline : ∀ ds, Client.conclude (Client.readReply (Utf8.encode
      (Reply.diagnosticsLine ds ++ "\n").toList)) (.lint name source) =
        .ok (.reply (.array (ds.map diagnosticObject))) := by
    intro ds
    rw [Client.readReply_line, Client.conclude]
    simp only [bind, Except.bind]
    rw [Client.expected_diagnosticsValue, Reply.diagnosticsValue_eq_map]
    rfl
  unfold SessionSettings.lintAnswer SessionSettings.diagnose AbstractDaemon.lint
  dsimp only
  cases hcompiler : toolchain settings.jdkHome with
  | error e => exact hline Session.noCompilerDiagnostics
  | ok compiler =>
    dsimp only
    cases hresult : (compiler.compile ⟨name, deliveredSource source⟩
        ⟨settings.classpath, false, none⟩).result with
    | error e => rfl
    | ok ds =>
      dsimp only
      rw [if_pos (hwritable _ _ _ _ _ hcompiler hresult)]
      exact hline ds

variable (c : Client) {resolve : String → Int → Except ConnectError (String × Int)}
  {host : String} {port : Int} (hresolve : resolve c.host c.port = .ok (host, port))

include hresolve htoolchain htime in
/-- One call on a daemon that is alive is one step of the abstract daemon. -/
theorem Client.perform_after (hwritable : toolchain.OnlyWritable) {call : ClientCall}
    (hcall : call.IsSendable) :
    (let next := AbstractDaemon.step toolchain
      ⟨settings.after (Connection.requests before), true⟩ call
    c.perform ⟨resolve, .daemon host port (.after toolchain timeLimit settings before true)⟩ call =
        (next.1, ⟨resolve, .daemon host port (.after toolchain timeLimit settings
          (before ++ [call.connection]) next.2.alive)⟩) ∧
      next.2.toSessionSettings =
        settings.after (Connection.requests (before ++ [call.connection]))) := by
  have hrequests : Connection.requests (before ++ [call.connection]) =
      Connection.requests before ++ [call.request] := by
    have hrequest : call.connection.request? = some call.request :=
      ClientCall.request?_bytes hcall
    unfold Connection.requests
    rw [List.filterMap_append]
    simp [hrequest]
  obtain ⟨hreceived, hpeer⟩ :=
    RunningDaemon.exchange_after settings before htoolchain htime hcall
  have hperform : c.perform
      ⟨resolve, .daemon host port (.after toolchain timeLimit settings before true)⟩ call =
        (conclude (readReply (Utf8.encode
          (call.answer toolchain (settings.after (Connection.requests before))).toList)) call,
        ⟨resolve, .daemon host port (.after toolchain timeLimit settings
          (before ++ [call.connection]) (call != .kill))⟩) := by
    obtain ⟨hresult, hafter⟩ := c.request_alive
      (.after toolchain timeLimit settings before true) hresolve rfl call.bytes
    rw [perform_eq, hresult, hafter, hreceived, hpeer]
  intro next
  rw [hperform, hrequests]
  cases call with
  | lint name source =>
    refine ⟨Prod.ext ?_ rfl, (settings.after_concat_of_none _ rfl rfl).symm⟩
    exact AbstractDaemon.conclude_lintAnswer hwritable _ true name source
  | setClasspath classpath => exact ⟨rfl, (settings.after_concat_classpath _ classpath).symm⟩
  | setJdk home => exact ⟨rfl, (settings.after_concat_jdk _ home).symm⟩
  | kill => exact ⟨rfl, (settings.after_concat_of_none _ rfl rfl).symm⟩

include hresolve in
/-- A call on a daemon that has ended changes nothing, and all but a kill is refused. -/
theorem Client.perform_ended {d : RunningDaemon} (halive : d.alive = false)
    (toolchain : Toolchain) (settings : SessionSettings) (call : ClientCall) :
    c.perform ⟨resolve, .daemon host port d⟩ call =
        ((AbstractDaemon.step toolchain ⟨settings, false⟩ call).1,
          ⟨resolve, .daemon host port d⟩) ∧
      (AbstractDaemon.step toolchain ⟨settings, false⟩ call).2 = ⟨settings, false⟩ := by
  obtain ⟨hresult, hpeer⟩ := c.request_ended d hresolve halive call.bytes
  rw [perform_eq, hresult, hpeer]
  cases call <;> exact ⟨rfl, rfl⟩

include hresolve htoolchain htime in
/-- **One call is one step of the abstract daemon**, whether the daemon is alive or has ended, and
behind it the two belong together again. -/
theorem Client.perform_step (hwritable : toolchain.OnlyWritable) {call : ClientCall}
    (hcall : call.IsSendable) (alive : Bool) :
    ∃ behind : List Connection,
      (let next := AbstractDaemon.step toolchain
        ⟨settings.after (Connection.requests before), alive⟩ call
      c.perform ⟨resolve, .daemon host port (.after toolchain timeLimit settings before alive)⟩
            call =
          (next.1,
            ⟨resolve, .daemon host port (.after toolchain timeLimit settings behind
              next.2.alive)⟩) ∧
        next.2.toSessionSettings = settings.after (Connection.requests behind)) := by
  cases alive with
  | true =>
    exact ⟨_, Client.perform_after settings before htoolchain htime c hresolve hwritable hcall⟩
  | false =>
    obtain ⟨hperform, hsame⟩ := c.perform_ended hresolve
      (d := .after toolchain timeLimit settings before false) rfl toolchain
      (settings.after (Connection.requests before)) call
    refine ⟨before, ?_⟩
    dsimp only
    rw [hperform, hsame]
    exact ⟨rfl, rfl⟩

include hresolve htoolchain htime in
/-- Calls on a daemon are steps of the abstract daemon, and behind them the two belong together. -/
theorem Client.performAll_after (hwritable : toolchain.OnlyWritable) {calls : List ClientCall}
    (hcalls : ∀ call ∈ calls, call.IsSendable) (alive : Bool) :
    ∃ behind : List Connection,
      (let final := AbstractDaemon.run toolchain
        ⟨settings.after (Connection.requests before), alive⟩ calls
      c.performAll ⟨resolve, .daemon host port (.after toolchain timeLimit settings before alive)⟩
            calls =
          (final.1,
            ⟨resolve, .daemon host port (.after toolchain timeLimit settings behind
              final.2.alive)⟩) ∧
        final.2.toSessionSettings = settings.after (Connection.requests behind)) := by
  induction calls generalizing before alive with
  | nil => exact ⟨before, rfl, rfl⟩
  | cons call calls ih =>
    have hrest : ∀ call ∈ calls, call.IsSendable := fun r hr =>
      hcalls r (List.mem_cons_of_mem call hr)
    obtain ⟨between, hperform, hsettings⟩ := Client.perform_step settings before htoolchain htime
      c hresolve hwritable (hcalls call List.mem_cons_self) alive
    obtain ⟨behind, hrun, hfinal⟩ := ih between hrest
      (AbstractDaemon.step toolchain
        ⟨settings.after (Connection.requests before), alive⟩ call).2.alive
    rw [← hsettings] at hrun hfinal
    refine ⟨behind, ?_, hfinal⟩
    rw [performAll, hperform]
    dsimp only
    rw [hrun]
    rfl

end Step

/-! ## Sequences of calls -/

/-- A daemon as its clients know it. -/
def RunningDaemon.view (d : RunningDaemon) : AbstractDaemon :=
  ⟨⟨d.session.classpath, d.session.jdkHome⟩, d.alive⟩

/-- **What the calls of a client come to is told by the abstract daemon**: if its host and port lead
to the daemon, each returns or raises what the abstract daemon says, and the daemon behind them
looks like the abstract one. -/
theorem Client.performAll_eq_run (c : Client) (d : RunningDaemon) (settings : SessionSettings)
    {resolve : String → Int → Except ConnectError (String × Int)} {host : String} {port : Int}
    (hresolve : resolve c.host c.port = .ok (host, port))
    (hstart : d.session = (Session.start d.toolchain settings).session) (halive : d.alive = true)
    (htoolchain : d.toolchain.OnlyUnavailable) (hwritable : d.toolchain.OnlyWritable)
    (htime : timeLimitError? d.readTimeout = none) (calls : List ClientCall)
    (hcalls : ∀ call ∈ calls, call.IsSendable) :
    ∃ behind : RunningDaemon,
      c.performAll ⟨resolve, .daemon host port d⟩ calls =
          ((AbstractDaemon.run d.toolchain ⟨settings, true⟩ calls).1,
            ⟨resolve, .daemon host port behind⟩) ∧
        behind.view = (AbstractDaemon.run d.toolchain ⟨settings, true⟩ calls).2 := by
  have hafter : d = .after d.toolchain d.readTimeout settings [] true := by
    have hsession : d.session = Session.after d.toolchain settings [] :=
      hstart.trans (Session.start_session settings htoolchain)
    unfold RunningDaemon.after
    rw [← halive]
    exact congrArg (RunningDaemon.mk d.toolchain d.readTimeout · d.alive) hsession
  obtain ⟨connections, hrun, hsettings⟩ := Client.performAll_after settings [] htoolchain htime
    c hresolve hwritable hcalls true
  rw [← hafter] at hrun
  exact ⟨_, hrun, congrArg (AbstractDaemon.mk · _) hsettings.symm⟩

/-- A toolchain with a compiler in one installation gives diagnostics that can be written if that
compiler does. -/
theorem Toolchain.onlyWritable_only {home : String}
    {compile : SourceUnit → CompileOptions → Compilation}
    (h : ∀ unit options diagnostics, (compile unit options).result = .ok diagnostics →
      Reply.isWritable diagnostics = true) : (Toolchain.only home compile).OnlyWritable := by
  intro home' compiler unit options diagnostics hcompiler hresult
  unfold only at hcompiler
  split_ifs at hcompiler
  cases hcompiler
  exact h unit options diagnostics hresult

/-- A compiler that refuses empty units and warns of all others. -/
def sampleCompile (unit : SourceUnit) (_ : CompileOptions) : Compilation :=
  ⟨[], none, if unit.body = "" then .error .embeddedNul
    else .ok [⟨"\"ü\" unused", some 1, none, .warning⟩]⟩

/-- The compiler gives diagnostics that can be written. -/
theorem isWritable_sampleCompile (unit : SourceUnit) (options : CompileOptions)
    (diagnostics : List Diagnostic)
    (h : (sampleCompile unit options).result = .ok diagnostics) :
    Reply.isWritable diagnostics = true := by
  unfold sampleCompile at h
  dsimp only at h
  split_ifs at h
  cases h
  decide

/-- A daemon with that compiler in one installation, in a session without an installation. -/
def sampleDaemon (readTimeout : Binary64) : RunningDaemon :=
  ⟨.only "/jdk" sampleCompile, readTimeout, ⟨"a.jar", none, none, 0⟩, true⟩

/-- A lint without a compiler, an installation and a class path set, a lint, one that fails, and
what comes behind a kill. -/
def sampleCalls : List ClientCall :=
  [.lint "Bar" "class Bar {}", .setJdk "/jdk", .setClasspath "b.jar", .lint "Bar" "class Bar {}",
    .lint "Bar" "", .kill, .setJdk "/none", .kill]

/-- Every host and port is an address, and leads to itself. -/
def resolveAsGiven (host : String) (port : Int) : Except ConnectError (String × Int) :=
  .ok (host, port)

/-- The sample calls return and raise what the abstract daemon says, up to the kill and behind
it. -/
theorem Client.performAll_eq_run_sampleCalls :
    ∃ behind : RunningDaemon,
      (⟨"127.0.0.1", 56789⟩ : Client).performAll
          ⟨resolveAsGiven, .daemon "127.0.0.1" 56789 (sampleDaemon (.ofNat 30))⟩ sampleCalls =
        ([.ok (.reply (.array [noCompilerObject])), .ok .done, .ok .done,
          .ok (.reply (.array [.object [("message", .string "\"ü\" unused"), ("line", .string "1"),
            ("position", .string "-1"), ("type", .string "WARNING")]])),
          .error .noReply, .ok (.delivered true), .error (.connect (.system .connectionRefused)),
          .ok (.delivered false)], ⟨resolveAsGiven, .daemon "127.0.0.1" 56789 behind⟩) ∧
      behind.view = ⟨⟨"b.jar", some "/jdk"⟩, false⟩ := by
  have hresolve : resolveAsGiven "127.0.0.1" 56789 = .ok ("127.0.0.1", 56789) := rfl
  obtain ⟨behind, hrun, hview⟩ := Client.performAll_eq_run ⟨"127.0.0.1", 56789⟩
    (sampleDaemon (.ofNat 30)) ⟨"a.jar", none⟩ hresolve rfl rfl (Toolchain.onlyUnavailable_only _ _)
    (Toolchain.onlyWritable_only isWritable_sampleCompile) (by decide +kernel) sampleCalls
    (by decide)
  exact ⟨behind, hrun, hview⟩

/-- Without a time limit that can be set this fails: a daemon whose time limit is minus one second
does not reply to a lint, although no compiler fails. -/
theorem Client.not_forall_performAll_eq_run :
    ¬ ∀ (c : Client) (d : RunningDaemon) (settings : SessionSettings),
      d.session = (Session.start d.toolchain settings).session → d.alive = true →
      d.toolchain.OnlyUnavailable → d.toolchain.OnlyWritable →
      ∀ calls : List ClientCall, (∀ call ∈ calls, call.IsSendable) →
        (c.performAll ⟨resolveAsGiven, .daemon c.host c.port d⟩ calls).1 =
          (AbstractDaemon.run d.toolchain ⟨settings, true⟩ calls).1 := by
  intro h
  have hresults := h ⟨"127.0.0.1", 56789⟩ (sampleDaemon (.finite true 1 0)) ⟨"a.jar", none⟩ rfl rfl
    (Toolchain.onlyUnavailable_only _ _) (Toolchain.onlyWritable_only isWritable_sampleCompile)
    [.lint "Bar" "class Bar {}"] (by decide)
  have hfails := congrArg (List.map fun result => (result.map fun _ => ()).toBool) hresults
  revert hfails
  decide +kernel

end LintDaemon
