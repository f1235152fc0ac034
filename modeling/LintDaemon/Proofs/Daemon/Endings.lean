import LintDaemon.Daemon.Startup
import LintDaemon.Proofs.Daemon.History

/-!
# What ends a server

* `Arrival.ending?`: what arrives at a server either ends it, in one of three ways, or does not.
  `Arrival.endingUnder timeLimit` says so for a time limit under which no request may be heard.
* `Server.serveArrivals_ending`: what comes of the arrival that ends a run.
* `Server.serveArrivals_kept`: what comes of the arrival whose client keeps the server for ever.
* `Connection.LogsFaultsOnce`: each thing that goes wrong during a visit is logged once.
* `Server.endOf`, `Server.serveArrivals_left`: how a run ends and what it leaves of its server,
  whatever arrives.
* `Server.serve_ends`: a run goes on up to the first arrival that ends it or that keeps the server,
  and no further.

Nothing is asked of the toolchain and of its compilers, and nothing of what connections carry: a
request that cannot be read, one that comes too late, a reply that cannot be written, a compiler
that fails and an installation that cannot be looked up are all among the arrivals that do not end
a run. Who keeps the server is told by `Connection.isEndless_serve_iff`: without a time limit, a
client that is silent too early or does not take its reply.
-/

namespace LintDaemon

namespace Arrival

/-- The client of an arrival, if there is one. -/
def client? : Arrival → Option Connection
  | .connection c _ => some c
  | .stop => none
  | .fault _ => none

/-- The clients of arrivals, in their order. -/
def clients (arrivals : List Arrival) : List Connection :=
  arrivals.filterMap client?

/-- How an arrival ends a run, if it does. -/
def ending? : Arrival → Option End
  | .connection c stopMeanwhile =>
    if c.request? = some .kill then some .exited
    else if stopMeanwhile then some .returned else none
  | .stop => some .returned
  | .fault reported => some (.failed reported)

/-- How an arrival ends a run under a time limit for reading, if it does. Under one that cannot be
set no request is heard, and so none shuts the daemon down. -/
def endingUnder (timeLimit : Binary64) : Arrival → Option End
  | .connection c stopMeanwhile =>
    if c.ShutsDown timeLimit then some .exited
    else if stopMeanwhile then some .returned else none
  | .stop => some .returned
  | .fault reported => some (.failed reported)

/-- Under a time limit that can be set all requests are heard. -/
theorem endingUnder_eq {timeLimit : Binary64} (htime : timeLimitError? timeLimit = none)
    (a : Arrival) : a.endingUnder timeLimit = a.ending? := by
  cases a with
  | stop => rfl
  | fault reported => rfl
  | connection c stopMeanwhile =>
    have hkill : c.ShutsDown timeLimit ↔ c.request? = some .kill := and_iff_right htime
    simp only [endingUnder, ending?, hkill]

/-- An arrival that does not end a run is a connection that does not shut the daemon down, during
which no stop is asked for. -/
theorem exists_connection_of_endingUnder_eq_none {timeLimit : Binary64} {a : Arrival}
    (h : a.endingUnder timeLimit = none) :
    ∃ c, a = .connection c false ∧ ¬ c.ShutsDown timeLimit := by
  cases a with
  | stop => cases h
  | fault _ => cases h
  | connection c stopMeanwhile =>
    simp only [endingUnder] at h
    split_ifs at h with hkill hstop
    obtain rfl : stopMeanwhile = false := by simpa using hstop
    exact ⟨c, rfl, hkill⟩

/-- No arrival ends a run by not ending it. -/
theorem endingUnder_ne_endless (timeLimit : Binary64) (a : Arrival) :
    a.endingUnder timeLimit ≠ some .endless := by
  cases a with
  | stop => nofun
  | fault _ => nofun
  | connection c stopMeanwhile =>
    simp only [endingUnder]
    split_ifs <;> nofun

/-- Arrivals that do not end a run are connections that do not shut the daemon down. -/
theorem eq_map_clients {timeLimit : Binary64} {arrivals : List Arrival}
    (h : ∀ a ∈ arrivals, a.endingUnder timeLimit = none) :
    arrivals = (clients arrivals).map (.connection · false) ∧
      ∀ c ∈ clients arrivals, ¬ c.ShutsDown timeLimit := by
  induction arrivals with
  | nil => exact ⟨rfl, List.forall_mem_nil _⟩
  | cons a rest ih =>
    obtain ⟨ha, hrest⟩ := List.forall_mem_cons.mp h
    obtain ⟨c, rfl, hc⟩ := exists_connection_of_endingUnder_eq_none ha
    obtain ⟨heq, hclients⟩ := ih hrest
    exact ⟨congrArg (.connection c false :: ·) heq, List.forall_mem_cons.mpr ⟨hc, hclients⟩⟩

/-- The clients of arrivals put together. -/
theorem clients_append (first second : List Arrival) :
    clients (first ++ second) = clients first ++ clients second :=
  List.filterMap_append

end Arrival

/-! ## What is logged of what goes wrong -/

/-- The messages among events that tell of failures. -/
def Event.failures (events : List Event) : List String :=
  events.filterMap fun
    | .logged ⟨.error, message⟩ => some message
    | _ => none

/-- The failures among events put together. -/
@[simp] theorem Event.failures_append (first second : List Event) :
    Event.failures (first ++ second) = Event.failures first ++ Event.failures second :=
  List.filterMap_append

/-- A log that lets nothing of the level of errors through tells of no failure. -/
theorem Event.failures_visibleEvents {threshold : Nat} (h : LogLevel.error.rank < threshold)
    (events : List Event) : Event.failures (Startup.visibleEvents threshold events) = [] := by
  unfold Event.failures Startup.visibleEvents
  rw [List.filterMap_eq_nil_iff]
  intro event hevent
  have hvisible := (List.mem_filter.mp hevent).2
  cases event with
  | compiled call invocation => rfl
  | logged entry =>
    obtain ⟨level, message⟩ := entry
    cases level with
    | error => exact absurd (of_decide_eq_true hvisible) (Nat.not_le.mpr h)
    | _ => rfl

/-- The failures that the compiler in use logs itself while a request is carried out. -/
def Session.compilerFailures (s : Session) : Option Request → List String
  | some (.lint name body) =>
    match s.compiler with
    | none => []
    | some compiler =>
      Event.failures ((compiler.compile ⟨name, body⟩ s.compileOptions).log.map .logged)
  | _ => []

/-- **Each thing that goes wrong during a visit is logged once.** -/
structure Connection.LogsFaultsOnce (c : Connection) (s : Session) (toolchain : Toolchain)
    (served : Served) : Prop where
  /-- A visit that fails logs its failure once, besides what the compiler logs. -/
  failed : ∀ e, served.result = .ended (.error e) →
    Event.failures (Server.visitEvents served) =
      s.compilerFailures c.request? ++ ["Error handling client: " ++ e.message]
  /-- A visit that succeeds, or that does not end, logs no failure. -/
  otherwise : (∀ e, served.result ≠ .ended (.error e)) →
    Event.failures (Server.visitEvents served) = s.compilerFailures c.request?
  /-- A connection that breaks before its request is complete is a failure of the visit. -/
  unread : ∀ fault, c.readFault? = some fault → served.result = .ended (.error (.read fault))
  /-- A compiler that fails is a failure of the visit. -/
  compiler : ∀ name body compiler e, c.request? = some (.lint name body) →
    s.compiler = some compiler →
    (compiler.compile ⟨name, body⟩ s.compileOptions).result = .error e →
    served.result = .ended (.error (.request (.compile e)))
  /-- A search for a compiler that fails is a failure of the visit. -/
  search : ∀ home e, c.request? = some (.set Request.jdkProperty home) →
    toolchain (some home) = .error e → e.isUnavailable = false →
    served.result = .ended (.error (.request (.locate e)))
  /-- An installation without a compiler is none, and is told of once. -/
  unavailable : ∀ home e, c.request? = some (.set Request.jdkProperty home) →
    toolchain (some home) = .error e → e.isUnavailable = true →
    served.result = .ended (.ok .silent) ∧
      Server.visitEvents served =
        [.log .warning (Session.noCompilerMessage ++ " (" ++ e.message ++ ")"),
          .log .warning ("Wrong JDK path: " ++ home)]
  /-- A reply that cannot be written is a failure of the visit. -/
  unwritten : ∀ r reply fault, c.request? = some r →
    (s.dispatch toolchain r).result = .ok reply → reply.line.isSome →
    c.reception = .gone fault → served.result.isEndless = false →
    served.result = .ended (.error (.reply fault))
  /-- A reply that is not taken is a failure of the visit. -/
  untaken : ∀ r reply count, c.request? = some r →
    (s.dispatch toolchain r).result = .ok reply → c.reception = .upTo count →
    count < reply.text.length → served.result.isEndless = false →
    served.result = .ended (.error .replyTimedOut)
  /-- A request that breaks off or comes too late is told of once. -/
  malformed : ∀ header fault, c.request? = some (.malformed header fault) →
    served.result.isEndless = false →
    served.events =
      [.log .warning ("Malformed request " ++ Text.quote header ++ ": " ++ fault.message)]

namespace Session

variable {toolchain : Toolchain}

/-- Looking for the compiler logs no failure. -/
theorem failures_findCompiler (s : Session) :
    Event.failures (s.findCompiler toolchain).events = [] := by
  unfold findCompiler
  split
  · rfl
  · split <;> rfl

/-- Setting the installation logs no failure. -/
theorem failures_setJdk (s : Session) (home : String) :
    Event.failures (s.setJdk toolchain home).events = [] := by
  have h : Event.failures (findCompiler { s with jdkHome := some home } toolchain).events = [] :=
    failures_findCompiler { s with jdkHome := some home }
  unfold setJdk
  dsimp only
  split
  · rw [Event.failures_append, h]
    rfl
  · exact h

/-- A lint logs the failures that the compiler logs. -/
theorem failures_lint (s : Session) (name body : String) :
    Event.failures (s.lint ⟨name, body⟩).events = s.compilerFailures (some (.lint name body)) := by
  have hcompile : Event.failures (s.compile ⟨name, body⟩).2 =
      s.compilerFailures (some (.lint name body)) := by
    unfold compile compilerFailures
    cases s.compiler <;> rfl
  unfold lint
  dsimp only
  cases (s.compile ⟨name, body⟩).1 with
  | error e => exact hcompile
  | ok diagnostics =>
    rw [Event.failures_append, hcompile]
    exact List.append_nil _

/-- A request logs the failures that the compiler logs, and no others. -/
theorem failures_dispatch (s : Session) (r : Request) :
    Event.failures (s.dispatch toolchain r).events = s.compilerFailures (some r) := by
  cases r with
  | lint name body => exact s.failures_lint name body
  | set property value =>
    rw [dispatch, set]
    split_ifs
    · rfl
    · exact failures_setJdk _ value
    · rfl
  | kill => rfl
  | unknown header => rfl
  | malformed header fault => rfl

/-- A lint fails if the compiler does. -/
theorem dispatch_lint_of_error {s : Session} {name body : String} {compiler : Compiler}
    {e : CompileError} (hcompiler : s.compiler = some compiler)
    (h : (compiler.compile ⟨name, body⟩ s.compileOptions).result = .error e) :
    (s.dispatch toolchain (.lint name body)).result = .error (.compile e) := by
  have hcompile : (s.compile ⟨name, body⟩).1 = .error e := by
    unfold compile
    rw [hcompiler]
    exact h
  rw [dispatch, lint_result, hcompile]

/-- Setting an installation fails if the search for its compiler does. -/
theorem dispatch_setJdk_of_error {s : Session} {home : String} {e : LocateError}
    (h : toolchain (some home) = .error e) (he : e.isUnavailable = false) :
    (s.dispatch toolchain (.set Request.jdkProperty home)).result = .error (.locate e) := by
  have hne : Request.jdkProperty ≠ Request.classpathProperty := by decide
  simp [dispatch, set, hne, setJdk, findCompiler, h, he, Except.map]

/-- An installation without a compiler can be set, and is told of in two messages. -/
theorem dispatch_setJdk_of_unavailable {s : Session} {home : String} {e : LocateError}
    (h : toolchain (some home) = .error e) (he : e.isUnavailable = true) :
    (s.dispatch toolchain (.set Request.jdkProperty home)).result = .ok .silent ∧
      (s.dispatch toolchain (.set Request.jdkProperty home)).events =
        [.log .warning (noCompilerMessage ++ " (" ++ e.message ++ ")"),
          .log .warning ("Wrong JDK path: " ++ home)] := by
  have hne : Request.jdkProperty ≠ Request.classpathProperty := by decide
  constructor <;> simp [dispatch, set, hne, setJdk, findCompiler, h, he, Except.map]

end Session

namespace Connection

variable {toolchain : Toolchain} {timeLimit : Binary64}
  (htime : timeLimitError? timeLimit = none) (c : Connection) (s : Session)

include htime in
/-- Serving a connection logs the failures that the compiler logs. -/
theorem failures_serve :
    Event.failures (c.serve s toolchain timeLimit).events = s.compilerFailures c.request? := by
  rcases serve_cases htime c s toolchain with
    ⟨hawaited, hserve⟩ | ⟨fault, hfault, hserve⟩ | ⟨-, hnone, hserve⟩ | ⟨r, hrequest, hawaited⟩
  · obtain ⟨header, fault, hmalformed⟩ := exists_malformed_of_isAwaited hawaited
    rw [hserve, hmalformed]
    rfl
  · rw [hserve, request?_of_readFault? hfault]
    rfl
  · rw [hserve, hnone]
    rfl
  · rw [(serve_of_request?_some htime hawaited hrequest).2, hrequest, Session.failures_dispatch]

include htime in
/-- A client that is served to its end is not waited for without end. -/
theorem isAwaited_of_ended {c : Connection} {s : Session}
    (h : (c.serve s toolchain timeLimit).result.isEndless = false) :
    c.isAwaited timeLimit = false := by
  rw [Bool.eq_false_iff]
  intro hawaited
  rw [serve_of_isAwaited htime hawaited] at h
  cases h

include htime in
/-- Every visit logs what goes wrong once. -/
theorem logsFaultsOnce_serve :
    c.LogsFaultsOnce s toolchain (c.serve s toolchain timeLimit) where
  failed e he := by
    rw [Server.visitEvents, Event.failures_append, failures_serve htime, he]
    rfl
  otherwise h := by
    have hnone : Server.failureEvents (c.serve s toolchain timeLimit).result = [] := by
      unfold Server.failureEvents
      split
      · next e he => exact absurd he (h e)
      · rfl
      · rfl
    rw [Server.visitEvents, Event.failures_append, failures_serve htime, hnone]
    exact List.append_nil _
  unread fault hfault := by
    rw [serve_of_readFault? htime hfault]
    rfl
  compiler name body compiler e hrequest hcompiler he := by
    rw [serve_of_error htime (isAwaited_eq_false hrequest (by simp)) hrequest
      (Session.dispatch_lint_of_error hcompiler he)]
    rfl
  search home e hrequest he hsearch := by
    rw [serve_of_error htime (isAwaited_eq_false hrequest (by simp)) hrequest
      (Session.dispatch_setJdk_of_error he hsearch)]
    rfl
  unavailable home e hrequest he hunavailable := by
    obtain ⟨hresult, hevents⟩ := Session.dispatch_setJdk_of_unavailable (s := s) he hunavailable
    rw [serve_of_ok htime (isAwaited_eq_false hrequest (by simp)) hrequest hresult, hevents,
      send_of_line_none rfl]
    exact ⟨rfl, rfl⟩
  unwritten r reply fault hrequest hreply hline hgone hended := by
    obtain ⟨line, hline⟩ := Option.isSome_iff_exists.mp hline
    rw [serve_of_ok htime (isAwaited_of_ended htime hended) hrequest hreply]
    simp [Reply.send, hgone, hline]
  untaken r reply count hrequest hreply hcount hshort hended := by
    have hserve := serve_of_ok htime (isAwaited_of_ended htime hended) hrequest hreply
    rw [hserve, hcount] at hended ⊢
    exact send_of_lt hshort hended
  malformed header fault hrequest hended :=
    (serve_of_request?_some htime (isAwaited_of_ended htime hended) hrequest).2

end Connection

/-! ## The arrival that ends a run -/

namespace Server

/-- What happens when an arrival ends a run of a server. -/
def lastEvents (s : Server) : Arrival → List Event
  | .connection c stopMeanwhile =>
    let served := c.serve s.session s.toolchain s.readTimeout
    let notice := if stopMeanwhile then s.stopNotice.map .logged else []
    served.events ++ notice ++ failureEvents served.result ++
      stoppedEvents { s with session := served.session }
  | .stop => s.stopNotice.map .logged ++ s.stoppedEvents
  | .fault _ => []

/-- What a run leaves of a server: unless accepting failed it does not go on, and its listener is
given up. -/
def leftBehind (s : Server) (finish : End) (session : Session) : Server :=
  match finish with
  | .failed _ => { s with session := session }
  | _ => { s with session := session, running := false, listener := none }

/-- The listener that a run gives up: unless accepting failed that of its server, closed. -/
def givenUp (s : Server) : End → Option Listener
  | .failed _ => none
  | _ => s.listener.map .closed

/-- A run leaves the session with which it ended. -/
@[simp] theorem leftBehind_session (s : Server) (finish : End) (session : Session) :
    (s.leftBehind finish session).session = session := by
  cases finish <;> rfl

/-- Unless accepting failed the listener is closed and given up. -/
theorem leftBehind_of_ne_failed (s : Server) {finish : End} (session : Session)
    (h : ∀ cause, finish ≠ .failed cause) :
    s.leftBehind finish session =
        { s with session := session, running := false, listener := none } ∧
      s.givenUp finish = s.listener.map .closed := by
  cases finish with
  | failed cause => exact absurd rfl (h cause)
  | _ => exact ⟨rfl, rfl⟩

/-- A listener that has been closed by a stop can be closed again at the end of a run. -/
theorem close_stop (s : Server) (finish : End) (events : List Event)
    (received : List (Option String)) :
    s.stop.close finish events received = s.close finish events received := by
  have hclosed : s.stop.listener.map Listener.closed = s.listener.map Listener.closed := by
    cases h : s.listener <;> simp [stop, h, Listener.closed]
  unfold close
  rw [hclosed]
  rfl

/-- A client that keeps no server is served to its end. -/
theorem ended_of_endsAll {s : Server} {c : Connection} {stopMeanwhile : Bool}
    (h : s.EndsAll (Arrival.connection c stopMeanwhile).client?.toList) :
    (c.serve s.session s.toolchain s.readTimeout).result.isEndless = false :=
  h _ List.mem_cons_self

/-- **The arrival that ends a run**: its client is served, if it is one, and nothing behind it
is. -/
theorem serveArrivals_ending {s : Server} {e : Arrival} {finish : End}
    (h : e.endingUnder s.readTimeout = some finish) (hended : s.EndsAll e.client?.toList)
    (behind : List Arrival) :
    s.serveArrivals (e :: behind) =
      ⟨finish, s.leftBehind finish (s.sessionBehind e.client?.toList), s.lastEvents e,
        (s.visits e.client?.toList).map (·.received), s.givenUp finish⟩ := by
  cases e with
  | stop =>
    cases h
    exact s.close_stop _ _ _
  | fault cause =>
    cases h
    rfl
  | connection c stopMeanwhile =>
    have hvisit := ended_of_endsAll hended
    simp only [Arrival.endingUnder] at h
    split_ifs at h with hkill hstop
    · cases h
      have hends : endsDaemon (c.serve s.session s.toolchain s.readTimeout).result = true :=
        Connection.endsDaemon_serve_iff.mpr hkill
      rw [serveArrivals]
      simp only [hends, hvisit, Bool.false_eq_true, if_false, if_true]
      cases stopMeanwhile with
      | false => rfl
      | true => exact close_stop { s with session := _ } _ _ _
    · cases h
      subst hstop
      have hends : endsDaemon (c.serve s.session s.toolchain s.readTimeout).result = false :=
        Connection.endsDaemon_serve_of_not_shutsDown hkill
      rw [serveArrivals]
      simp only [hends, hvisit, Bool.false_eq_true, if_false, if_true]
      exact close_stop { s with session := _ } _ _ _

/-- What happens when a client keeps a server: its visit, and the notice of a stop that is asked for
meanwhile. -/
def keptEvents (s : Server) : Arrival → List Event
  | .connection c stopMeanwhile =>
    (c.serve s.session s.toolchain s.readTimeout).events ++
      if stopMeanwhile then s.stopNotice.map .logged else []
  | .stop | .fault _ => []

/-- A server that is kept: a stop that is asked for meanwhile closes its listener, and it keeps
it. -/
def keptBy (s : Server) (e : Arrival) : Server :=
  match e with
  | .connection _ true => s.stop
  | _ => s

/-- A server that is kept has the session it had. -/
@[simp] theorem keptBy_session (s : Server) (e : Arrival) : (s.keptBy e).session = s.session := by
  unfold keptBy
  split <;> rfl

/-- **The arrival whose client keeps the server**: nothing behind it is served, and the listener is
not given up. -/
theorem serveArrivals_kept {s : Server} {e : Arrival} (h : ¬ s.EndsAll e.client?.toList)
    (behind : List Arrival) :
    s.serveArrivals (e :: behind) =
      ⟨.endless, keptBy { s with session := s.sessionBehind e.client?.toList } e, s.keptEvents e,
        (s.visits e.client?.toList).map (·.received), none⟩ := by
  cases e with
  | stop => exact absurd (List.forall_mem_nil _) h
  | fault cause => exact absurd (List.forall_mem_nil _) h
  | connection c stopMeanwhile =>
    have hendless : (c.serve s.session s.toolchain s.readTimeout).result.isEndless = true :=
      eq_true_of_ne_false fun hended => h (List.forall_mem_singleton.mpr hended)
    have hrun := s.serveArrivals_endless c stopMeanwhile behind hendless
    dsimp only at hrun
    rw [hrun]
    cases stopMeanwhile <;> rfl

/-! ## A run -/

/-- Visits do not depend on whether the server is to go on. -/
theorem visits_running (s : Server) (running : Bool) (cs : List Connection) :
    visits { s with running := running } cs = s.visits cs := by
  induction cs generalizing s with
  | nil => rfl
  | cons c rest ih =>
    exact congrArg (_ :: ·)
      (ih { s with session := (c.serve s.session s.toolchain s.readTimeout).session })

/-- A server with an open listener serves what arrives. -/
theorem serve_of_listener {s : Server} {l : Listener} (hlistener : s.listener = some l)
    (hopen : l.isOpen = true) (binding : Binding) (arrivals : List Arrival) :
    s.serve binding arrivals = serveArrivals { s with running := true } arrivals := by
  unfold serve run
  simp [hlistener, isListening, hopen]

section

variable {s : Server} {before : List Arrival} {e : Arrival}
  (hbefore : ∀ a ∈ before, a.endingUnder s.readTimeout = none)
  (hended : s.EndsAll (Arrival.clients before))

/-- The clients of some arrivals and one more. -/
theorem clients_concat (before : List Arrival) (e : Arrival) :
    Arrival.clients (before ++ [e]) = Arrival.clients before ++ e.client?.toList := by
  rw [Arrival.clients_append]
  cases e <;> rfl

/-- Clients and one more are served to their ends if they are, and the one behind them is. -/
theorem endsAll_append {first second : List Connection} :
    s.EndsAll (first ++ second) ↔
      s.EndsAll first ∧ EndsAll { s with session := s.sessionBehind first } second := by
  unfold EndsAll
  rw [visits_append, List.forall_mem_append]

include hbefore hended

/-- Arrivals that neither end a run nor keep the server are served, and what is behind them is met
in the session they leave. -/
theorem serveArrivals_beyond (rest : List Arrival) :
    let run := serveArrivals { s with session := s.sessionBehind (Arrival.clients before) } rest
    s.serveArrivals (before ++ rest) =
      { run with
        events := (s.visits (Arrival.clients before)).flatMap visitEvents ++ run.events
        received := (s.visits (Arrival.clients before)).map (·.received) ++ run.received } := by
  obtain ⟨hclients, hkill⟩ := Arrival.eq_map_clients hbefore
  have hfirst := serveArrivals_connections (Arrival.clients before) hkill hended rest
  rw [← hclients] at hfirst
  exact hfirst

/-- **Arrivals that do not end a run are served, and then the one that ends it.** -/
theorem serveArrivals_first {finish : End} (hends : e.endingUnder s.readTimeout = some finish)
    (hlast : s.EndsAll (Arrival.clients (before ++ [e]))) (behind : List Arrival) :
    let cs := Arrival.clients (before ++ [e])
    s.serveArrivals (before ++ e :: behind) =
      ⟨finish, s.leftBehind finish (s.sessionBehind cs),
        (s.visits (Arrival.clients before)).flatMap visitEvents ++
          lastEvents { s with session := s.sessionBehind (Arrival.clients before) } e,
        (s.visits cs).map (·.received), s.givenUp finish⟩ := by
  rw [clients_concat, endsAll_append] at hlast
  have hfirst := serveArrivals_beyond hbefore hended (e :: behind)
  have hending := serveArrivals_ending
    (s := { s with session := s.sessionBehind (Arrival.clients before) }) hends hlast.2 behind
  dsimp only at hfirst ⊢
  rw [hfirst, hending, clients_concat, visits_append, List.map_append, sessionBehind_append]
  cases finish <;> rfl

/-- **Arrivals that do not end a run are served, and then the one whose client keeps the
server.** -/
theorem serveArrivals_first_kept (hlast : ¬ s.EndsAll (Arrival.clients (before ++ [e])))
    (behind : List Arrival) :
    let cs := Arrival.clients (before ++ [e])
    s.serveArrivals (before ++ e :: behind) =
      ⟨.endless, keptBy { s with session := s.sessionBehind cs } e,
        (s.visits (Arrival.clients before)).flatMap visitEvents ++
          keptEvents { s with session := s.sessionBehind (Arrival.clients before) } e,
        (s.visits cs).map (·.received), none⟩ := by
  rw [clients_concat, endsAll_append, and_iff_right hended] at hlast
  have hfirst := serveArrivals_beyond hbefore hended (e :: behind)
  have hkept := serveArrivals_kept
    (s := { s with session := s.sessionBehind (Arrival.clients before) }) hlast behind
  dsimp only at hfirst ⊢
  rw [hfirst, hkept, clients_concat, visits_append, List.map_append, sessionBehind_append]

end

/-- How a run ends: at the first arrival that ends it or whose client keeps the server; if there is
none, the stop behind them returns. -/
def endOf (s : Server) : List Arrival → End
  | [] => .returned
  | a :: rest =>
    if (s.visits a.client?.toList).any (·.result.isEndless) then .endless
    else
      match a.endingUnder s.readTimeout with
      | some finish => finish
      | none => endOf { s with session := s.sessionBehind a.client?.toList } rest

/-- Clients that keep a server can be found among their visits. -/
theorem any_isEndless_iff {s : Server} {cs : List Connection} :
    (s.visits cs).any (·.result.isEndless) = true ↔ ¬ s.EndsAll cs := by
  unfold EndsAll
  simp

/-- **How a run ends and what it leaves of its server**: unless a client keeps it the run leaves
what belongs to its end. -/
theorem serveArrivals_left (s : Server) (arrivals : List Arrival) :
    let run := s.serveArrivals arrivals
    run.finish = s.endOf arrivals ∧
      (run.finish ≠ .endless →
        run.server = s.leftBehind run.finish run.server.session ∧
          run.dropped = s.givenUp run.finish) ∧
      (run.finish = .endless → run.dropped = none) := by
  induction arrivals generalizing s with
  | nil =>
    have hrun : s.serveArrivals [] = _ := s.close_stop .returned (s.stopNotice.map .logged) []
    rw [hrun]
    exact ⟨rfl, fun _ => ⟨rfl, rfl⟩, nofun⟩
  | cons a rest ih =>
    rw [endOf]
    by_cases hkept : s.EndsAll a.client?.toList
    · rw [if_neg (mt any_isEndless_iff.mp (not_not_intro hkept))]
      cases hends : a.endingUnder s.readTimeout with
      | some finish =>
        rw [serveArrivals_ending hends hkept]
        refine ⟨rfl, fun _ => ⟨by rw [leftBehind_session], rfl⟩, fun hendless => ?_⟩
        exact absurd (hends.trans (congrArg some hendless)) (a.endingUnder_ne_endless _)
      | none =>
        obtain ⟨c, rfl, hc⟩ := Arrival.exists_connection_of_endingUnder_eq_none hends
        rw [serveArrivals_cons s c rest (Connection.endsDaemon_serve_of_not_shutsDown hc)
          (ended_of_endsAll hkept)]
        exact ih { s with session := _ }
    · rw [if_pos (any_isEndless_iff.mpr hkept), serveArrivals_kept hkept]
      exact ⟨rfl, fun h => absurd rfl h, fun _ => rfl⟩

/-- **A run ends at the first arrival that ends it.** A server with an open listener and a usable
time limit serves each connection up to there once, in their order, each in the session that the
ones before it left, and none behind it, as long as none of these clients keeps it. It exits if that
arrival is a request to shut down, returns if it is a stop, and fails with the fault of accepting
otherwise; and unless it fails its listener is closed and given up. The first client that keeps the
server is served last: the run does not end then, and the listener is not given up. Whatever went
wrong in the visits is logged once. -/
theorem serve_ends (s : Server) (binding : Binding) {l : Listener} (hlistener : s.listener = some l)
    (hopen : l.isOpen = true) (htime : timeLimitError? s.readTimeout = none)
    (before : List Arrival) (e : Arrival) (behind : List Arrival)
    (hbefore : ∀ a ∈ before, a.ending? = none) (hended : s.EndsAll (Arrival.clients before)) :
    let run := s.serve binding (before ++ e :: behind)
    let cs := Arrival.clients (before ++ [e])
    (∀ finish, e.ending? = some finish → s.EndsAll cs →
      run.finish = finish ∧
        run.received = (s.visits cs).map (·.received) ∧
        run.events = (s.visits (Arrival.clients before)).flatMap visitEvents ++
          lastEvents { s with session := s.sessionBehind (Arrival.clients before) } e ∧
        run.server.session = s.sessionBehind cs ∧
        ((∀ cause, finish ≠ .failed cause) →
          run.server.listener = none ∧ run.server.running = false ∧
            run.dropped = some l.closed)) ∧
    (¬ s.EndsAll cs →
      run.finish = .endless ∧
        run.received = (s.visits cs).map (·.received) ∧
        run.events = (s.visits (Arrival.clients before)).flatMap visitEvents ++
          keptEvents { s with session := s.sessionBehind (Arrival.clients before) } e ∧
        run.server.session = s.sessionBehind cs ∧ run.dropped = none) ∧
    ∀ (k : Nat) (c : Connection), cs[k]? = some c → ∃ served,
      (s.visits cs)[k]? = some served ∧
      served = c.serve (s.sessionBehind (cs.take k)) s.toolchain s.readTimeout ∧
      c.LogsFaultsOnce (s.sessionBehind (cs.take k)) s.toolchain served := by
  have hbefore : ∀ a ∈ before, a.endingUnder s.readTimeout = none := fun a ha =>
    (Arrival.endingUnder_eq htime a).trans (hbefore a ha)
  have hrunning : ∀ cs, EndsAll { s with running := true } cs ↔ s.EndsAll cs := by
    intro cs
    unfold EndsAll
    rw [visits_running]
  dsimp only
  rw [serve_of_listener hlistener hopen]
  refine ⟨?_, ?_, ?_⟩
  · intro finish hends hlast
    have hrun := serveArrivals_first (s := { s with running := true }) hbefore
      ((hrunning _).mpr hended) ((Arrival.endingUnder_eq htime e).trans hends)
      ((hrunning _).mpr hlast) behind
    simp only [visits_running] at hrun
    rw [hrun]
    refine ⟨rfl, rfl, ?_, leftBehind_session _ _ _, fun hne => ?_⟩
    · cases e <;> rfl
    · obtain ⟨hserver, hdropped⟩ := leftBehind_of_ne_failed { s with running := true }
        (s.sessionBehind (Arrival.clients (before ++ [e]))) hne
      have hclosed : s.listener.map Listener.closed = some l.closed := by rw [hlistener, Option.map]
      exact ⟨congrArg Server.listener hserver, congrArg Server.running hserver,
        hdropped.trans hclosed⟩
  · intro hlast
    have hrun := serveArrivals_first_kept (s := { s with running := true }) hbefore
      ((hrunning _).mpr hended) (mt (hrunning _).mp hlast) behind
    simp only [visits_running] at hrun
    rw [hrun]
    refine ⟨rfl, rfl, ?_, keptBy_session _ _, rfl⟩
    cases e <;> rfl
  · intro k c hc
    have hvisit := s.getElem?_visits (Arrival.clients (before ++ [e])) k
    rw [hc] at hvisit
    exact ⟨_, hvisit, rfl, c.logsFaultsOnce_serve htime _⟩

/-- The sample server while it listens. -/
def listeningSample : Server :=
  { sample with listener := some ⟨"127.0.0.1", 56789, true⟩ }

/-- An installation without a compiler, a reply to a client that has gone, a lint that breaks off,
one whose connection is reset, and one that the compiler refuses. -/
def harmlessArrivals : List Arrival :=
  [("SET\tJDK\t/none\n", ClientState.closed, Reception.gone .brokenPipe),
    ("HELP\n", .closed, .gone .brokenPipe), ("LINT\tBar\nEN", .silent, .whole),
    ("LINT\tBar\nEN", .broken ⟨104, "Connection reset by peer", none⟩, .gone .brokenPipe),
    ("SET\tJDK\t/jdk\n", .closed, .whole), ("LINT\tBar\nEND\n", .closed, .whole)].map
    fun (text, client, reception) =>
      .connection ⟨Text.Utf8.encode text.toList, client, reception⟩ false

/-- A request to shut down from a client that has gone. -/
def shutdownArrival : Arrival :=
  .connection ⟨Text.Utf8.encode "KILL\n".toList, .closed, .gone .brokenPipe⟩ false

/-- Whatever goes wrong, the server goes on up to the request to shut down, closes its listener,
and does not meet the fault behind it. -/
theorem serve_ends_harmlessArrivals :
    let run := listeningSample.serve .portOutOfRange
      (harmlessArrivals ++ shutdownArrival :: [.fault .badDescriptor])
    (∀ a ∈ harmlessArrivals, a.ending? = none) ∧
      listeningSample.EndsAll (Arrival.clients (harmlessArrivals ++ [shutdownArrival])) ∧
      shutdownArrival.ending? = some .exited ∧
      run.finish = .exited ∧ run.received.length = 7 ∧ run.server.listener = none ∧
      run.dropped = some ⟨"127.0.0.1", 56789, false⟩ ∧
      Event.failures run.events =
        ["Error handling client: [Errno 32] Broken pipe",
          "Error handling client: [Errno 104] Connection reset by peer",
          "Error handling client: embedded null byte"] := by
  have hbefore : ∀ a ∈ harmlessArrivals, a.ending? = none := by decide
  have hends : shutdownArrival.ending? = some .exited := by decide
  have hended : ∀ cs, listeningSample.EndsAll cs :=
    endsAll_of_isZero_eq_false (by decide +kernel)
  obtain ⟨hrun, -, -⟩ := listeningSample.serve_ends .portOutOfRange rfl rfl (by decide +kernel)
    harmlessArrivals shutdownArrival [.fault .badDescriptor] hbefore (hended _)
  obtain ⟨hfinish, hreceived, hevents, -, hclosed⟩ := hrun .exited hends (hended _)
  obtain ⟨hlistener, -, hdropped⟩ := hclosed nofun
  refine ⟨hbefore, hended _, hends, hfinish, ?_, hlistener, hdropped, ?_⟩
  · rw [hreceived]
    rfl
  · rw [hevents]
    rfl

/-- A client that is silent before it has sent anything. -/
def silentArrival : Arrival :=
  .connection ⟨[], .silent, .whole⟩ false

/-- Without a time limit a client that is silent too early keeps the server from a stop; and a
daemon that logs nothing below the highest level tells of no failure. -/
theorem not_forall_serve_ends :
    (¬ ∀ (s : Server) (binding : Binding) (l : Listener) (before : List Arrival) (e : Arrival)
      (behind : List Arrival) (finish : End), s.listener = some l → l.isOpen = true →
      timeLimitError? s.readTimeout = none → (∀ a ∈ before, a.ending? = none) →
      e.ending? = some finish → (s.serve binding (before ++ e :: behind)).finish = finish) ∧
    ∀ (m : Machine) (settings : Settings) (binding : Binding) (arrivals : List Arrival),
      settings.logLevel = "CRITICAL" →
        Event.failures (Startup.run m settings binding arrivals).events = [] := by
  constructor
  · intro h
    have hfinish := h { listeningSample with readTimeout := .zero false } .portOutOfRange
      ⟨"127.0.0.1", 56789, true⟩ [silentArrival] .stop [] .returned rfl rfl (by decide +kernel)
      (by decide) rfl
    revert hfinish
    decide +kernel
  · intro m settings binding arrivals hlevel
    have hthreshold : thresholdOfName? settings.logLevel = some 50 := by
      rw [hlevel]
      decide
    unfold Startup.run
    rw [hthreshold]
    exact Event.failures_visibleEvents (by decide) _

end Server

end LintDaemon
