import LintDaemon.Proofs.Daemon.Endings

/-!
# What a server leaves when it stops serving

* `Server.listenerFor?`: the listener with which a server serves, its own or the one it binds.
* `Server.endWith`: how a run with a listener ends.
* `Server.serve_cases`: how serving ends and what it leaves, with a listener and without.
* `Server.acceptFault?`: the fault with which accepting fails in a run, if it does.
* `Server.Releases`: a run has closed its listener and given it up, and does not go on.
* `Server.serve_releases_iff`: a run that ends releases its listener exactly if accepting does not
  fail.
* `StopPoint`: when a stop is asked for of a server that has a listener.
* `StopPoint.isHonoured_run`: once a server serves it honours every stop, unless the client that it
  serves keeps it for ever.
* `StopPoint.run_beforeServing`: a stop that is asked for before that closes the listener, and the
  server sets out all the same.

Nothing is asked of the toolchain and of the time limit for reading. A time limit of zero is none,
and then a client that is silent too early keeps the server (`Connection.isEndless_serve_iff`).
-/

namespace LintDaemon

namespace Server

/-! ## Runs by the listener with which they begin -/

/-- The listener with which a server serves: its own, or the one it binds. -/
def listenerFor? (s : Server) (binding : Binding) : Option Listener :=
  s.listener.or <|
    match binding with
    | .bound freePort => some ⟨s.host, if s.port = 0 then freePort else s.port, true⟩
    | _ => none

/-- How a run with a listener ends: accepting fails if the listener has been closed already, and
else what arrives settles it. -/
def endWith (s : Server) (l : Listener) (arrivals : List Arrival) : End :=
  if l.isOpen then endOf { s with listener := some l, running := true } arrivals
  else .failed .badDescriptor

/-- A run of a server with a listener. -/
theorem run_left (s : Server) (l : Listener) (arrivals : List Arrival) :
    let run := run { s with listener := some l } arrivals
    run.finish = s.endWith l arrivals ∧
      (run.finish ≠ .endless →
        run.server = leftBehind { s with listener := some l, running := true } run.finish
          run.server.session ∧
        run.dropped = givenUp { s with listener := some l } run.finish) ∧
      (run.finish = .endless → run.dropped = none) := by
  unfold endWith
  cases hopen : l.isOpen with
  | true =>
    have hrun : run { s with listener := some l } arrivals =
        serveArrivals { s with listener := some l, running := true } arrivals := by
      simp [run, isListening, hopen]
    rw [hrun]
    exact serveArrivals_left { s with listener := some l, running := true } arrivals
  | false =>
    have hrun : run { s with listener := some l } arrivals =
        ⟨.failed .badDescriptor, { s with listener := some l, running := true }, [], [], none⟩ := by
      simp [run, isListening, hopen]
    rw [hrun]
    refine ⟨rfl, fun _ => ⟨rfl, rfl⟩, ?_⟩
    rintro ⟨⟩

/-- A server that cannot listen does not serve, and stays as it is. -/
theorem serve_of_not_bound {s : Server} {binding : Binding} (hlistener : s.listener = none)
    (hbinding : ∀ freePort, binding ≠ .bound freePort) (arrivals : List Arrival) :
    ∃ error, s.serve binding arrivals = ⟨.unbound error, s, [], [], none⟩ := by
  unfold serve
  rw [hlistener]
  cases binding with
  | bound freePort => exact absurd rfl (hbinding freePort)
  | portOutOfRange => exact ⟨_, rfl⟩
  | fault reported =>
    simp only [bind]
    split_ifs <;> exact ⟨_, rfl⟩

/-- **How serving ends and what it leaves**: a server that gets no listener stays as it is, and one
that gets a listener is left as a run with it leaves it. -/
theorem serve_cases (s : Server) (binding : Binding) (arrivals : List Arrival) :
    let run := s.serve binding arrivals
    (s.listenerFor? binding = none ∧ s.listener = none ∧ (∃ error, run.finish = .unbound error) ∧
      run.server = s ∧ run.dropped = none) ∨
    ∃ l, s.listenerFor? binding = some l ∧ run.finish = s.endWith l arrivals ∧
      (run.finish ≠ .endless →
        run.server = leftBehind { s with listener := some l, running := true } run.finish
          run.server.session ∧
        run.dropped = givenUp { s with listener := some l } run.finish) ∧
      (run.finish = .endless → run.dropped = none) := by
  cases hlistener : s.listener with
  | some l =>
    have hself : { s with listener := some l } = s := by
      rw [← hlistener]
    have hrun : s.serve binding arrivals = run { s with listener := some l } arrivals := by
      rw [hself]
      unfold serve
      rw [hlistener]
    rw [hrun]
    exact .inr ⟨l, by simp [listenerFor?, hlistener], s.run_left l arrivals⟩
  | none =>
    by_cases hbound : ∃ freePort, binding = .bound freePort
    · obtain ⟨freePort, rfl⟩ := hbound
      have hfor : s.listenerFor? (.bound freePort) =
          some ⟨s.host, if s.port = 0 then freePort else s.port, true⟩ := by
        simp [listenerFor?, hlistener]
      refine .inr ⟨_, hfor, ?_⟩
      unfold serve
      rw [hlistener]
      exact s.run_left _ arrivals
    · have hfor : s.listenerFor? binding = none := by
        cases binding with
        | bound freePort => exact absurd ⟨freePort, rfl⟩ hbound
        | _ => simp [listenerFor?, hlistener]
      obtain ⟨error, hrun⟩ :=
        serve_of_not_bound hlistener (fun freePort h => hbound ⟨freePort, h⟩) arrivals
      rw [hrun]
      exact .inl ⟨hfor, rfl, ⟨error, rfl⟩, rfl, rfl⟩

/-- The fault with which accepting fails in a run, if it does. -/
def acceptFault? (s : Server) (binding : Binding) (arrivals : List Arrival) : Option SystemFault :=
  match s.listenerFor? binding with
  | none => none
  | some l =>
    match s.endWith l arrivals with
    | .failed reported => some reported
    | _ => none

/-- Accepting fails with a fault exactly if the run ends with it. -/
theorem acceptFault?_eq_some_iff {s : Server} {binding : Binding} {arrivals : List Arrival}
    {reported : SystemFault} :
    s.acceptFault? binding arrivals = some reported ↔
      (s.serve binding arrivals).finish = .failed reported := by
  unfold acceptFault?
  rcases s.serve_cases binding arrivals with
    ⟨hnone, -, ⟨error, hfinish⟩, -, -⟩ | ⟨l, hsome, hfinish, -, -⟩
  · rw [hnone, hfinish]
    exact iff_of_false nofun nofun
  · rw [hsome, hfinish]
    dsimp only
    cases s.endWith l arrivals <;> simp

/-! ## Releasing the listener -/

/-- **A run releases its listener**: it has closed the one it had, if there was one, and given it
up, and the server is as one that has yet to listen. -/
structure Releases (s : Server) (listener? : Option Listener) (run : ServerRun) : Prop where
  /-- The listener has been closed. -/
  closed : run.dropped = listener?.map .closed
  /-- The server has no listener. -/
  dropped : run.server.listener = none
  /-- The server accepts no connection. -/
  stopped : run.server.running = false
  /-- The address is the one to listen at. -/
  address : run.server.address = (s.host, s.port)

/-- A run with a listener releases it unless accepting failed. -/
theorem releases_of_ne_failed {s : Server} {l : Listener} {run : ServerRun}
    (hfinish : ∀ cause, run.finish ≠ .failed cause)
    (hserver : run.server = leftBehind { s with listener := some l, running := true } run.finish
      run.server.session)
    (hdropped : run.dropped = givenUp { s with listener := some l } run.finish) :
    s.Releases (some l) run := by
  obtain ⟨hleft, -⟩ := leftBehind_of_ne_failed { s with listener := some l, running := true }
    run.server.session hfinish
  obtain ⟨-, hgiven⟩ := leftBehind_of_ne_failed { s with listener := some l }
    run.server.session hfinish
  refine ⟨hdropped.trans hgiven, ?_, ?_, ?_⟩ <;> rw [hserver, hleft]
  rfl

/-- A run in which accepting failed keeps the listener as it was, and the mark of a server that
accepts connections. -/
theorem kept_of_failed {s : Server} {l : Listener} {run : ServerRun} {cause : SystemFault}
    (hfinish : run.finish = .failed cause)
    (hserver : run.server = leftBehind { s with listener := some l, running := true } run.finish
      run.server.session)
    (hdropped : run.dropped = givenUp { s with listener := some l } run.finish) :
    run.dropped = none ∧ run.server.running = true ∧ run.server.listener = some l ∧
      run.server.address = (l.host, l.port) := by
  rw [hfinish] at hserver hdropped
  rw [hserver]
  exact ⟨hdropped, rfl, rfl, rfl⟩

/-- A server that does not run and could not listen has nothing to release. -/
theorem releases_of_unbound {s : Server} {run : ServerRun} (hidle : s.running = false)
    (hlistener : s.listener = none) (hserver : run.server = s) (hdropped : run.dropped = none) :
    s.Releases none run := by
  refine ⟨hdropped, ?_, ?_, ?_⟩ <;> rw [hserver]
  · exact hlistener
  · exact hidle
  · unfold address
    rw [hlistener]

/-- **A run that ends releases its listener exactly if accepting does not fail**, whatever arrives,
whether the server had its listener or was to bind it, and whether the run returned, was ended by a
request or could not begin. If accepting fails the server keeps the listener as it was, and still
has its address and the mark of one that accepts connections. A run that does not end gives up no
listener. -/
theorem serve_releases_iff (s : Server) (binding : Binding) (hidle : s.running = false)
    (arrivals : List Arrival) :
    let run := s.serve binding arrivals
    (s.Releases (s.listenerFor? binding) run ↔
      s.acceptFault? binding arrivals = none ∧ run.finish ≠ .endless) ∧
      (∀ reported, s.acceptFault? binding arrivals = some reported →
        run.finish = .failed reported ∧ run.dropped = none ∧ run.server.running = true ∧
          ∃ l, s.listenerFor? binding = some l ∧ run.server.listener = some l ∧
            run.server.address = (l.host, l.port)) ∧
      (run.finish = .endless → run.dropped = none) := by
  intro run
  have hfault : ∀ reported, s.acceptFault? binding arrivals = some reported →
      run.finish = .failed reported := fun _ => acceptFault?_eq_some_iff.mp
  rcases s.serve_cases binding arrivals with
    ⟨hnone, hlistener, ⟨error, hfinish⟩, hserver, hdropped⟩ | ⟨l, hsome, -, hended, hendless⟩
  · have haccepts : s.acceptFault? binding arrivals = none := by
      unfold acceptFault?
      rw [hnone]
    have hfinite : run.finish ≠ .endless := by
      rw [hfinish]
      nofun
    rw [hnone, haccepts]
    exact ⟨iff_of_true (releases_of_unbound hidle hlistener hserver hdropped) ⟨rfl, hfinite⟩, nofun,
      fun _ => hdropped⟩
  · have hkept : ∀ reported, s.acceptFault? binding arrivals = some reported →
        run.dropped = none ∧ run.server.running = true ∧ run.server.listener = some l ∧
          run.server.address = (l.host, l.port) := by
      intro reported haccepts
      have hfailed := hfault reported haccepts
      obtain ⟨hserver, hdropped⟩ := hended (by rw [hfailed]; nofun)
      exact kept_of_failed hfailed hserver hdropped
    rw [hsome]
    refine ⟨⟨fun hreleases => ⟨?_, fun h => ?_⟩, ?_⟩, ?_, hendless⟩
    · cases haccepts : s.acceptFault? binding arrivals with
      | none => rfl
      | some reported =>
        obtain ⟨-, -, hheld, -⟩ := hkept reported haccepts
        cases hheld.symm.trans hreleases.dropped
    · cases (hendless h).symm.trans hreleases.closed
    · rintro ⟨haccepts, hfinite⟩
      obtain ⟨hserver, hdropped⟩ := hended hfinite
      refine releases_of_ne_failed (fun reported hfailed => ?_) hserver hdropped
      cases haccepts.symm.trans (acceptFault?_eq_some_iff.mpr hfailed)
    · intro reported haccepts
      obtain ⟨hdropped, hrunning, hheld, haddress⟩ := hkept reported haccepts
      exact ⟨hfault reported haccepts, hdropped, hrunning, l, rfl, hheld, haddress⟩

/-- The sample server before it serves. -/
def idleSample : Server :=
  { sample with running := false }

/-- Neither what goes wrong in visits nor a request to shut down keeps the listener. -/
theorem serve_releases_iff_harmlessArrivals :
    idleSample.running = false ∧
      idleSample.Releases (some ⟨"127.0.0.1", 56789, true⟩)
        (idleSample.serve (.bound 40000)
          (harmlessArrivals ++ [shutdownArrival, .fault .badDescriptor])) := by
  have haccepts : idleSample.acceptFault? (.bound 40000)
      (harmlessArrivals ++ [shutdownArrival, .fault .badDescriptor]) = none := by decide +kernel
  have hfinite : (idleSample.serve (.bound 40000)
      (harmlessArrivals ++ [shutdownArrival, .fault .badDescriptor])).finish ≠ .endless := by
    decide +kernel
  exact ⟨rfl, (idleSample.serve_releases_iff (.bound 40000) rfl _).1.mpr ⟨haccepts, hfinite⟩⟩

/-- A server that has no descriptor left for a connection keeps its listener. -/
theorem not_forall_serve_releases : ¬ ∀ (s : Server) (binding : Binding) (arrivals : List Arrival),
    s.running = false →
      s.Releases (s.listenerFor? binding) (s.serve binding arrivals) := by
  intro h
  cases (h idleSample (.bound 40000) [.fault ⟨24, "Too many open files", none⟩] rfl).dropped

end Server

/-! ## Stops -/

/-- When a stop is asked for of a server that has a listener. -/
inductive StopPoint
  /-- Before the server serves. -/
  | beforeServing
  /-- While it waits for a connection, behind what has arrived. -/
  | waiting (before : List Arrival)
  /-- While it serves a client, behind what has arrived. -/
  | serving (before : List Arrival) (client : Connection)

namespace StopPoint

/-- What has arrived before the client in progress, if there is one. -/
def before : StopPoint → List Arrival
  | beforeServing => []
  | waiting before => before
  | serving before _ => before

/-- The client in progress. -/
def inProgress? : StopPoint → Option Connection
  | serving _ client => some client
  | _ => none

/-- The clients that are accepted before the stop. -/
def clients (p : StopPoint) : List Connection :=
  Arrival.clients p.before ++ p.inProgress?.toList

/-- A run of a server of which a stop is asked, and what arrives behind it. -/
def run (p : StopPoint) (s : Server) (binding : Binding) (behind : List Arrival) : ServerRun :=
  match p with
  | beforeServing => s.stop.serve binding behind
  | waiting before => s.serve binding (before ++ .stop :: behind)
  | serving before client => s.serve binding (before ++ .connection client true :: behind)

/-- A run gets to the stop: nothing before it ends the run, and no client keeps the server. -/
structure IsReached (p : StopPoint) (s : Server) : Prop where
  /-- Nothing ends the run. -/
  goesOn : ∀ a ∈ p.before, a.endingUnder s.readTimeout = none
  /-- No client keeps the server. -/
  endsAll : s.EndsAll (Arrival.clients p.before)

/-- How a run ends at a stop: it returns, unless the client in progress shuts the daemon down. -/
def ending (timeLimit : Binary64) : StopPoint → End
  | serving _ client => if client.ShutsDown timeLimit then .exited else .returned
  | _ => .returned

/-- **A stop is honoured**: the run ends after the client in progress, as it is to end, and leaves
the listener released. -/
structure IsHonoured (p : StopPoint) (s : Server) (binding : Binding) (behind : List Arrival)
    (finish : End) : Prop where
  /-- The run ends. -/
  finishes : (p.run s binding behind).finish = finish
  /-- The clients before the stop are served, the one in progress to its end, and no other. -/
  received : (p.run s binding behind).received = (s.visits p.clients).map (·.received)
  /-- The session is the one that these clients leave. -/
  session : (p.run s binding behind).server.session = s.sessionBehind p.clients
  /-- Nothing comes of what arrives behind the stop. -/
  final : p.run s binding behind = p.run s binding []
  /-- The listener is released. -/
  released : s.Releases s.listener (p.run s binding behind)

/-- **A stop is held up**: the client in progress keeps the server for ever. The listener is closed,
so that no other client is accepted, and stays with the server. -/
structure IsHeldUp (p : StopPoint) (s : Server) (binding : Binding) (behind : List Arrival) :
    Prop where
  /-- The run does not end. -/
  finishes : (p.run s binding behind).finish = .endless
  /-- The clients before the stop are served, the one in progress as far as it goes, and no
  other. -/
  received : (p.run s binding behind).received = (s.visits p.clients).map (·.received)
  /-- Nothing comes of what arrives behind the stop. -/
  final : p.run s binding behind = p.run s binding []
  /-- The listener has been closed, and is still there. -/
  closed : (p.run s binding behind).server.listener = s.listener.map .closed
  /-- It is not given up. -/
  kept : (p.run s binding behind).dropped = none
  /-- No connection is to be accepted. -/
  stopped : (p.run s binding behind).server.running = false

/-- Once a server serves, a stop is one more arrival, and one that ends the run. -/
theorem exists_arrival {p : StopPoint} (hserving : p ≠ .beforeServing) (timeLimit : Binary64) :
    ∃ e : Arrival, e.endingUnder timeLimit = some (p.ending timeLimit) ∧
      Arrival.clients (p.before ++ [e]) = p.clients ∧
      ∀ s binding behind, p.run s binding behind = s.serve binding (p.before ++ e :: behind) := by
  cases p with
  | beforeServing => exact absurd rfl hserving
  | waiting before =>
    exact ⟨.stop, rfl, Arrival.clients_append before [.stop], fun _ _ _ => rfl⟩
  | serving before client =>
    refine ⟨.connection client true, ?_, Arrival.clients_append before [.connection client true],
      fun _ _ _ => rfl⟩
    simp only [Arrival.endingUnder, ending, if_true]
    split_ifs <;> rfl

section

variable {s : Server} {l : Listener} (hlistener : s.listener = some l) (hopen : l.isOpen = true)
  {p : StopPoint} (hreached : p.IsReached s) (binding : Binding) (behind : List Arrival)

/-- Whether all clients are served to their ends does not depend on whether the server is to go
on. -/
theorem endsAll_running {cs : List Connection} :
    Server.EndsAll { s with running := true } cs ↔ s.EndsAll cs := by
  unfold Server.EndsAll
  rw [Server.visits_running]

include hlistener hopen hreached

/-- A stop is honoured if the client in progress does not keep the server. -/
theorem isHonoured_of_endsAll (hserving : p ≠ .beforeServing) (hends : s.EndsAll p.clients) :
    p.IsHonoured s binding behind (p.ending s.readTimeout) := by
  obtain ⟨e, hending, hclients, hrun⟩ := exists_arrival hserving s.readTimeout
  have hne : ∀ cause, p.ending s.readTimeout ≠ .failed cause := by
    intro cause
    unfold ending
    split
    · split_ifs <;> nofun
    · nofun
  have hserved : ∀ behind, p.run s binding behind =
      Server.serveArrivals { s with running := true } (p.before ++ e :: behind) := fun behind =>
    (hrun s binding behind).trans (Server.serve_of_listener hlistener hopen binding _)
  have hlast : Server.EndsAll { s with running := true } (Arrival.clients (p.before ++ [e])) :=
    endsAll_running.mpr (hclients ▸ hends)
  have hfirst := fun behind => (hserved behind).trans
    (Server.serveArrivals_first (s := { s with running := true }) hreached.goesOn
      (endsAll_running.mpr hreached.endsAll) hending hlast behind)
  simp only [hclients, Server.visits_running] at hfirst
  refine ⟨?_, ?_, ?_, ?_, ?_⟩
  · rw [hfirst]
  · rw [hfirst]
  · rw [hfirst, Server.leftBehind_session]
    rfl
  · rw [hfirst, hfirst]
  · rw [hlistener]
    refine Server.releases_of_ne_failed ?_ ?_ ?_
    · rw [hfirst]
      exact hne
    · rw [hfirst, Server.leftBehind_session, ← hlistener]
    · rw [hfirst, ← hlistener]
      rfl

/-- A stop is held up if the client in progress keeps the server. -/
theorem isHeldUp_of_not_endsAll (hserving : p ≠ .beforeServing) (hendless : ¬ s.EndsAll p.clients) :
    p.IsHeldUp s binding behind := by
  cases p with
  | beforeServing => exact absurd rfl hserving
  | waiting before =>
    have hclients : clients (.waiting before) = Arrival.clients before := List.append_nil _
    exact absurd (hclients ▸ hreached.endsAll) hendless
  | serving before client =>
    have hclients : Arrival.clients (before ++ [.connection client true]) =
        clients (.serving before client) :=
      Arrival.clients_append before [.connection client true]
    have hserved : ∀ behind, run (.serving before client) s binding behind =
        Server.serveArrivals { s with running := true }
          (before ++ .connection client true :: behind) := fun behind =>
      Server.serve_of_listener hlistener hopen binding _
    have hlast : ¬ Server.EndsAll { s with running := true }
        (Arrival.clients (before ++ [.connection client true])) := by
      rw [endsAll_running, hclients]
      exact hendless
    have hgoesOn : ∀ a ∈ before, a.endingUnder s.readTimeout = none := hreached.goesOn
    have hfirst := fun behind => (hserved behind).trans
      (Server.serveArrivals_first_kept (s := { s with running := true }) hgoesOn
        (endsAll_running.mpr hreached.endsAll) hlast behind)
    simp only [hclients, Server.visits_running] at hfirst
    refine ⟨?_, ?_, ?_, ?_, ?_, ?_⟩
    · rw [hfirst]
    · rw [hfirst]
    · rw [hfirst, hfirst]
    · rw [hfirst]
      rfl
    · rw [hfirst]
    · rw [hfirst]
      rfl

end

/-- **Once a server serves, it honours every stop**, whether it waits for a connection or serves
one, whatever has arrived and whatever is to come: it finishes the client in progress, if there is
one, accepts no other, releases its listener, and returns, or exits if that client shuts it down.
Only a client that keeps the server for ever holds a stop up; the listener is closed all the
same. -/
theorem isHonoured_run (s : Server) {l : Listener} (hlistener : s.listener = some l)
    (hopen : l.isOpen = true) (p : StopPoint) (hserving : p ≠ .beforeServing)
    (hreached : p.IsReached s) (binding : Binding) (behind : List Arrival) :
    (s.EndsAll p.clients → p.IsHonoured s binding behind (p.ending s.readTimeout)) ∧
      (¬ s.EndsAll p.clients → p.IsHeldUp s binding behind) :=
  ⟨isHonoured_of_endsAll hlistener hopen hreached binding behind hserving,
    isHeldUp_of_not_endsAll hlistener hopen hreached binding behind hserving⟩

/-- A client that asks for diagnostics. -/
def askingClient : Connection :=
  ⟨Text.Utf8.encode "LINT\tBar\nclass Bar {}\nEND\n".toList, .silent, .whole⟩

/-- A client that asks the daemon to shut down. -/
def leavingClient : Connection :=
  ⟨Text.Utf8.encode "KILL\n".toList, .silent, .whole⟩

/-- A client that is silent in the middle of a line. -/
def silentClient : Connection :=
  ⟨Text.Utf8.encode "LINT\tBar".toList, .silent, .whole⟩

/-- The sample server without a time limit. -/
def patientSample : Server :=
  { Server.listeningSample with readTimeout := .zero false }

/-- A stop while the first client is served is reached. -/
theorem isReached_first (client : Connection) (s : Server) : IsReached (.serving [] client) s :=
  ⟨List.forall_mem_nil _, List.forall_mem_nil _⟩

/-- Whatever went wrong before, a client that asks for diagnostics gets them before the run returns,
and a request to shut down behind the stop is not met. Without a time limit a client that is silent
too early holds the stop up. -/
theorem isHonoured_run_harmlessArrivals :
    IsReached (.serving Server.harmlessArrivals askingClient) Server.listeningSample ∧
      IsHonoured (.serving Server.harmlessArrivals askingClient) Server.listeningSample
        .portOutOfRange [Server.shutdownArrival] .returned ∧
      IsReached (.serving [] silentClient) patientSample ∧
      IsHeldUp (.serving [] silentClient) patientSample .portOutOfRange
        [Server.shutdownArrival] := by
  have hends : ∀ cs, Server.listeningSample.EndsAll cs :=
    Server.endsAll_of_isZero_eq_false (by decide +kernel)
  have hreached : IsReached (.serving Server.harmlessArrivals askingClient)
      Server.listeningSample := by
    refine ⟨?_, hends _⟩
    decide +kernel
  have hending : ending Server.listeningSample.readTimeout
      (.serving Server.harmlessArrivals askingClient) = .returned := by decide +kernel
  have hkept : ¬ patientSample.EndsAll (clients (.serving [] silentClient)) :=
    Server.any_isEndless_iff.mp (by decide +kernel)
  have hfirst := isReached_first silentClient patientSample
  refine ⟨hreached, ?_, hfirst, ?_⟩
  · rw [← hending]
    exact (isHonoured_run Server.listeningSample rfl rfl _ (by nofun) hreached .portOutOfRange
      _).1 (hends _)
  · exact (isHonoured_run patientSample rfl rfl _ (by nofun) hfirst .portOutOfRange _).2 hkept

/-- A server that is stopped before it serves sets out with its closed listener, and accepting
fails at once. -/
theorem run_beforeServing {s : Server} {l : Listener} (hlistener : s.listener = some l)
    (binding : Binding) (behind : List Arrival) :
    run .beforeServing s binding behind =
      ⟨.failed .badDescriptor, { s with running := true, listener := some l.closed }, [], [],
        none⟩ := by
  have hstopped : s.stop = { s with running := false, listener := some l.closed } := by
    unfold Server.stop
    rw [hlistener]
    rfl
  unfold run
  dsimp only
  rw [hstopped]
  rfl

/-- Neither a stop while a request to shut down is served makes a run return, nor one before the
server serves, nor, without a time limit, one while a client is silent too early. -/
theorem not_isHonoured_returned :
    Server.listeningSample.listener = some ⟨"127.0.0.1", 56789, true⟩ ∧
      IsReached (.serving [] leavingClient) Server.listeningSample ∧
      IsReached (.serving [] silentClient) patientSample ∧
      ¬ IsHonoured (.serving [] leavingClient) Server.listeningSample .portOutOfRange [] .returned ∧
      ¬ IsHonoured .beforeServing Server.listeningSample .portOutOfRange [] .returned ∧
      ¬ IsHonoured (.serving [] silentClient) patientSample .portOutOfRange [] .returned := by
  refine ⟨rfl, isReached_first _ _, isReached_first _ _, fun h => ?_, fun h => ?_, fun h => ?_⟩
  · have hfinish : (run (.serving [] leavingClient) Server.listeningSample .portOutOfRange
        []).finish = .exited := by decide +kernel
    cases hfinish.symm.trans h.finishes
  · have hrun := run_beforeServing (s := Server.listeningSample) rfl .portOutOfRange []
    cases (congrArg ServerRun.finish hrun).symm.trans h.finishes
  · have hfinish : (run (.serving [] silentClient) patientSample .portOutOfRange []).finish =
        .endless := by decide +kernel
    cases hfinish.symm.trans h.finishes

end StopPoint

end LintDaemon
