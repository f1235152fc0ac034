import LintDaemon.Proofs.Daemon.Serving

/-!
# What a server remembers of the connections it has served

* `SessionSettings.after settings requests`: the class path and the installation in force behind
  requests, read off the requests alone: the value set last, or the one the session began with.
* `Session.after toolchain settings requests`: the session that belongs to them. Its compiler is
  what the toolchain answers for the installation in force, and its count is the number of lint
  requests.
* `Session.dispatch_after`: each request takes the session of the requests before it to the
  session of the requests with it, whether it succeeds or fails. This is the invariant of a run.
* `Request.call?`, `SessionSettings.lintAnswer`: the one call of a compiler that a request causes,
  and the text that its client receives.
* `Server.EndsAll`: serving each of some connections ends, so that none of them keeps the server.
* `Server.serveArrivals_connections`: such connections are served one after the other, whatever the
  toolchain does, as long as none of them shuts the server down.
* `Server.serveArrivals_history`: a server whose connections did not kill it goes on with exactly
  that session, or stays with the first of them whose serving does not end; and each lint called the
  compiler once, in the settings in force at its time.

The settings behind requests are not defined by running the session: `dispatch` occurs in the
statements only, so that a step that forgets or mixes up a setting would falsify them.
-/

namespace LintDaemon

/-! ## Requests and the settings they leave -/

namespace Request

/-- The value that a request gives to a property. -/
def valueFor? (property : String) : Request → Option String
  | .set p value => if p = property then some value else none
  | _ => none

/-- The value that requests give to a property last. -/
def lastValue? (property : String) (requests : List Request) : Option String :=
  (requests.filterMap (valueFor? property)).getLast?

/-- Whether a request asks for diagnostics. -/
def isLint : Request → Bool
  | .lint _ _ => true
  | _ => false

/-- One more request has the last word, if it sets the property. -/
theorem lastValue?_concat (property : String) (requests : List Request) (r : Request) :
    lastValue? property (requests ++ [r]) =
      (r.valueFor? property).or (lastValue? property requests) := by
  unfold lastValue?
  rw [List.filterMap_append, List.getLast?_append]
  cases h : r.valueFor? property <;> simp [h]

end Request

/-- The settings in force behind requests: those set last, or those from before. -/
def SessionSettings.after (settings : SessionSettings) (requests : List Request) :
    SessionSettings where
  classpath := (Request.lastValue? Request.classpathProperty requests).getD settings.classpath
  jdkHome := (Request.lastValue? Request.jdkProperty requests).or settings.jdkHome

/-- The session behind requests. -/
def Session.after (toolchain : Toolchain) (settings : SessionSettings) (requests : List Request) :
    Session where
  classpath := (settings.after requests).classpath
  jdkHome := (settings.after requests).jdkHome
  compiler := (toolchain (settings.after requests).jdkHome).toOption
  lintCount := requests.countP Request.isLint

section settings

variable (settings : SessionSettings) (requests : List Request)

/-- A request that sets neither property leaves the settings as they were. -/
theorem SessionSettings.after_concat_of_none {r : Request}
    (hclasspath : r.valueFor? Request.classpathProperty = none)
    (hjdk : r.valueFor? Request.jdkProperty = none) :
    settings.after (requests ++ [r]) = settings.after requests := by
  unfold SessionSettings.after
  rw [Request.lastValue?_concat, Request.lastValue?_concat, hclasspath, hjdk]
  rfl

/-- A class path that is set is in force, and the installation stays. -/
theorem SessionSettings.after_concat_classpath (value : String) :
    settings.after (requests ++ [.set Request.classpathProperty value]) =
      { settings.after requests with classpath := value } := by
  have hne : Request.classpathProperty ≠ Request.jdkProperty := by decide
  unfold SessionSettings.after
  rw [Request.lastValue?_concat, Request.lastValue?_concat]
  simp [Request.valueFor?, hne]

/-- An installation that is set is in force, and the class path stays. -/
theorem SessionSettings.after_concat_jdk (home : String) :
    settings.after (requests ++ [.set Request.jdkProperty home]) =
      { settings.after requests with jdkHome := some home } := by
  have hne : Request.jdkProperty ≠ Request.classpathProperty := by decide
  unfold SessionSettings.after
  rw [Request.lastValue?_concat, Request.lastValue?_concat]
  simp [Request.valueFor?, hne]

end settings

/-! ## Calls of compilers among events -/

/-- The calls among events put together. -/
@[simp] theorem Event.calls_append (first second : List Event) :
    Event.calls (first ++ second) = Event.calls first ++ Event.calls second :=
  List.filterMap_append

/-! ## One request -/

/-- A toolchain finds the compiler of an installation, or says that there is none. -/
def Toolchain.Answers (toolchain : Toolchain) (home : Option String) : Prop :=
  ∀ e, toolchain home = .error e → e.isUnavailable = true

/-- A toolchain never fails but by saying that there is no compiler. -/
def Toolchain.OnlyUnavailable (toolchain : Toolchain) : Prop :=
  ∀ home e, toolchain home = .error e → e.isUnavailable = true

/-- A toolchain with a compiler in one installation. -/
def Toolchain.only (home : String) (compile : SourceUnit → CompileOptions → Compilation) :
    Toolchain := fun h =>
  if h = some home then .ok ⟨"Javac(" ++ home ++ ")", h, compile⟩ else .error .noneFound

/-- In all other installations there is no compiler. -/
theorem Toolchain.onlyUnavailable_only (home : String)
    (compile : SourceUnit → CompileOptions → Compilation) :
    (Toolchain.only home compile).OnlyUnavailable := by
  intro h e he
  unfold only at he
  split_ifs at he
  cases he
  rfl

namespace Session

variable {toolchain : Toolchain}

/-- The compiler looked for is the answer of the toolchain, or none. -/
theorem findCompiler_session (s : Session) (h : toolchain.Answers s.jdkHome) :
    (s.findCompiler toolchain).session =
      { s with compiler := (toolchain s.jdkHome).toOption } := by
  unfold findCompiler
  cases hanswer : toolchain s.jdkHome with
  | ok compiler => rfl
  | error e => simp [h _ hanswer, Except.toOption]

/-- Looking for the compiler does not fail if the toolchain answers. -/
theorem findCompiler_result (s : Session) (h : toolchain.Answers s.jdkHome) :
    ∃ found, (s.findCompiler toolchain).result = .ok found := by
  unfold findCompiler
  cases hanswer : toolchain s.jdkHome with
  | ok compiler => exact ⟨true, rfl⟩
  | error e => exact ⟨false, by simp [h _ hanswer]⟩

/-- Looking for the compiler calls none. -/
theorem calls_findCompiler (s : Session) : Event.calls (s.findCompiler toolchain).events = [] := by
  unfold findCompiler
  split
  · rfl
  · split <;> rfl

/-- A new installation is recorded, and its compiler is the answer of the toolchain. -/
theorem setJdk_session (s : Session) (home : String) (h : toolchain.Answers (some home)) :
    (s.setJdk toolchain home).session =
      { s with jdkHome := some home, compiler := (toolchain (some home)).toOption } := by
  have hfind := findCompiler_session { s with jdkHome := some home } h
  unfold setJdk
  dsimp only
  split <;> exact hfind

/-- Setting the installation does not fail if the toolchain answers. -/
theorem setJdk_result (s : Session) (home : String) (h : toolchain.Answers (some home)) :
    ∃ found, (s.setJdk toolchain home).result = .ok found := by
  have hfind := findCompiler_result { s with jdkHome := some home } h
  unfold setJdk
  dsimp only
  split <;> exact hfind

/-- Setting the installation calls no compiler. -/
theorem calls_setJdk (s : Session) (home : String) :
    Event.calls (s.setJdk toolchain home).events = [] := by
  have h : Event.calls (findCompiler { s with jdkHome := some home } toolchain).events = [] :=
    calls_findCompiler { s with jdkHome := some home }
  unfold setJdk
  dsimp only
  split
  · rw [Event.calls_append, h]
    rfl
  · exact h

end Session

/-- The call of a compiler that a request causes by settings: a lint calls the compiler of the
installation, if there is one, and nothing else does. -/
def Request.call? (toolchain : Toolchain) (settings : SessionSettings) : Request → Option Call
  | .lint name body =>
    (toolchain settings.jdkHome).toOption.map fun compiler =>
      ⟨compiler.home, ⟨name, body⟩, ⟨settings.classpath, false, none⟩⟩
  | _ => none

/-- What the compiler of the installation says of a unit, or that there is none. -/
def SessionSettings.diagnose (toolchain : Toolchain) (settings : SessionSettings)
    (unit : SourceUnit) : Except CompileError (List Diagnostic) :=
  match toolchain settings.jdkHome with
  | .ok compiler => (compiler.compile unit ⟨settings.classpath, false, none⟩).result
  | .error _ => .ok Session.noCompilerDiagnostics

/-- The text that the client of a lint receives: the line that reports the diagnostics, and
nothing if there are none to be had or they cannot be written. -/
def SessionSettings.lintAnswer (toolchain : Toolchain) (settings : SessionSettings)
    (unit : SourceUnit) : String :=
  match settings.diagnose toolchain unit with
  | .ok diagnostics =>
    if Reply.isWritable diagnostics then Reply.diagnosticsLine diagnostics ++ "\n" else ""
  | .error _ => ""

namespace Session

variable {toolchain : Toolchain} (settings : SessionSettings) (requests : List Request)

/-- A unit compiled by the session behind requests: the call, and what the compiler says. -/
theorem compile_after (unit : SourceUnit) :
    ((Session.after toolchain settings requests).compile unit).1 =
        (settings.after requests).diagnose toolchain unit ∧
      Event.calls ((Session.after toolchain settings requests).compile unit).2 =
        ((Request.lint unit.name unit.body).call? toolchain (settings.after requests)).toList := by
  unfold compile SessionSettings.diagnose Request.call? Session.after compileOptions
    CompileOptions.ofClasspath
  cases toolchain (settings.after requests).jdkHome with
  | error e => exact ⟨rfl, rfl⟩
  | ok compiler =>
    refine ⟨rfl, ?_⟩
    simp [Except.toOption, Event.calls, List.filterMap_map]

/-- A lint reports what compiling its unit gives. -/
theorem lint_result (s : Session) (unit : SourceUnit) :
    (s.lint unit).result =
      match (s.compile unit).1 with
      | .ok diagnostics => report diagnostics
      | .error e => .error (.compile e) := by
  unfold lint
  dsimp only
  cases (s.compile unit).1 <;> rfl

/-- What comes of a lint behind requests. -/
theorem lint_after_result (unit : SourceUnit) :
    ((Session.after toolchain settings requests).lint unit).result =
      match (settings.after requests).diagnose toolchain unit with
      | .ok diagnostics => report diagnostics
      | .error e => .error (.compile e) := by
  rw [lint_result, (compile_after settings requests unit).1]

/-- A lint counts, whatever comes of it, and changes nothing else. -/
theorem lint_session (s : Session) (unit : SourceUnit) :
    (s.lint unit).session = { s with lintCount := s.lintCount + 1 } := by
  unfold lint
  dsimp only
  cases (s.compile unit).1 <;> rfl

/-- A lint calls what compiling its unit calls. -/
theorem calls_lint (s : Session) (unit : SourceUnit) :
    Event.calls (s.lint unit).events = Event.calls (s.compile unit).2 := by
  unfold lint
  dsimp only
  cases (s.compile unit).1 with
  | error e => rfl
  | ok diagnostics =>
    rw [Event.calls_append]
    exact List.append_nil _

/-- A session begins as the one behind no requests. -/
theorem start_session (htoolchain : toolchain.OnlyUnavailable) :
    (Session.start toolchain settings).session = Session.after toolchain settings [] := by
  rw [start, findCompiler_session _ (htoolchain _)]
  rfl

/-- A request that neither sets a property nor asks for diagnostics leaves the session alone. -/
theorem after_concat_of_idle {r : Request}
    (hclasspath : r.valueFor? Request.classpathProperty = none)
    (hjdk : r.valueFor? Request.jdkProperty = none) (hlint : r.isLint = false) :
    Session.after toolchain settings (requests ++ [r]) =
      Session.after toolchain settings requests := by
  have h := settings.after_concat_of_none requests hclasspath hjdk
  unfold Session.after
  rw [h, List.countP_append]
  simp [hlint]

/-- A lint is counted, and changes nothing else. -/
theorem after_concat_lint (name body : String) :
    Session.after toolchain settings (requests ++ [.lint name body]) =
      { Session.after toolchain settings requests with
        lintCount := (Session.after toolchain settings requests).lintCount + 1 } := by
  have h := settings.after_concat_of_none requests (r := .lint name body) rfl rfl
  unfold Session.after
  rw [h, List.countP_append]
  rfl

/-- A property that is set does not change the count of lints. -/
theorem countP_isLint_concat_set (property value : String) :
    (requests ++ [Request.set property value]).countP Request.isLint =
      requests.countP Request.isLint := by
  rw [List.countP_append]
  rfl

/-- **One request takes the session of the requests before it to the session of the requests
with it**, whatever comes of the request. -/
theorem dispatch_after (htoolchain : toolchain.OnlyUnavailable) (r : Request) :
    ((Session.after toolchain settings requests).dispatch toolchain r).session =
      Session.after toolchain settings (requests ++ [r]) := by
  cases r with
  | lint name body => rw [dispatch, lint_session, after_concat_lint]
  | set property value =>
    rw [dispatch, set]
    split_ifs with hclasspath hjdk
    · subst hclasspath
      have h := settings.after_concat_classpath requests value
      unfold Session.after
      rw [h, countP_isLint_concat_set]
      rfl
    · subst hjdk
      have h := settings.after_concat_jdk requests value
      dsimp only
      rw [setJdk_session _ _ (htoolchain _)]
      unfold Session.after
      rw [h, countP_isLint_concat_set]
    · exact (after_concat_of_idle settings requests (r := .set property value)
        (if_neg hclasspath) (if_neg hjdk) rfl).symm
  | kill => exact (after_concat_of_idle settings requests rfl rfl rfl).symm
  | unknown header => exact (after_concat_of_idle settings requests rfl rfl rfl).symm
  | malformed header fault => exact (after_concat_of_idle settings requests rfl rfl rfl).symm

/-- A request causes its call and no other. -/
theorem calls_dispatch_after (r : Request) :
    Event.calls ((Session.after toolchain settings requests).dispatch toolchain r).events =
      (r.call? toolchain (settings.after requests)).toList := by
  cases r with
  | lint name body =>
    rw [dispatch, calls_lint]
    exact (compile_after settings requests ⟨name, body⟩).2
  | set property value =>
    rw [dispatch, set]
    split_ifs
    · rfl
    · exact calls_setJdk _ value
    · rfl
  | kill => rfl
  | unknown header => rfl
  | malformed header fault => rfl

end Session

/-! ## One connection -/

namespace Connection

variable {toolchain : Toolchain} {timeLimit : Binary64} {c : Connection} {s : Session}
  (settings : SessionSettings) (before : List Connection) (htime : timeLimitError? timeLimit = none)

include htime in
/-- **A connection takes the session of the connections before it to the session of the
connections with it**, whatever becomes of it. -/
theorem serve_after (htoolchain : toolchain.OnlyUnavailable) (c : Connection) :
    (c.serve (Session.after toolchain settings (requests before)) toolchain timeLimit).session =
      Session.after toolchain settings (requests (before ++ [c])) := by
  unfold requests
  rw [List.filterMap_append]
  rcases serve_cases htime c (Session.after toolchain settings (before.filterMap request?))
    toolchain with ⟨hawaited, hserve⟩ | ⟨fault, hfault, hserve⟩ | ⟨-, hnone, hserve⟩ |
      ⟨r, hrequest, hawaited⟩
  · obtain ⟨header, fault, hmalformed⟩ := exists_malformed_of_isAwaited hawaited
    have hidle : Session.after toolchain settings
        (before.filterMap request? ++ [.malformed header fault]) =
          Session.after toolchain settings (before.filterMap request?) :=
      Session.after_concat_of_idle settings _ rfl rfl rfl
    rw [hserve, unanswered]
    simp [hmalformed, hidle]
  · rw [hserve, unanswered]
    simp [request?_of_readFault? hfault]
  · rw [hserve, unanswered]
    simp [hnone]
  · rw [(serve_of_request?_some htime hawaited hrequest).1,
      Session.dispatch_after settings _ htoolchain]
    simp [hrequest]

include htime in
/-- A connection calls what its request calls in the settings of the connections before it. -/
theorem calls_serve_after (c : Connection) :
    Event.calls (c.serve (Session.after toolchain settings (requests before)) toolchain
        timeLimit).events =
      (c.request?.bind (·.call? toolchain (settings.after (requests before)))).toList := by
  rcases serve_cases htime c (Session.after toolchain settings (requests before)) toolchain with
    ⟨hawaited, hserve⟩ | ⟨fault, hfault, hserve⟩ | ⟨-, hnone, hserve⟩ | ⟨r, hrequest, hawaited⟩
  · obtain ⟨header, fault, hmalformed⟩ := exists_malformed_of_isAwaited hawaited
    rw [hserve, hmalformed]
    rfl
  · rw [hserve, request?_of_readFault? hfault]
    rfl
  · rw [hserve, hnone]
    rfl
  · rw [(serve_of_request?_some htime hawaited hrequest).2, hrequest,
      Session.calls_dispatch_after]
    rfl

include htime in
/-- The client of a lint receives the answer in the settings of the connections before it. -/
theorem received_serve_lint {name body : String} (h : c.request? = some (.lint name body)) :
    (c.serve (Session.after toolchain settings (requests before)) toolchain timeLimit).received =
      c.reception.taken
        ((settings.after (requests before)).lintAnswer toolchain ⟨name, body⟩) := by
  have hawaited : c.isAwaited timeLimit = false := isAwaited_eq_false h (by simp)
  have hlint : ((Session.after toolchain settings (requests before)).lint
      ⟨name, body⟩).result = _ := Session.lint_after_result settings (requests before) ⟨name, body⟩
  unfold SessionSettings.lintAnswer
  cases hdiagnose : (settings.after (requests before)).diagnose toolchain ⟨name, body⟩ with
  | error e =>
    rw [hdiagnose] at hlint
    rw [serve_of_error htime hawaited h hlint]
    rfl
  | ok diagnostics =>
    simp only [hdiagnose, Session.report] at hlint
    split_ifs at hlint with hwritable
    · rw [serve_of_ok htime hawaited h hlint]
      dsimp only
      rw [if_pos hwritable]
      rfl
    · rw [serve_of_error htime hawaited h hlint]
      dsimp only
      rw [if_neg hwritable]
      rfl

end Connection

/-! ## A run of connections -/

namespace Server

/-- What serving each of some connections comes to, one after the other. -/
def visits (s : Server) : List Connection → List Served
  | [] => []
  | c :: rest =>
    let served := c.serve s.session s.toolchain s.readTimeout
    served :: visits { s with session := served.session } rest

/-- What happens during a visit: its own events, and the message that it failed. -/
def visitEvents (served : Served) : List Event :=
  served.events ++ failureEvents served.result

/-- A visit that does not end tells of no failure. -/
theorem visitEvents_of_isEndless {served : Served} (h : served.result.isEndless = true) :
    visitEvents served = served.events := by
  rw [visitEvents, ServeResult.isEndless_iff.mp h]
  exact List.append_nil _

/-- Each of some connections is served to its end. -/
def EndsAll (s : Server) (cs : List Connection) : Prop :=
  ∀ served ∈ s.visits cs, served.result.isEndless = false

/-- Under a limit for the time each connection is served to its end. -/
theorem endsAll_of_isZero_eq_false {s : Server} (hzero : s.readTimeout.isZero = false)
    (cs : List Connection) : s.EndsAll cs := by
  induction cs generalizing s with
  | nil => exact List.forall_mem_nil _
  | cons c rest ih =>
    exact List.forall_mem_cons.mpr ⟨Connection.isEndless_serve_eq_false hzero,
      ih (s := { s with session := (c.serve s.session s.toolchain s.readTimeout).session }) hzero⟩

/-- A connection that does not end the daemon is followed by the rest. -/
theorem serveArrivals_cons (s : Server) (c : Connection) (rest : List Arrival)
    (hends : endsDaemon (c.serve s.session s.toolchain s.readTimeout).result = false)
    (hended : (c.serve s.session s.toolchain s.readTimeout).result.isEndless = false) :
    let served := c.serve s.session s.toolchain s.readTimeout
    s.serveArrivals (.connection c false :: rest) =
      (serveArrivals { s with session := served.session } rest).after (visitEvents served)
        served.received := by
  unfold visitEvents
  rw [serveArrivals]
  simp only [hends, hended, Bool.false_eq_true, if_false, List.append_nil]

/-- A connection whose serving does not end is followed by nothing. A stop that is asked for
meanwhile closes the listener, and no more. -/
theorem serveArrivals_endless (s : Server) (c : Connection) (stopMeanwhile : Bool)
    (rest : List Arrival)
    (h : (c.serve s.session s.toolchain s.readTimeout).result.isEndless = true) :
    let served := c.serve s.session s.toolchain s.readTimeout
    let left := { s with session := served.session }
    s.serveArrivals (.connection c stopMeanwhile :: rest) =
      ⟨.endless, if stopMeanwhile then left.stop else left,
        served.events ++ (if stopMeanwhile then s.stopNotice.map .logged else []),
        [served.received], none⟩ := by
  rw [serveArrivals, ServeResult.isEndless_iff.mp h]
  simp only [ServeResult.isEndless, if_true, failureEvents, List.append_nil]

/-- The session behind connections that were served one after the other. -/
def sessionBehind (s : Server) (cs : List Connection) : Session :=
  cs.foldl (fun session c => (c.serve session s.toolchain s.readTimeout).session) s.session

/-- The visits of connections put together. -/
theorem visits_append (s : Server) (first second : List Connection) :
    s.visits (first ++ second) =
      s.visits first ++ visits { s with session := s.sessionBehind first } second := by
  induction first generalizing s with
  | nil => rfl
  | cons c rest ih =>
    exact congrArg (_ :: ·)
      (ih { s with session := (c.serve s.session s.toolchain s.readTimeout).session })

/-- The session behind connections put together. -/
theorem sessionBehind_append (s : Server) (first second : List Connection) :
    s.sessionBehind (first ++ second) =
      sessionBehind { s with session := s.sessionBehind first } second :=
  List.foldl_append

/-- Connections with one more are served to their ends if they are and it is. -/
theorem endsAll_concat {s : Server} {cs : List Connection} {c : Connection} :
    s.EndsAll (cs ++ [c]) ↔ s.EndsAll cs ∧
      (c.serve (s.sessionBehind cs) s.toolchain s.readTimeout).result.isEndless = false := by
  unfold EndsAll
  rw [visits_append, List.forall_mem_append]
  exact and_congr_right' List.forall_mem_singleton

variable {s : Server} {settings : SessionSettings} {before : List Connection}
  (hsession : s.session = Session.after s.toolchain settings (Connection.requests before))
  (htoolchain : s.toolchain.OnlyUnavailable) (htime : timeLimitError? s.readTimeout = none)

/-- **A server serves connections that do not shut it down one after the other, and goes on with the
session behind them**, whatever they carry and whatever becomes of them, as long as serving them
ends. -/
theorem serveArrivals_connections (cs : List Connection)
    (h : ∀ c ∈ cs, ¬ c.ShutsDown s.readTimeout) (hends : s.EndsAll cs) (rest : List Arrival) :
    let run := serveArrivals { s with session := s.sessionBehind cs } rest
    s.serveArrivals (cs.map (.connection · false) ++ rest) =
      { run with
        events := (s.visits cs).flatMap visitEvents ++ run.events
        received := (s.visits cs).map (·.received) ++ run.received } := by
  induction cs generalizing s with
  | nil => rfl
  | cons c more ih =>
    obtain ⟨hc, hmore⟩ := List.forall_mem_cons.mp h
    obtain ⟨hended, hendsMore⟩ := List.forall_mem_cons.mp hends
    have hrest := ih
      (s := { s with session := (c.serve s.session s.toolchain s.readTimeout).session }) hmore
      hendsMore
    rw [List.map_cons, List.cons_append,
      serveArrivals_cons s c _ (Connection.endsDaemon_serve_of_not_shutsDown hc) hended]
    dsimp only at hrest ⊢
    rw [hrest]
    simp only [visits, sessionBehind, List.foldl_cons, ServerRun.after, List.flatMap_cons,
      List.map_cons, List.append_assoc, List.cons_append]

/-- Each visit is served in the session behind the connections before it. -/
theorem getElem?_visits (s : Server) (cs : List Connection) (k : Nat) :
    (s.visits cs)[k]? = cs[k]?.map fun c =>
      c.serve (s.sessionBehind (cs.take k)) s.toolchain s.readTimeout := by
  induction cs generalizing s k with
  | nil => rfl
  | cons c rest ih =>
    cases k with
    | zero => rfl
    | succ k => exact ih { s with session := _ } k

include hsession htoolchain htime in
/-- The session behind connections is the one that belongs to their requests. -/
theorem sessionBehind_eq_after (cs : List Connection) :
    s.sessionBehind cs =
      Session.after s.toolchain settings (Connection.requests (before ++ cs)) := by
  induction cs generalizing s before with
  | nil =>
    rw [List.append_nil]
    exact hsession
  | cons c more ih =>
    have hnext := Connection.serve_after settings before htime htoolchain c
    rw [← hsession] at hnext
    rw [List.append_cons]
    exact ih (s := { s with session := (c.serve s.session s.toolchain s.readTimeout).session })
      hnext htoolchain htime

include hsession htoolchain htime in
/-- Each visit finds the session of the connections before it. -/
theorem visits_getElem? (cs : List Connection) (k : Nat) :
    (s.visits cs)[k]? = cs[k]?.map fun c =>
      c.serve (Session.after s.toolchain settings (Connection.requests (before ++ cs.take k)))
        s.toolchain s.readTimeout := by
  rw [getElem?_visits, sessionBehind_eq_after hsession htoolchain htime]

include hsession htoolchain htime in
/-- A server goes on with the session that belongs to the requests of its connections. -/
theorem serveArrivals_append (cs : List Connection)
    (hkill : .kill ∉ Connection.requests cs) (hends : s.EndsAll cs) (rest : List Arrival) :
    let run := serveArrivals
      { s with session := Session.after s.toolchain settings (Connection.requests (before ++ cs)) }
      rest
    s.serveArrivals (cs.map (.connection · false) ++ rest) =
      { run with
        events := (s.visits cs).flatMap visitEvents ++ run.events
        received := (s.visits cs).map (·.received) ++ run.received } := by
  have hnone : ∀ c ∈ cs, ¬ c.ShutsDown s.readTimeout := fun c hc hshut =>
    hkill (List.mem_filterMap.mpr ⟨c, hc, hshut.2⟩)
  rw [← sessionBehind_eq_after hsession htoolchain htime]
  exact serveArrivals_connections cs hnone hends rest

include hsession htoolchain htime in
/-- A server stays with the first connection whose serving does not end. -/
theorem serveArrivals_until_endless {first behind : List Connection} {c : Connection}
    (hkill : .kill ∉ Connection.requests first) (hends : s.EndsAll first)
    (hendless : ¬ s.EndsAll (first ++ [c])) (rest : List Arrival) :
    s.serveArrivals ((first ++ c :: behind).map (.connection · false) ++ rest) =
      ⟨.endless,
        { s with session :=
            Session.after s.toolchain settings (Connection.requests (before ++ (first ++ [c]))) },
        (s.visits (first ++ [c])).flatMap visitEvents,
        (s.visits (first ++ [c])).map (·.received), none⟩ := by
  have hvisit : (c.serve (s.sessionBehind first) s.toolchain s.readTimeout).result.isEndless =
      true := eq_true_of_ne_false fun hended => hendless (endsAll_concat.mpr ⟨hends, hended⟩)
  have hfirst := serveArrivals_connections first
    (fun d hd hshut => hkill (List.mem_filterMap.mpr ⟨d, hd, hshut.2⟩)) hends
    (.connection c false :: (behind.map (.connection · false) ++ rest))
  have hlast := serveArrivals_endless { s with session := s.sessionBehind first } c false
    (behind.map (.connection · false) ++ rest) hvisit
  rw [List.map_append, List.map_cons, List.append_assoc, List.cons_append]
  rw [← sessionBehind_eq_after hsession htoolchain htime, sessionBehind_append, visits_append]
  dsimp only at hfirst hlast ⊢
  rw [hfirst, hlast, List.flatMap_append, List.map_append]
  simp only [visits, List.flatMap_cons, List.flatMap_nil, List.append_nil, List.map_cons,
    List.map_nil, visitEvents_of_isEndless hvisit, Bool.false_eq_true, if_false]
  rfl

/-- That a visit failed is logged, which is no call. -/
theorem calls_visitEvents (served : Served) :
    Event.calls (visitEvents served) = Event.calls served.events := by
  have h : Event.calls (failureEvents served.result) = [] := by
    unfold failureEvents
    split <;> rfl
  rw [visitEvents, Event.calls_append, h, List.append_nil]

/-- **What a server remembers of connections that did not kill it.** If serving them ends, whatever
arrives behind them meets the session that their requests determine: the class path and the
installation set last, the compiler that the toolchain answers for that installation, and the number
of lints. Otherwise the server stays with the first connection whose serving does not end, in the
session that the requests up to it determine. Each visit calls the compiler once if it asked for
diagnostics and there is a compiler, in the settings left by the visits before it, and never
otherwise; and the client of a lint receives what that one call says, or as much of it as it takes,
and nothing of any other. -/
theorem serveArrivals_history (s : Server) (settings : SessionSettings)
    (hstart : s.session = (Session.start s.toolchain settings).session)
    (htoolchain : s.toolchain.OnlyUnavailable) (htime : timeLimitError? s.readTimeout = none)
    (cs : List Connection) (hkill : .kill ∉ Connection.requests cs) (rest : List Arrival) :
    (s.EndsAll cs →
      let run := serveArrivals
        { s with session := Session.after s.toolchain settings (Connection.requests cs) } rest
      s.serveArrivals (cs.map (.connection · false) ++ rest) =
        { run with
          events := (s.visits cs).flatMap visitEvents ++ run.events
          received := (s.visits cs).map (·.received) ++ run.received }) ∧
    (∀ (first : List Connection) (c : Connection) (behind : List Connection),
      cs = first ++ c :: behind → s.EndsAll first → ¬ s.EndsAll (first ++ [c]) →
      s.serveArrivals (cs.map (.connection · false) ++ rest) =
        ⟨.endless,
          { s with session :=
              Session.after s.toolchain settings (Connection.requests (first ++ [c])) },
          (s.visits (first ++ [c])).flatMap visitEvents,
          (s.visits (first ++ [c])).map (·.received), none⟩) ∧
    ∀ (k : Nat) (c : Connection), cs[k]? = some c → ∃ served, (s.visits cs)[k]? = some served ∧
      Event.calls (visitEvents served) =
        (c.request?.bind (·.call? s.toolchain
          (settings.after (Connection.requests (cs.take k))))).toList ∧
      ∀ name body, c.request? = some (.lint name body) →
        served.received =
          c.reception.taken ((settings.after (Connection.requests (cs.take k))).lintAnswer
            s.toolchain ⟨name, body⟩) := by
  have hsession : s.session = Session.after s.toolchain settings (Connection.requests []) :=
    hstart.trans (Session.start_session settings htoolchain)
  refine ⟨fun hends => serveArrivals_append hsession htoolchain htime cs hkill hends rest, ?_, ?_⟩
  · rintro first c behind rfl hends hendless
    have hfirst : .kill ∉ Connection.requests first := fun hmem => hkill <| by
      unfold Connection.requests
      rw [List.filterMap_append]
      exact List.mem_append_left _ hmem
    exact serveArrivals_until_endless hsession htoolchain htime hfirst hends hendless rest
  · intro k c hc
    have hvisit := visits_getElem? hsession htoolchain htime cs k
    rw [hc, List.nil_append] at hvisit
    refine ⟨_, hvisit, ?_, ?_⟩
    · rw [calls_visitEvents]
      exact Connection.calls_serve_after settings (cs.take k) htime c
    · intro name body hlint
      exact Connection.received_serve_lint settings (cs.take k) htime hlint

/-- A server whose only compiler refuses empty units and warns of all others. -/
def sample : Server where
  host := "127.0.0.1"
  port := 56789
  readTimeout := .ofNat 30
  toolchain := .only "/jdk" fun unit _ =>
    ⟨[], none, if unit.body = "" then .error .embeddedNul
      else .ok [⟨"unused", some 1, some 7, .warning⟩]⟩
  stopNotice := []
  uptime := .zero false
  session := ⟨"a.jar", some "/none", none, 0⟩
  running := true
  listener := none

/-- A lint without a compiler, an installation set, a lint that fails, a lint that breaks off, one
that is reset too early, a class path set, and a lint whose client has gone. -/
def sampleConnections : List Connection :=
  [("LINT\tBar\nclass Bar {}\nEND\n", ClientState.closed, Reception.whole),
    ("SET\tJDK\t/jdk\n", .closed, .whole), ("LINT\tBar\nEND\n", .closed, .whole),
    ("LINT\tBar\nclass Bar {}\n", .silent, .whole),
    ("LINT\tBar\nclass Bar {}\nEND", .broken .brokenPipe, .gone .brokenPipe),
    ("SET\tCLASSPATH\tb.jar\n", .closed, .gone .brokenPipe),
    ("LINT\tBar\nclass Bar {}\nEND\n", .closed, .gone .brokenPipe)].map
    fun (text, client, reception) => ⟨Text.Utf8.encode text.toList, client, reception⟩

/-- The last settings hold, three lints count, two call the compiler, and the class path of each
call is that of its time. -/
theorem serveArrivals_history_sample :
    let run := sample.serveArrivals (sampleConnections.map (.connection · false) ++ [])
    .kill ∉ Connection.requests sampleConnections ∧ sample.EndsAll sampleConnections ∧
      run.server.session.classpath = "b.jar" ∧ run.server.session.jdkHome = some "/jdk" ∧
      run.server.session.compiler.isSome ∧ run.server.session.lintCount = 3 ∧
      (sample.visits sampleConnections).map (fun v => (Event.calls v.events).map (·.options)) =
        [[], [], [⟨"a.jar", false, none⟩], [], [], [], [⟨"b.jar", false, none⟩]] := by
  have hkill : .kill ∉ Connection.requests sampleConnections := by decide
  have hends : sample.EndsAll sampleConnections := endsAll_of_isZero_eq_false (by decide +kernel) _
  obtain ⟨hrun, -⟩ := sample.serveArrivals_history ⟨"a.jar", some "/none"⟩ rfl
    (Toolchain.onlyUnavailable_only _ _) (by decide +kernel) sampleConnections hkill []
  refine ⟨hkill, hends, ?_⟩
  rw [hrun hends]
  exact ⟨rfl, rfl, rfl, rfl, rfl⟩

end Server

end LintDaemon
